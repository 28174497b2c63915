import ObjectCourier.Proofs.Graph.Isomorphism
import ObjectCourier.Status.Business

/-!
Busy objects. A customer is busy while loads are outstanding, a node when it is marked so, and a list
while an element is. Graphs that are isomorphic are busy together. A copy is busy when its source is
marked so, but its loads are counted anew.
-/

namespace ObjectCourier

/-- Objects of the type tell that they are busy by what is recorded of them. -/
def ObjType.marksBusy : ObjType → Bool
  | record .node | list .node => true
  | _ => false

namespace Store

def isBusy (store : Store) (node : Node) : Bool :=
  ((store.nodeStatus? node).map fun status => status.busy).getD false

def isBusyData (store : Store) : (type : RecordType) → (ObjType.record type).Data Carrier.live → Bool
  | .customer, (_, _, _, _, _, loads, _) => 0 < store.outstanding loads
  | .node, (_, _, _, _, _, _, _, _, _, _, _, marks, _) => List.contains (α := String) marks "busy"
  | .contact, _ | .link, _ | .gadget, _ | .part, _ | .marker, _ | .scalars, _ => false

variable {store : Store} {type : RecordType} {ref : Ref}

theorem isBusy_record {data : (ObjType.record type).Data Carrier.live}
    (found : store.data? (.record type) ref = some data) :
    store.isBusy ⟨.record type, ref⟩ = store.isBusyData type data := by
  unfold isBusy nodeStatus? status?
  cases type with
  | customer | contact | node =>
      simp only [recordStatus?, ownStatus?, found, Option.map_some, Option.getD_some]
      rfl
  | link | gadget | part | marker | scalars => rfl

private theorem isBusy_list {items : List Ref} (found : store.data? (.list type) ref = some items) :
    store.isBusy ⟨.list type, ref⟩ =
      (type.tracks && items.any fun item => store.isBusy ⟨.record type, item⟩) := by
  unfold isBusy nodeStatus? status?
  cases tracks : type.tracks with
  | false =>
      simp only [tracks, Bool.false_and]
      rfl
  | true =>
      simp only [tracks, if_true, elementsStatus?, found, Option.map_some, Option.getD_some,
        Bool.true_and]
      change (List.any (List.filterMap (store.recordStatus? type) items) fun status =>
        status.busy) = _
      rw [List.any_filterMap]
      congr 1
      funext item
      cases store.recordStatus? type item <;> rfl

theorem isBusy_of_missing {type : ObjType} (missing : store.data? type ref = none) :
    store.isBusy ⟨type, ref⟩ = false := by
  unfold isBusy nodeStatus? status?
  cases type with
  | record type =>
      cases type with
      | customer | contact | node =>
          simp only [recordStatus?, ownStatus?, missing, Option.map_none, Option.getD_none]
      | link | gadget | part | marker | scalars => rfl
  | list type =>
      cases tracks : type.tracks with
      | false =>
          simp only [tracks]
          rfl
      | true =>
          simp only [tracks, if_true, elementsStatus?, missing]
          rfl

variable {left right : Store} {place : Ref → Ref}

private theorem texts_of_matches {Source Target : ObjType → Type}
    {same : (type : ObjType) → Source type → Target type → Prop} {left right : List String}
    (alike : (FieldType.vector .text).Matches same left right) : left = right := by
  have words : List.Forall₂ (· = ·) left right := alike
  rwa [List.forall₂_eq_eq_eq] at words

private theorem texts_of_restored {target : Carrier} {restoration : Restoration target}
    {policy : Policy} {typeKey name : String} {permitted : Bool} {left right : List String}
    (restored : (FieldType.vector .text).Restored restoration policy typeKey name permitted left
      right) : right = left :=
  eq_of_forall₂ restored

/-- A list is as busy as another one when its elements are as busy as those, or idle when they all
are idle. -/
theorem isBusy_of_elements {carries : Bool} {items copies : List Ref}
    (found : left.data? (.list type) ref = some items)
    (copied : right.data? (.list type) (place ref) = some copies)
    (elements : List.Forall₂ (fun item copy => right.isBusy ⟨.record type, copy⟩ =
      (carries && left.isBusy ⟨.record type, item⟩)) items copies) :
    right.isBusy ⟨.list type, place ref⟩ = (carries && left.isBusy ⟨.list type, ref⟩) := by
  rw [isBusy_list copied, isBusy_list found, Bool.and_left_comm]
  congr 1
  clear found copied
  induction elements with
  | nil => exact (Bool.and_false carries).symm
  | cons head _ ih => rw [List.any_cons, List.any_cons, head, ih, Bool.and_or_distrib_left]

theorem isBusyData_of_matches {relation : Carrier.Relation Carrier.live Carrier.live}
    {data copy : (ObjType.record type).Data Carrier.live}
    (counters : ∀ counter other, relation.loads counter other →
      right.outstanding other = left.outstanding counter)
    (alike : (ObjType.record type).shape.Matches relation data copy) :
    right.isBusyData type copy = left.isBusyData type data := by
  cases type with
  | customer =>
      obtain ⟨-, -, -, -, -, loads, -⟩ := alike
      exact congrArg (fun count => decide (0 < count)) (counters _ _ loads)
  | node =>
      obtain ⟨-, -, -, -, -, -, -, -, -, -, -, marks, -⟩ := alike
      exact congrArg (fun marks : List String => marks.contains "busy") (texts_of_matches marks).symm
  | contact | link | gadget | part | marker | scalars => rfl

theorem Isomorphism.isBusy_record (isomorphism : left.Isomorphism right)
    (reached : isomorphism.reached ⟨.record type, ref⟩) :
    right.isBusy ⟨.record type, isomorphism.place ref⟩ = left.isBusy ⟨.record type, ref⟩ := by
  obtain ⟨data, copy, found, copied, -, alike⟩ := isomorphism.objects _ reached
  rw [Store.isBusy_record copied, isBusyData_of_matches (fun _ _ => And.right) alike,
    Store.isBusy_record found]

/-- Graphs that are isomorphic are busy together. -/
theorem Isomorphic.isBusy_eq {root other : Node} (isomorphic : left.Isomorphic right root other) :
    right.isBusy other = left.isBusy root := by
  obtain ⟨isomorphism, reached, rfl⟩ := isomorphic
  obtain ⟨type, ref⟩ := root
  cases type with
  | record type => exact isomorphism.isBusy_record reached
  | list type =>
      obtain ⟨items, copies, found, copied, -, alike⟩ := isomorphism.objects _ reached
      apply (isBusy_of_elements found copied (List.Forall₂.imp ?_ alike)).trans (Bool.true_and _)
      rintro item _ ⟨below, rfl⟩
      exact (isomorphism.isBusy_record below).trans (Bool.true_and _).symm

theorem Isomorphic.idle {root other : Node} (isomorphic : left.Isomorphic right root other)
    (idle : left.isBusy root = false) : right.isBusy other = false :=
  isomorphic.isBusy_eq.trans idle

section Copies

variable {source before after : Store} {policy : Policy} {order : List Node}

private theorem isBusyData_of_copied {data copy : (ObjType.record type).Data Carrier.live}
    (restored : (ObjType.record type).shape.Restored (source.copying before after order place) policy
      type.key data copy) : after.isBusyData type copy =
        ((ObjType.record type).marksBusy && source.isBusyData type data) := by
  cases type with
  | customer =>
      obtain ⟨-, -, -, -, -, loads, -⟩ := restored
      exact congrArg (fun count => decide (0 < count)) (CountsAnew.zero loads)
  | node =>
      obtain ⟨-, -, -, -, -, -, -, -, -, -, -, marks, -⟩ := restored
      exact congrArg (fun marks : List String => marks.contains "busy") (texts_of_restored marks)
  | contact | link | gadget | part | marker | scalars => rfl

theorem Copied.isBusy_record (copied : source.Copied before after policy order place)
    (member : ⟨.record type, ref⟩ ∈ order) : after.isBusy ⟨.record type, place ref⟩ =
      ((ObjType.record type).marksBusy && source.isBusy ⟨.record type, ref⟩) := by
  obtain ⟨data, copy, found, present, restored⟩ := copied.objects _ member
  rw [Store.isBusy_record present, isBusyData_of_copied restored, Store.isBusy_record found]

/-- A copy is busy when its source is and what is recorded of it tells so. -/
theorem Copied.isBusy_eq (copied : source.Copied before after policy order place) {root : Node}
    (member : root ∈ order) :
    after.isBusy (root.moved place) = (root.type.marksBusy && source.isBusy root) := by
  obtain ⟨type, ref⟩ := root
  cases type with
  | record type => exact copied.isBusy_record member
  | list type =>
      obtain ⟨items, copies, found, present, restored⟩ := copied.objects _ member
      have marks : (ObjType.list type).marksBusy = (ObjType.record type).marksBusy := by
        cases type <;> rfl
      rw [marks]
      refine isBusy_of_elements found present (List.Forall₂.imp ?_ restored)
      rintro item _ ⟨below, rfl⟩
      exact copied.isBusy_record below

/-- A copy of an idle object is idle. -/
theorem Copied.idle (copied : source.Copied before after policy order place) {root : Node}
    (member : root ∈ order) (idle : source.isBusy root = false) :
    after.isBusy (root.moved place) = false := by
  rw [copied.isBusy_eq member, idle, Bool.and_false]

end Copies

end Store

end ObjectCourier
