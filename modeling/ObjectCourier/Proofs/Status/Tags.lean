import ObjectCourier.Object.Fields
import ObjectCourier.Proofs.Object.Heap
import ObjectCourier.Proofs.Object.Tree
import ObjectCourier.Status.Business

/-!
The tags of held values. Every operation on containers tags a value by its type, and a container
whose tag is that of its type answers with the status of its value whenever the value has one.
Contents that match have the same tags, so a copy by value is tagged as what it is a copy of.
-/

namespace ObjectCourier

variable {source target : Carrier}

namespace Held

variable {α β : Type} {tracks : Bool}

/-- The tag tells whether values of the type answer status questions. -/
def Tagged (tracks : Bool) : Held α → Prop
  | empty => True
  | plain _ => tracks = false
  | tracked _ => tracks = true

theorem tagged_wrap (tracks : Bool) (value : α) : (wrap tracks value).Tagged tracks := by
  cases tracks <;> rfl

theorem value?_wrap (tracks : Bool) (value : α) : (wrap tracks value).value? = some value := by
  cases tracks <;> rfl

theorem eq_empty {held : Held α} (nothing : held.value? = none) : held = empty := by
  cases held with
  | empty => rfl
  | plain _ | tracked _ => cases nothing

theorem matches_wrap {same : α → β → Prop} (tracks : Bool) {left : α} {right : β}
    (alike : same left right) : (wrap tracks left).Matches same (wrap tracks right) := by
  cases tracks <;> exact alike

theorem Tagged.eq_wrap {held : Held α} (tagged : held.Tagged tracks) {value : α}
    (full : held.value? = some value) : held = wrap tracks value := by
  cases held with
  | empty => cases full
  | plain other =>
      cases full
      rw [show tracks = false from tagged]
      rfl
  | tracked other =>
      cases full
      rw [show tracks = true from tagged]
      rfl

theorem Tagged.modify {held : Held α} (tagged : held.Tagged tracks) (change : α → α) :
    (held.modify change).Tagged tracks := by
  cases held <;> exact tagged

theorem Matches.tagged_iff {same : α → β → Prop} {left : Held α} {right : Held β}
    (alike : left.Matches same right) : left.Tagged tracks ↔ right.Tagged tracks := by
  match left, right, alike with
  | .empty, .empty, _ | .plain _, .plain _, _ | .tracked _, .tracked _, _ => exact Iff.rfl

end Held

/-- The containers that are made by operations: they start as a placeholder, empty, filled, or from
what was recorded of another one, and are assigned, edited and cleaned from there on. -/
inductive Container.Made {α : Type} (tracks : Bool) : Container α → Prop where
  | placeholder : Made tracks .placeholder
  | empty {name : String} {serializable : Bool} {container : Container α}
      (made : Container.empty? name serializable = some container) : Made tracks container
  | filled {name : String} {value : α} {serializable : Bool} {container : Container α}
      (made : Container.filled? tracks name value serializable = some container) :
      Made tracks container
  | restored (name : String) (value? : Option α) (dirty serializable : Bool) :
      Made tracks
        { name := name, held := value?.elim .empty (.wrap tracks), dirty := dirty
          serializable := serializable }
  | assigned {container : Container α} (earlier : Made tracks container) (value : α) :
      Made tracks (container.assign tracks value)
  | edited {container : Container α} (earlier : Made tracks container) (change : α → α) :
      Made tracks (container.modify change)
  | cleaned {container : Container α} (earlier : Made tracks container) :
      Made tracks container.clean

private theorem Container.held_of_empty? {α : Type} {name : String} {serializable : Bool}
    {container : Container α} (made : empty? name serializable = some container) :
    container.held = .empty := by
  unfold empty? at made
  split at made
  · cases made
  · cases made
    rfl

/-- Every operation keeps the tag right. -/
theorem Container.Made.tagged {α : Type} {tracks : Bool} {container : Container α}
    (made : container.Made tracks) : container.held.Tagged tracks := by
  induction made with
  | placeholder => trivial
  | empty made =>
      rw [held_of_empty? made]
      trivial
  | filled made =>
      obtain ⟨container, -, rfl⟩ := Option.map_eq_some_iff.mp made
      exact Held.tagged_wrap tracks _
  | restored name value? dirty serializable =>
      cases value? with
      | none => trivial
      | some value => exact Held.tagged_wrap tracks value
  | assigned _ value _ => exact Held.tagged_wrap tracks value
  | edited _ change ih => exact ih.modify change
  | cleaned _ ih => exact ih

private theorem Store.tracks_of_nodeStatus? {store : Store} {node : Node} {answer : Status}
    (answers : store.nodeStatus? node = some answer) : node.type.tracks = true := by
  obtain ⟨type, ref⟩ := node
  unfold nodeStatus? status? at answers
  cases type with
  | record type => cases type <;> first | rfl | cases answers
  | list element =>
      cases tracks : element.tracks with
      | true => exact tracks
      | false =>
          simp only [tracks] at answers
          cases answers

private theorem FieldType.tracks_of_node? {Handle : ObjType → Type} {type : FieldType}
    {value : type.Val Handle} {node : (target : ObjType) × Handle target}
    (holds : type.node? value = some node) : type.tracks = node.1.tracks := by
  induction type with
  | int _ | float32 | float64 | bool | text | vector _ => cases holds
  | option type ih =>
      match value with
      | none => cases holds
      | some inner => exact ih holds
  | handle type =>
      cases holds
      rfl

private theorem FieldType.tracks_of_status? {store : Store} {type : FieldType}
    {value : type.Val Carrier.live.Handle} {answer : Status}
    (answers : type.status? store value = some answer) : type.tracks = true := by
  obtain ⟨node, holds, below⟩ := Option.bind_eq_some_iff.mp answers
  obtain ⟨found, leads, rfl⟩ := Option.map_eq_some_iff.mp holds
  rw [tracks_of_node? leads]
  exact Store.tracks_of_nodeStatus? below

def Container.ownStatus {α : Type} (container : Container α) : Status where
  dirty := container.dirty
  selfDirty := container.dirty
  valid := true
  selfValid := true
  savable := true

/-- A container that is tagged as its type answers with the status of its value, and for itself only
when the value has none. -/
theorem Container.status_of_tagged {store : Store} {type : FieldType}
    {container : Container (type.Val Carrier.live.Handle)}
    (tagged : container.held.Tagged type.tracks) :
    container.status (type.status? store) =
      ((container.value?.bind (type.status? store)).map
        fun answer => { answer with savable := true }).getD container.ownStatus := by
  obtain ⟨name, held, dirty, serializable⟩ := container
  cases held with
  | empty => rfl
  | plain value =>
      have silent : type.status? store value = none := by
        cases answers : type.status? store value with
        | none => rfl
        | some answer =>
            have tracks := FieldType.tracks_of_status? answers
            cases tracks.symm.trans tagged
      change _ = ((type.status? store value).map _).getD _
      rw [silent]
      rfl
  | tracked value =>
      change _ = ((type.status? store value).map _).getD _
      unfold status delegated
      dsimp only
      cases type.status? store value <;> rfl

def FieldContent.answers (store : Store) : FieldContent → Option (Option Status × Status)
  | container type holder =>
      some (holder.value?.bind (type.status? store), holder.status (type.status? store))
  | bare _ _ | closed => none

/-- What the container in a field of an object answers. -/
def Store.fieldAnswers (store : Store) (node : Node) (name : String) :
    Option (Option Status × Status) :=
  match store.field? node name with
  | .ok (some content) => content.answers store
  | .ok none | .error _ => none

section Contents

variable (good : (type : FieldType) → Container (type.Val source.Handle) → Prop)

def Form.Containers : (form : Form) → form.Val source → Prop
  | container type, holder => good type holder
  | bare _, _ | aside _, _ | loads, _ | memo, _ => True

def Members.Containers : (members : List Member) → Members source members → Prop
  | [], _ => True
  | member :: others, (first, rest) =>
      member.form.Containers good first ∧ Containers others rest

def Shape.Containers : (shape : Shape) → shape.Data source → Prop
  | fields members, data => Members.Containers good members data
  | elements _, _ => True

end Contents

section Weaker

variable {good weaker : (type : FieldType) → Container (type.Val source.Handle) → Prop}
  (implies : ∀ type holder, good type holder → weaker type holder)

include implies

theorem Form.Containers.imp {form : Form} {value : form.Val source}
    (every : form.Containers good value) : form.Containers weaker value := by
  cases form with
  | container type => exact implies type value every
  | bare _ | aside _ | loads | memo => trivial

theorem Members.Containers.imp {members : List Member} {value : Members source members}
    (every : Members.Containers good members value) : Members.Containers weaker members value := by
  induction members with
  | nil => trivial
  | cons member others ih => exact ⟨Form.Containers.imp implies every.1, ih every.2⟩

theorem Shape.Containers.imp {shape : Shape} {data : shape.Data source}
    (every : shape.Containers good data) : shape.Containers weaker data := by
  cases shape with
  | fields members => exact Members.Containers.imp implies every
  | elements type => trivial

end Weaker

/-- The container is tagged as its type. -/
def Container.Fits (type : FieldType) (holder : Container (type.Val source.Handle)) : Prop :=
  holder.held.Tagged type.tracks

def Shape.Tagged (shape : Shape) (data : shape.Data source) : Prop :=
  shape.Containers Container.Fits data

section Matching

variable {relation : Carrier.Relation source target}

private theorem Form.Matches.fits_iff {form : Form} {left : form.Val source}
    {right : form.Val target} (alike : form.Matches relation left right) :
    form.Containers Container.Fits left ↔ form.Containers Container.Fits right := by
  cases form with
  | container type => exact (Container.Matches.held alike).tagged_iff
  | bare _ | aside _ | loads | memo => exact Iff.rfl

private theorem Members.Matches.fits_iff {members : List Member} {left : Members source members}
    {right : Members target members} (alike : Members.Matches relation members left right) :
    Members.Containers Container.Fits members left ↔
      Members.Containers Container.Fits members right := by
  induction members with
  | nil => exact Iff.rfl
  | cons member others ih => exact and_congr (Form.Matches.fits_iff alike.1) (ih alike.2)

/-- Contents that match are tagged alike. -/
theorem Shape.Matches.tagged_iff {shape : Shape} {left : shape.Data source}
    {right : shape.Data target} (alike : shape.Matches relation left right) :
    shape.Tagged left ↔ shape.Tagged right := by
  cases shape with
  | fields members => exact Members.Matches.fits_iff alike
  | elements type => exact Iff.rfl

end Matching

def Tree.Tagged : (depth : Nat) → (type : ObjType) → Tree depth type → Prop
  | 0, _, _ => True
  | depth + 1, type, tree =>
      type.shape.Tagged tree ∧ ∀ child ∈ type.shape.handles tree, Tagged depth child.1 child.2

def Embedded.Tagged {type : ObjType} (copy : Embedded type) : Prop :=
  Tree.Tagged copy.depth type copy.tree

theorem forall_mem_iff_of_forall₂ {α β : Type} {related : α → β → Prop} {left : List α}
    {right : List β} {first : α → Prop} {second : β → Prop}
    (alike : List.Forall₂ related left right)
    (same : ∀ left right, related left right → (first left ↔ second right)) :
    (∀ item ∈ left, first item) ↔ ∀ item ∈ right, second item := by
  induction alike with
  | nil => exact iff_of_true nofun nofun
  | cons head _ ih => rw [List.forall_mem_cons, List.forall_mem_cons, ih, same _ _ head]

/-- Trees that are the same are tagged alike. -/
theorem Tree.Same.tagged_iff {left right : Nat} {type : ObjType} {tree : Tree left type}
    {other : Tree right type} (same : Tree.Same left right type tree other) :
    Tree.Tagged left type tree ↔ Tree.Tagged right type other := by
  induction left generalizing right type with
  | zero => exact tree.elim
  | succ left ih =>
      match right with
      | 0 => exact other.elim
      | right + 1 =>
          refine and_congr (Shape.Matches.tagged_iff same) ?_
          apply forall_mem_iff_of_forall₂ (Shape.handles_paired same)
          rintro _ _ ⟨related⟩
          exact ih related

end ObjectCourier
