import ObjectCourier.Business.Access
import ObjectCourier.Proofs.Graph.Unrolling
import ObjectCourier.Proofs.Status.Following
import ObjectCourier.Proofs.Status.Tagging

/-!
The status of copies. An object of a copy stands for an object on the walk, or has the same tree as
one that was carried by value. Either way the two look the same, so a copy of an object below which
no loads are outstanding answers as the object does, and so do its containers.
-/

namespace ObjectCourier

namespace Store

inductive Stands (source after : Store) (order : List Node) (place : Ref → Ref) :
    (type : ObjType) → Ref → Ref → Prop where
  | walked {type : ObjType} {ref : Ref} (member : ⟨type, ref⟩ ∈ order) :
      Stands source after order place type ref (place ref)
  | carried {type : ObjType} {ref other : Ref}
      (twins : source.Twins after ⟨type, ref⟩ ⟨type, other⟩) :
      Stands source after order place type ref other

def standing (source after : Store) (order : List Node) (place : Ref → Ref) :
    Carrier.Relation Carrier.live Carrier.live where
  handle := source.Stands after order place
  loads _ _ := True
  memo _ _ := True

variable {source before after store : Store} {policy : Policy} {order : List Node}
  {place : Ref → Ref} {root node : Node}

private theorem copying_within :
    (source.copying before after order place).Within (source.standing after order place) where
  walked := by
    rintro type ref _ ⟨member, rfl⟩
    exact .walked member
  copied := by
    rintro type ref other ⟨-, depth, tree, unfolds, another⟩
    exact .carried (.both unfolds another)
  loads _ _ _ := trivial

private theorem twinning_implies :
    (source.twinning after).Implies (source.standing after order place) where
  handle _ _ _ twins := .carried twins
  loads _ _ _ := trivial
  memo _ _ _ := trivial

/-- Objects that stand for each other look the same when what was walked is tagged as its type. -/
theorem Copied.contents (copied : source.Copied before after policy order place) {type : ObjType}
    {ref other : Ref} (stands : source.Stands after order place type ref other)
    (tagged : source.TaggedAt ⟨type, ref⟩) : ∃ data copy,
      source.data? type ref = some data ∧ after.data? type other = some copy ∧
        type.shape.Follows (source.standing after order place) data copy := by
  cases stands with
  | walked member =>
      obtain ⟨data, copy, found, present, restored⟩ := copied.objects _ member
      exact ⟨data, copy, found, present, restored.follows copying_within (tagged data found)⟩
  | carried twins =>
      obtain ⟨data, copy, found, present, alike⟩ := twins.contents
      exact ⟨data, copy, found, present, (alike.imp twinning_implies).follows⟩

/-- No loads are outstanding at the root or below it. -/
def QuietBelow (store : Store) (root : Node) : Prop :=
  ∀ node, Reaches store.held root node → ∀ data, store.data? node.type node.ref = some data →
    ∀ counter ∈ node.type.shape.counters data, store.outstanding counter = 0

/-- Every container at the root or below it was made by operations. -/
def MadeBelow (store : Store) (root : Node) : Prop :=
  ∀ node, Reaches store.held root node → ∀ data, store.data? node.type node.ref = some data →
    node.type.shape.Containers (fun type holder => holder.Made type.tracks) data

theorem MadeBelow.tagged (made : store.MadeBelow root) (reaches : Reaches store.held root node) :
    store.TaggedAt node :=
  fun data found => (made node reaches data found).imp fun _ _ => Container.Made.tagged

def below (store : Store) (root : Node) : Carrier.live.Limits where
  handle type ref := Reaches store.held root ⟨type, ref⟩
  loads counter := store.outstanding counter = 0

theorem QuietBelow.inside (quiet : store.QuietBelow root) (reaches : Reaches store.held root node)
    {data : node.type.Data Carrier.live} (found : store.data? node.type node.ref = some data) :
    node.type.shape.Inside (store.below root) data where
  handles _ member := reaches.step (mem_held found member)
  counters := quiet node reaches data found

private theorem Planted.quietBelow (planted : before.Planted after) (leads : after.Leads root)
    (new : before.cells.size ≤ root.ref.index) : after.QuietBelow root := by
  intro node reaches data found counter member
  obtain ⟨-, above⟩ := planted.new_of_reaches leads new reaches
  obtain ⟨poisoned, present⟩ := data?_eq_some.mp found
  exact planted.counters counter (planted.counted _ _ present above counter member)

def Copied.shadowing (copied : source.Copied before after policy order place)
    (made : source.MadeBelow root) (quiet : source.QuietBelow root)
    (still : after.QuietBelow (root.moved place)) : source.Shadowing after where
  relation := (source.standing after order place).within (source.below root)
    (after.below (root.moved place))
  loads _ _ counts := counts.2.2.trans counts.2.1.symm
  objects := by
    rintro type ref other ⟨stands, reaches, reachesCopy⟩
    -- What the copy was made of is below the root, so it is tagged and counts nothing.
    obtain ⟨data, copy, found, present, follows⟩ := copied.contents stands (made.tagged reaches)
    exact ⟨data, copy, found, present,
      follows.within (quiet.inside reaches found) (still.inside reachesCopy present)⟩

private theorem Copied.answers_eq (copied : source.Copied before after policy order place)
    (walkable : source.Walkable policy [] [root] order) (made : source.MadeBelow root)
    (quiet : source.QuietBelow root) :
    after.nodeStatus? (root.moved place) = source.nodeStatus? root ∧
      ∀ name, after.fieldAnswers (root.moved place) name = source.fieldAnswers root name := by
  have member := walkable.root_mem
  obtain ⟨_, copy, -, present, -⟩ := copied.objects root member
  have leads : after.Leads (root.moved place) := leads_iff.mpr ⟨copy, present⟩
  have still := copied.planted.quietBelow leads (copied.new _ (mem_places member))
  have twin : (copied.shadowing made quiet still).relation.handle root.type root.ref
      (place root.ref) := ⟨.walked member, .here, .here⟩
  obtain ⟨_, -, intact, -⟩ := data_of_sound (walkable.describable root member)
  constructor
  · exact (copied.shadowing made quiet still).status?_eq twin
  · exact (copied.shadowing made quiet still).fieldAnswers_eq twin intact (copied.intact member)

end Store

namespace Formatter

variable {formatter : Formatter} {root copy : Node}

/-- A copy answers every status question as its source does when no loads are outstanding there. So
does every container of the copy, and so does the value in it. -/
theorem copy_answers_alike {world after : World} (typed : world.store.WellTyped)
    (made : world.store.MadeBelow root) (quiet : world.store.QuietBelow root)
    (copied : formatter.copy root world = (.ok copy, after)) :
    after.store.nodeStatus? copy = world.store.nodeStatus? root ∧
      ∀ name, after.store.fieldAnswers copy name = world.store.fieldAnswers root name := by
  obtain ⟨payload, written, serialized, deserialized⟩ := exists_of_bind_ran copied
  rw [serialize_run] at serialized
  have outcome := congrArg Prod.fst serialized
  obtain ⟨plan, order, place, store, read, built, walkable, duplicated⟩ :=
    Store.rebuilt_of_serialize (fun _ _ => typed.resolves) outcome written.store
  cases deserialized.symm.trans (deserialize_run read built)
  exact duplicated.answers_eq walkable made quiet

def customers : Formatter where
  registry := { types := [.record .customer, .record .contact, .list .contact] }

end Formatter

private theorem Container.made_filled {α : Type} (tracks : Bool) (name : String) (value : α)
    (named : name ≠ "") : (Business.filled tracks name value).Made tracks := by
  have filled : Container.filled? tracks name value true = some (Business.filled tracks name value) := by
    unfold Container.filled? Container.empty?
    rw [if_neg named]
    rfl
  exact .filled filled

def Store.befriended : Store where
  cells := #[
    { type := .record .contact, data := (Business.filled false "Name" "Bea", (none : Option Ref), ()) },
    { type := .list .contact, data := [⟨0⟩] },
    { type := .record .customer
      data := (Container.clean (Business.filled false "Name" "Ada"), (⟨0⟩ : Binary64),
        Business.filled true "Contacts" (⟨1⟩ : Ref), some (⟨0⟩ : Ref), false, (⟨0⟩ : CounterId), ()) }]
  counters := #[0]

def Node.befriended : Node := { type := .record .customer, ref := ⟨2⟩ }

private theorem Store.befriended_wellTyped : befriended.WellTyped := by
  intro ref cell present child member
  match ref with
  | ⟨0⟩ =>
      cases present
      cases member
  | ⟨1⟩ =>
      cases present
      cases List.mem_singleton.mp member
      exact ⟨_, rfl, rfl⟩
  | ⟨2⟩ =>
      cases present
      rcases List.mem_cons.mp member with rfl | last
      · exact ⟨_, rfl, rfl⟩
      · cases List.mem_singleton.mp last
        exact ⟨_, rfl, rfl⟩
  | ⟨_ + 3⟩ => cases present

private theorem Store.befriended_madeBelow : befriended.MadeBelow .befriended := by
  rintro ⟨type, ref⟩ - data found
  obtain ⟨poisoned, present⟩ := data?_eq_some.mp found
  match ref with
  | ⟨0⟩ =>
      cases present
      exact ⟨Container.made_filled _ _ _ (by decide), trivial, trivial⟩
  | ⟨1⟩ =>
      cases present
      trivial
  | ⟨2⟩ =>
      cases present
      exact ⟨.cleaned (Container.made_filled _ _ _ (by decide)), trivial,
        Container.made_filled _ _ _ (by decide), trivial, trivial, trivial, trivial⟩
  | ⟨_ + 3⟩ => cases present

private theorem Store.befriended_quietBelow : befriended.QuietBelow .befriended := by
  rintro ⟨type, ref⟩ - data found counter member
  obtain ⟨poisoned, present⟩ := data?_eq_some.mp found
  match ref with
  | ⟨0⟩ | ⟨1⟩ =>
      cases present
      cases member
  | ⟨2⟩ =>
      cases present
      cases List.mem_singleton.mp member
      rfl
  | ⟨_ + 3⟩ => cases present

/-- The copy of the customer is dirty by its contact, and not by itself. -/
theorem Formatter.copy_answers_alike_befriended :
    Store.befriended.WellTyped ∧ Store.befriended.MadeBelow .befriended ∧
      Store.befriended.QuietBelow .befriended ∧
        ∃ copy after, customers.copy .befriended { store := .befriended } = (.ok copy, after) ∧
          after.store.nodeStatus? copy =
            some { dirty := true, valid := true, selfValid := true, savable := true } ∧
          after.store.fieldAnswers copy "contacts" =
            some (some { dirty := true, valid := true, selfValid := true, savable := true },
              { dirty := true, valid := true, selfValid := true, savable := true }) := by
  refine ⟨Store.befriended_wellTyped, Store.befriended_madeBelow, Store.befriended_quietBelow, ?_⟩
  have copied : ∃ copy after,
      customers.copy .befriended { store := .befriended } = (.ok copy, after) := ⟨_, _, rfl⟩
  obtain ⟨copy, after, copied⟩ := copied
  have alike := @copy_answers_alike customers .befriended copy { store := .befriended } after
    Store.befriended_wellTyped Store.befriended_madeBelow Store.befriended_quietBelow copied
  exact ⟨copy, after, copied, alike.1, alike.2 "contacts"⟩

end ObjectCourier
