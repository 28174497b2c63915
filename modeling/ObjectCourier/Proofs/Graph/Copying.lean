import ObjectCourier.Graph.Formatter
import ObjectCourier.Proofs.Graph.Building
import ObjectCourier.Proofs.Graph.Rewriting

/-!
Copies of graphs. A payload that was written is read back as a graph of new objects, which stand to
each other as the objects do that it was written from; and written again it is the same payload.
-/

namespace ObjectCourier

namespace FieldType

variable {type : FieldType}

theorem Matches.liveNode? {same : (type : ObjType) → Ref → Ref → Prop}
    {left right : type.Val Carrier.live.Handle} (alike : type.Matches same left right) {node : Node}
    (holds : type.liveNode? left = some node) :
    ∃ ref, type.liveNode? right = some ⟨node.type, ref⟩ ∧ same node.type node.ref ref := by
  obtain ⟨⟨target, ref⟩, found, equal⟩ := Option.map_eq_some_iff.mp holds
  cases equal
  clear holds
  induction type with
  | int kind | float32 | float64 | bool | text | vector _ => cases found
  | option type ih =>
      match left, right, alike with
      | none, none, _ => cases found
      | some _, some _, alike => exact ih alike found
  | handle type =>
      cases found
      exact ⟨right, rfl, alike⟩

theorem Absent.liveNode? {value : type.Val Carrier.live.Handle} (absent : type.Absent value) :
    type.liveNode? value = none := by
  induction type with
  | int kind | float32 | float64 | bool | text | vector _ | handle _ => exact absurd absent id
  | option type ih =>
      match value, absent with
      | none, _ => rfl
      | some _, absent => exact ih absent

/-- What has come back is a node when the value was one, and of the same type. -/
theorem RestoredAs.liveNode? {same : (type : ObjType) → Ref → Ref → Prop}
    {left right : type.Val Carrier.live.Handle} (restored : type.RestoredAs same left right) :
    (type.liveNode? right).map Node.type = (type.liveNode? left).map Node.type := by
  induction type with
  | int kind | float32 | float64 | bool | text | vector _ | handle _ => rfl
  | option type ih =>
      match left, right, restored with
      | none, none, _ => rfl
      | some inner, none, absent =>
          have nothing : type.liveNode? inner = none := Absent.liveNode? absent
          exact (congrArg (Option.map Node.type) nothing).symm
      | some _, some _, restored => exact ih restored.2

end FieldType

section Copies

variable {source before after : Store} {policy : Policy} {order : List Node} {place : Ref → Ref}
  {typeKey : String}

private theorem Store.blob_of_copied {type : ObjType} {left right : Ref} {body : Bytes}
    (copied : (source.copying before after order place).copied type left right)
    (written : source.blob type left = .ok body) : after.blob type right = .ok body := by
  obtain ⟨-, depth, tree, unfolds, unfoldsCopy⟩ := copied
  obtain ⟨other, found, another, rfl, fits⟩ := blob_eq_ok written
  have same := (unfolds.unique another).encode_eq
  rw [← same] at fits ⊢
  exact unfoldsCopy.blob_eq fits

theorem FieldType.Restored.rewrites {name : String} {permitted : Bool} {type : FieldType}
    {left right : type.Val Carrier.live.Handle}
    (restored : type.Restored (source.copying before after order place) policy typeKey name permitted
      left right) :
    type.Rewrites source after place policy typeKey name permitted left right := by
  unfold Restored at restored
  split at restored
  · rename_i walked
    have held := walked
    unfold isWalked at held
    cases holds : type.liveNode? left with
    | none =>
        rw [holds] at held
        cases held
    | some node =>
        obtain ⟨ref, found, -, same⟩ := Matches.liveNode? restored holds
        cases same
        exact .inl ⟨node, walked, holds, found⟩
  · rename_i carried
    rw [Bool.not_eq_true] at carried
    refine .inr ⟨carried, RestoredAs.liveNode? restored, fun wire written => ?_⟩
    exact toWire_of_restored restored (fun _ _ _ _ => Store.blob_of_copied) written

theorem Form.Restored.rewrites {name : String} {form : Form} {startable : form.startable = true}
    {left right : form.Val Carrier.live}
    (restored : form.Restored (source.copying before after order place) policy typeKey name startable
      left right) :
    form.Rewrites source after place policy typeKey name left right := by
  cases form with
  | bare type => exact FieldType.Restored.rewrites restored
  | container type =>
      refine ⟨Container.Restored.name restored, Container.Restored.dirty restored,
        Container.Restored.serializable restored, ?_, ?_⟩
      · intro nothing
        unfold Container.value?
        rw [Container.Restored.empty restored nothing]
        rfl
      · intro value full
        obtain ⟨brought, same, further⟩ := Container.Restored.full restored value full
        refine ⟨brought, ?_, further.rewrites⟩
        unfold Container.value?
        rw [same]
        cases type.tracks <;> rfl
  | aside _ | loads | memo => trivial

theorem Members.Restored.rewrites {members : List Member} {left right : Members Carrier.live members}
    (restored : Members.Restored (source.copying before after order place) policy typeKey members left
      right) :
    Members.Rewrites source after place policy typeKey members left right := by
  induction members with
  | nil => trivial
  | cons member others ih =>
      exact ⟨Form.Restored.rewrites restored.1, ih restored.2⟩

theorem Shape.Restored.rewrites {shape : Shape} {left right : shape.Data Carrier.live}
    (restored : shape.Restored (source.copying before after order place) policy typeKey left right) :
    shape.Rewrites source after place policy typeKey left right := by
  cases shape with
  | fields members => exact Members.Restored.rewrites restored
  | elements type =>
      apply (List.map_id right).symm.trans
      exact map_eq_of_forall₂ restored fun _ _ walked => walked.2

namespace Store

theorem Copied.intact (copied : source.Copied before after policy order place) {node : Node}
    (member : node ∈ order) : after.isPoisoned (place node.ref) = false := by
  obtain ⟨_, copy, -, found, -⟩ := copied.objects node member
  obtain ⟨poisoned, present⟩ := data?_eq_some.mp found
  have intact := (copied.planted.closed _ _ present (copied.new _ (mem_places member))).1
  rw [isPoisoned, present]
  exact intact

/-- A copy has the script of its object, but for the places of the children. -/
theorem Copied.script (copied : source.Copied before after policy order place) {node : Node}
    (member : node ∈ order) (describable : source.Describable policy node) :
    after.script policy (node.moved place) = (source.script policy node).moved place := by
  obtain ⟨data, copy, found, foundCopy, restored⟩ := copied.objects node member
  exact script_moved describable found foundCopy (copied.intact member) restored.rewrites

end Store

end Copies

/-- All objects that an object leads to, walked or not. -/
def Store.held (store : Store) (node : Node) : List Node :=
  match store.cell? node.ref with
  | some cell => cell.children
  | none => []

/-- The copy is a graph of new objects that has the shape of the graph below the root. The objects
are in one-to-one correspondence, slots correspond, and every object has come back from its record:
walked nodes as the objects that correspond to them, other nodes as copies by value, the rest as in a
new object. -/
structure Store.DuplicatedAs (source before after : Store) (policy : Policy) (root copy : Node)
    (order : List Node) (place : Ref → Ref) : Prop where
  image : copy = root.moved place
  objects : ∀ node, node ∈ order ↔ Reaches (source.walked policy) root node
  images : ∀ node, node ∈ order.map (Node.moved place) ↔ Reaches (after.walked policy) copy node
  apart : ∀ left ∈ order, ∀ right ∈ order, place left.ref = place right.ref → left = right
  slots : ∀ node ∈ order,
    after.slots policy (node.moved place) = (source.slots policy node).map (Slot.moved place)
  sharing : ∀ left ∈ order, ∀ right ∈ order, ∀ slot ∈ source.slots policy left,
    ∀ other ∈ source.slots policy right,
      (slot.moved place).child = (other.moved place).child ↔ slot.child = other.child
  contents : ∀ node ∈ order, ∃ data restored, source.data? node.type node.ref = some data ∧
    after.data? node.type (place node.ref) = some restored ∧
      node.type.shape.Restored (source.copying before after order place) policy node.typeKey data
        restored
  new : ∀ node, Reaches after.held copy node → after.Leads node ∧ before.cell? node.ref = none
  kept : before.Extends after

namespace Store

variable {source before after : Store} {policy : Policy} {order : List Node} {place : Ref → Ref}
  {root : Node}

/-- Nothing that can be reached from a new object was there before. -/
theorem Planted.new_of_reaches (planted : before.Planted after) (leads : after.Leads root)
    (new : before.cells.size ≤ root.ref.index) {node : Node}
    (reaches : Reaches after.held root node) :
    after.Leads node ∧ before.cells.size ≤ node.ref.index := by
  induction reaches with
  | here => exact ⟨leads, new⟩
  | @step parent child _ member ih =>
      obtain ⟨⟨cell, present, -⟩, above⟩ := ih
      unfold held at member
      rw [present] at member
      exact (planted.closed _ cell present above).2 child member

theorem Copied.resolves (copied : source.Copied before after policy order place) :
    after.Resolves policy (order.map (Node.moved place)) := by
  intro other member
  obtain ⟨node, inOrder, rfl⟩ := List.mem_map.mp member
  refine forall_slots_of_handles after.Leads fun data found child inside => ?_
  exact (copied.planted.closed.handles found (copied.new _ (mem_places inOrder)) child inside).1

/-- A copy of a walk is a copy of the graph that was walked. -/
theorem Copied.duplicated (copied : source.Copied before after policy order place)
    (walkable : source.Walkable policy [] [root] order) (resolves : source.Resolves policy order) :
    source.DuplicatedAs before after policy root (root.moved place) order place := by
  have scripts : ∀ node ∈ order,
      after.script policy (node.moved place) = (source.script policy node).moved place :=
    fun node member => copied.script member (walkable.describable node member)
  have walked := walkable.moved copied.apart scripts
  have apart : ∀ left ∈ order, ∀ right ∈ order, place left.ref = place right.ref → left = right := by
    intro left leftMember right rightMember same
    have refs := copied.apart _ (mem_places leftMember) _ (mem_places rightMember) same
    exact (walkable.describable left leftMember).leads.eq_of_ref
      (walkable.describable right rightMember).leads refs
  have entered : ∀ node ∈ order, ∀ slot ∈ source.slots policy node, slot.child ∈ order :=
    fun node member slot present => walkable.mem_of_place (resolves node member slot present)
      (walkable.children_seen member present)
  refine ⟨rfl, fun node => walkable.mem_iff resolves,
    fun node => walked.mem_iff copied.resolves, apart, ?_, ?_,
    copied.objects, ?_, copied.planted.grown⟩
  · intro node member
    exact slots_moved (walkable.describable node member) (scripts node member)
  · intro left leftMember right rightMember slot slotMember other otherMember
    constructor
    · intro same
      exact apart _ (entered left leftMember slot slotMember) _
        (entered right rightMember other otherMember) (congrArg Node.ref same)
    · intro same
      unfold Slot.moved
      rw [same]
  · intro node reaches
    obtain ⟨_, data, -, found, -⟩ := copied.objects root walkable.root_mem
    have leads : after.Leads (root.moved place) := leads_iff.mpr ⟨data, found⟩
    obtain ⟨leadsNode, above⟩ := copied.planted.new_of_reaches leads
      (copied.new _ (mem_places walkable.root_mem)) reaches
    exact ⟨leadsNode, Array.getElem?_eq_none_iff.mpr above⟩

/-- A payload that was written is read back as a copy of the walk that it was written from. -/
theorem rebuilt_of_serialize {registry : Registry} {payload : Payload}
    (resolves : ∀ order, source.Walkable registry.policy [] [root] order →
      source.Resolves registry.policy order)
    (written : (source.serialize registry.policy root).1 = .ok payload) (before : Store) :
    ∃ plan order place after, GraphPlan.read registry payload = .ok plan ∧
      plan.build before = (root.moved place, after) ∧
        source.Walkable registry.policy [] [root] order ∧
          source.Copied before after registry.policy order place := by
  obtain ⟨capable, order, walkable, rfl⟩ := serialize_eq_ok.mp written
  obtain ⟨plan, place, after, read, built, copied⟩ :=
    walkable.rebuilt (resolves order walkable) capable before
  exact ⟨plan, order, place, after, read, built, walkable, copied⟩

/-- A copy is written as the payload that it was read from. -/
theorem Copied.serialize {payload : Payload} (copied : source.Copied before after policy order place)
    (walkable : source.Walkable policy [] [root] order)
    (written : (source.serialize policy root).1 = .ok payload) :
    (after.serialize policy (root.moved place)).1 = .ok payload := by
  have only : ∀ other, source.Walkable policy [] [root] other → other = order :=
    fun other another => another.visits.unique walkable.visits
  apply serialize_moved written
  · intro other another
    rw [only other another]
    exact copied.apart
  · intro other another node member
    rw [only other another] at member
    exact copied.script member (walkable.describable node member)

end Store

namespace Formatter

variable {formatter : Formatter} {root : Node} {payload : Payload}

/-- Writing reads the store and only adds to the log. -/
theorem serialize_run (formatter : Formatter) (root : Node) (world : World) :
    formatter.serialize root world =
      ((world.store.serialize formatter.registry.policy root).1,
        world.note (world.store.serialize formatter.registry.policy root).2) := rfl

theorem deserialize_run {plan : GraphPlan} {world : World} {copy : Node} {store : Store}
    (read : GraphPlan.read formatter.registry payload = .ok plan)
    (built : plan.build world.store = (copy, store)) :
    formatter.deserialize payload world =
      (.ok copy, { world with store := store }.note [.rebuilt plan.objects.length plan.root]) := by
  unfold deserialize
  rw [read]
  change (match (ObjectCourier.onStore plan.build) world with
    | (copy, after) => ((.ok copy : Except Fault Node),
        after.note [.rebuilt plan.objects.length plan.root])) = _
  unfold ObjectCourier.onStore
  rw [built]

/-- What was written is read back, at any later time, as new objects that have the shape of the graph
that it was written from. -/
theorem deserialize_duplicates {world written later : World} (typed : world.store.WellTyped)
    (serialized : formatter.serialize root world = (.ok payload, written)) :
    ∃ copy final order place, formatter.deserialize payload later = (.ok copy, final) ∧
      world.store.DuplicatedAs later.store final.store formatter.registry.policy root copy order
        place := by
  rw [serialize_run] at serialized
  have outcome := congrArg Prod.fst serialized
  obtain ⟨plan, order, place, after, read, built, walkable, copied⟩ :=
    Store.rebuilt_of_serialize (fun _ _ => typed.resolves) outcome later.store
  have duplicated := copied.duplicated walkable typed.resolves
  exact ⟨root.moved place, _, order, place, deserialize_run read built, duplicated⟩

def links : Formatter where
  registry := .links

/-- Two links that lead to each other come back as two new links that lead to each other. -/
theorem deserialize_duplicates_ring :
    ∃ payload written copy final order place,
      links.serialize .inRing { store := .ring } = (.ok payload, written) ∧
        links.deserialize payload { store := .ring } = (.ok copy, final) ∧
          Store.ring.DuplicatedAs .ring final.store links.registry.policy .inRing copy order
            place := by
  obtain ⟨copy, final, order, place, copied⟩ :=
    @deserialize_duplicates links .inRing _ { store := .ring } _ { store := .ring }
      Store.ring_wellTyped rfl
  exact ⟨_, _, copy, final, order, place, rfl, copied⟩

/-- What was written is read back as a graph that is written as the same payload. -/
theorem reserialize {world written later : World} (typed : world.store.WellTyped)
    (serialized : formatter.serialize root world = (.ok payload, written)) :
    ∃ copy final, formatter.deserialize payload later = (.ok copy, final) ∧
      (formatter.serialize copy final).1 = .ok payload ∧
        (later.store.WellTyped → final.store.WellTyped) := by
  rw [serialize_run] at serialized
  have outcome := congrArg Prod.fst serialized
  obtain ⟨plan, order, place, after, read, built, walkable, copied⟩ :=
    Store.rebuilt_of_serialize (fun _ _ => typed.resolves) outcome later.store
  exact ⟨root.moved place, _, deserialize_run read built, copied.serialize walkable outcome,
    copied.planted.wellTyped⟩

/-- A copy of a copy of a copy, as many times as given. -/
def copies (formatter : Formatter) : (times : Nat) → (root : Node) → Act Node
  | 0, root => pure root
  | times + 1, root => do
      copies formatter times (← formatter.copy root)

private theorem copies_succ (formatter : Formatter) (times : Nat) {world between : World}
    {copy : Node} (copied : formatter.copy root world = (.ok copy, between)) :
    formatter.copies (times + 1) root world = formatter.copies times copy between :=
  bind_of_ran_ok copied

theorem copy_run {world written after : World} {copy : Node}
    (serialized : formatter.serialize root world = (.ok payload, written))
    (deserialized : formatter.deserialize payload written = (.ok copy, after)) :
    formatter.copy root world = (.ok copy, after) := by
  unfold Formatter.copy
  rw [bind_of_ran_ok serialized]
  exact deserialized

/-- A payload is read back at any later time as a graph that is written as just this payload, and it
is the payload of every copy of the graph, of every copy of a copy, and so on. -/
theorem serialize_copies {world written : World} (typed : world.store.WellTyped)
    (serialized : formatter.serialize root world = (.ok payload, written)) :
    (∀ later : World, ∃ copy final, formatter.deserialize payload later = (.ok copy, final) ∧
      (formatter.serialize copy final).1 = .ok payload) ∧
    ∀ times, ∃ copy final, formatter.copies times root world = (.ok copy, final) ∧
      (formatter.serialize copy final).1 = .ok payload := by
  constructor
  · intro later
    obtain ⟨copy, final, deserialized, again, -⟩ := @reserialize _ _ _ _ _ later typed serialized
    exact ⟨copy, final, deserialized, again⟩
  · intro times
    induction times generalizing root world written with
    | zero => exact ⟨root, world, rfl, congrArg Prod.fst serialized⟩
    | succ times ih =>
        obtain ⟨copy, final, deserialized, again, typedFinal⟩ :=
          @reserialize _ _ _ _ _ written typed serialized
        have kept : written.store = world.store := by
          rw [serialize_run] at serialized
          exact congrArg (fun run => run.2.store) serialized.symm
        rw [copies_succ formatter times (copy_run serialized deserialized)]
        exact ih (typedFinal (kept ▸ typed)) (Prod.ext again rfl)

/-- The ring has the same payload however often it is copied. -/
theorem serialize_copies_ring :
    ∃ payload written, links.serialize .inRing { store := .ring } = (.ok payload, written) ∧
      ∀ times, ∃ copy final, links.copies times .inRing { store := .ring } = (.ok copy, final) ∧
        (links.serialize copy final).1 = .ok payload :=
  ⟨_, _, rfl, (@serialize_copies links .inRing _ { store := .ring } _ Store.ring_wellTyped rfl).2⟩

end Formatter

end ObjectCourier
