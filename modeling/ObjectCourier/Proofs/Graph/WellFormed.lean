import ObjectCourier.Proofs.Graph.Validity

/-!
Written payloads. On every store a writing pass comes to an end; if it succeeds, its records picture
the objects that can be reached through walked slots, one record for every object, numbered in the
order of a depth-first walk.
-/

namespace ObjectCourier

section Slots

variable (policy : Policy)

private theorem FieldType.mem_handles_of_liveNode? {type : FieldType}
    {value : type.Val Carrier.live.Handle} {node : Node} (holds : type.liveNode? value = some node) :
    ⟨node.type, node.ref⟩ ∈ type.handles value := by
  obtain ⟨⟨target, ref⟩, found, same⟩ := Option.map_eq_some_iff.mp holds
  cases same
  clear holds
  induction type with
  | int kind | float32 | float64 | bool | text | vector _ => cases found
  | option type ih =>
      match value with
      | none => cases found
      | some inner => exact ih found
  | handle type =>
      cases found
      exact List.mem_singleton_self _

theorem FieldType.mem_slots {typeKey name : String} {permitted dirty : Bool} {type : FieldType}
    {value : type.Val Carrier.live.Handle} {slot : Slot}
    (member : slot ∈ type.slots policy typeKey name permitted dirty value) :
    type.liveNode? value = some slot.child ∧ permitted = true ∧
      policy.walks typeKey name slot.child.typeKey = true ∧ slot.name = name ∧
      slot.dirty = dirty := by
  unfold slots at member
  cases held : type.liveNode? value with
  | none =>
      rw [held] at member
      cases member
  | some node =>
      rw [held] at member
      simp only at member
      split at member
      · rename_i both
        obtain ⟨open_, walks⟩ := Bool.and_eq_true_iff.mp both
        cases List.mem_singleton.mp member
        exact ⟨rfl, open_, walks, rfl, rfl⟩
      · cases member

/-- The field holds the child, and a walk may enter it: a container only if it is serializable, and
then its dirty flag is the one of the slot and is in the record too. -/
def Form.Grants (record : Record) (name : String) (child : Node) (dirty : Bool) :
    (form : Form) → form.Val Carrier.live → Prop
  | bare type, value => type.liveNode? value = some child ∧ dirty = false
  | container type, value =>
      let container : Container (type.Val Carrier.live.Handle) := value
      container.value?.bind type.liveNode? = some child ∧ container.serializable = true ∧
        container.dirty = dirty ∧ record.value? (name ++ ".dirty") = some (.bool dirty)
  | aside _, _ | loads, _ | memo, _ => False

private theorem Record.Shows.grants {store : Store} {record : Record} {number : Ref → RefId}
    {typeKey : String} {member : Member} {value : member.form.Val Carrier.live}
    (shows : record.Shows store policy number typeKey member value) {slot : Slot}
    (present : slot ∈ member.form.slots policy typeKey member.name value) :
    slot.name = member.name ∧ policy.walks typeKey member.name slot.child.typeKey = true ∧
      member.form.Grants record member.name slot.child slot.dirty value := by
  obtain ⟨name, form, isOpaque, startable⟩ := member
  cases form with
  | bare type =>
      obtain ⟨holds, -, walks, named, dirty⟩ := FieldType.mem_slots policy present
      exact ⟨named, walks, holds, dirty⟩
  | container type =>
      have flagged := shows.labels.flagged
      obtain ⟨ownName, held, dirty, serializable⟩ := value
      cases held with
      | empty => cases present
      | plain inner | tracked inner =>
          obtain ⟨holds, permitted, walks, named, same⟩ := FieldType.mem_slots policy present
          cases same
          exact ⟨named, walks, holds, permitted, rfl, flagged⟩
  | aside _ | loads | memo => cases present

end Slots

private theorem Form.mem_handles_of_slots {policy : Policy} {typeKey name : String} {form : Form}
    {value : form.Val Carrier.live} {slot : Slot}
    (present : slot ∈ form.slots policy typeKey name value) :
    ⟨slot.child.type, slot.child.ref⟩ ∈ form.handles value := by
  cases form with
  | bare type =>
      exact FieldType.mem_handles_of_liveNode? (FieldType.mem_slots policy present).1
  | container type =>
      obtain ⟨ownName, held, dirty, serializable⟩ := value
      cases held with
      | empty => cases present
      | plain inner | tracked inner =>
          exact FieldType.mem_handles_of_liveNode? (FieldType.mem_slots policy present).1
  | aside _ | loads | memo => cases present

private theorem Members.mem_handles_of_slots {policy : Policy} {typeKey : String}
    {members : List Member} {data : Members Carrier.live members} {slot : Slot}
    (present : slot ∈ Members.slots policy typeKey members data) :
    ⟨slot.child.type, slot.child.ref⟩ ∈ Members.handles members data := by
  induction members with
  | nil => cases present
  | cons member others ih =>
      obtain ⟨first, rest⟩ := data
      rcases List.mem_append.mp present with here | there
      · exact List.mem_append_left _ (Form.mem_handles_of_slots here)
      · exact List.mem_append_right _ (ih there)

private theorem mem_elementSlots {type : ObjType} {index : Nat} {items : List Ref} {slot : Slot}
    (present : slot ∈ elementSlots type index items) :
    slot.child.type = type ∧ slot.child.ref ∈ items := by
  induction items generalizing index with
  | nil => cases present
  | cons item others ih =>
      rcases List.mem_cons.mp present with rfl | later
      · exact ⟨rfl, List.mem_cons_self⟩
      · exact ⟨(ih later).1, List.mem_cons_of_mem _ (ih later).2⟩

private theorem Shape.mem_handles_of_slots {policy : Policy} {typeKey : String} {shape : Shape}
    {data : shape.Data Carrier.live} {slot : Slot}
    (present : slot ∈ shape.slots policy typeKey data) :
    ⟨slot.child.type, slot.child.ref⟩ ∈ shape.handles data := by
  cases shape with
  | fields members => exact Members.mem_handles_of_slots present
  | elements type =>
      obtain ⟨ofType, inItems⟩ := mem_elementSlots present
      exact List.mem_map.mpr ⟨slot.child.ref, inItems, by rw [ofType]⟩

private theorem Form.walks_of_slots {policy : Policy} {typeKey name : String} {form : Form}
    {value : form.Val Carrier.live} {slot : Slot}
    (present : slot ∈ form.slots policy typeKey name value) :
    policy.walks typeKey name slot.child.typeKey = true := by
  cases form with
  | bare type =>
      obtain ⟨-, -, walks, -⟩ := FieldType.mem_slots policy present
      exact walks
  | container type =>
      obtain ⟨ownName, held, dirty, serializable⟩ := value
      cases held with
      | empty => cases present
      | plain inner | tracked inner =>
          obtain ⟨-, -, walks, -⟩ := FieldType.mem_slots policy present
          exact walks
  | aside _ | loads | memo => cases present

private theorem Shape.capable_of_slots {store : Store} {policy : Policy} {typeKey : String}
    {shape : Shape} {data : shape.Data Carrier.live}
    (sound : Script.Sound (shape.childScript store policy typeKey data)) {slot : Slot}
    (present : slot ∈ shape.slots policy typeKey data) :
    policy.isCapable slot.child.typeKey = true := by
  cases shape with
  | fields members =>
      obtain ⟨field, -, ofField⟩ := (Members.mem_slots policy).mp present
      exact (Bool.and_eq_true_iff.mp (Form.walks_of_slots ofField)).2
  | elements type =>
      have key : slot.child.typeKey = type.key := congrArg ObjType.key (mem_elementSlots present).1
      rw [key]
      by_contra incapable
      simp only [childScript, if_neg incapable] at sound
      obtain ⟨done, failed⟩ := sound _ (List.mem_singleton_self _)
      cases failed

namespace Store

variable {store : Store} {policy : Policy} {root node : Node} {order : List Node}

def Resolves (store : Store) (policy : Policy) (order : List Node) : Prop :=
  ∀ node ∈ order, ∀ slot ∈ store.slots policy node, store.Leads slot.child

theorem forall_slots_of_handles (good : Node → Prop)
    (handles : ∀ data, store.data? node.type node.ref = some data →
      ∀ child ∈ node.type.shape.handles data, good ⟨child.1, child.2⟩) :
    ∀ slot ∈ store.slots policy node, good slot.child := by
  intro slot present
  unfold slots at present
  cases found : store.data? node.type node.ref with
  | none =>
      rw [found] at present
      cases present
  | some data =>
      rw [found] at present
      exact handles data found _ (Shape.mem_handles_of_slots present)

theorem WellTyped.resolves (typed : store.WellTyped) : store.Resolves policy order :=
  fun _ _ => forall_slots_of_handles store.Leads fun _ found => typed.leads_of_data found

theorem Describable.capable (describable : store.Describable policy node) {slot : Slot}
    (present : slot ∈ store.slots policy node) : policy.isCapable slot.child.typeKey = true := by
  obtain ⟨data, found, -, script⟩ := data_of_sound describable
  unfold Describable at describable
  rw [script] at describable
  unfold slots at present
  rw [found] at present
  exact Shape.capable_of_slots (Script.sound_append.mp describable).2 present

theorem Describable.leads (describable : store.Describable policy node) : store.Leads node := by
  obtain ⟨data, found, _⟩ := data_of_sound describable
  exact leads_iff.mpr ⟨data, found⟩

theorem Walkable.mem_of_place (walkable : store.Walkable policy [] [root] order)
    (leads : store.Leads node) (member : node.ref ∈ places order) : node ∈ order := by
  obtain ⟨other, present, same⟩ := List.mem_map.mp member
  have equal := (walkable.describable other present).leads.eq_of_ref leads same
  exact equal ▸ present

/-- The walk has entered just what can be reached. -/
theorem Walkable.mem_iff (walkable : store.Walkable policy [] [root] order)
    (resolves : store.Resolves policy order) :
    node ∈ order ↔ Reaches (store.walked policy) root node := by
  constructor
  · intro member
    rcases walkable.visits.reached node member with none | ⟨start, here, reaches⟩
    · cases none
    · exact List.mem_singleton.mp here ▸ reaches
  · intro reaches
    induction reaches with
    | here => exact walkable.root_mem
    | step _ member ih =>
        obtain ⟨slot, present, rfl⟩ := List.mem_map.mp member
        exact walkable.mem_of_place (resolves _ ih slot present)
          (walkable.children_seen ih present)

/-- The record is a picture of the object: it has the key of its type, every slot of it names the
record of the object that is in that slot, and a slot under a field is one that the field grants. -/
structure PicturedBy (store : Store) (policy : Policy) (order : List Node) (payload : Payload)
    (node : Node) (record : Record) : Prop where
  typeKey : record.typeKey = node.typeKey
  slots : ∀ entry ∈ record.children, ∃ slot ∈ store.slots policy node,
    entry.1 = slot.name ∧ entry.2.dirty = slot.dirty ∧
      ∃ position : Nat, ∃ target ∈ payload.records, order[position]? = some slot.child ∧
        payload.records[position]? = some target ∧ target.id = entry.2.target ∧
          target.typeKey = slot.child.typeKey
  fields : ∀ type data, node.type = .record type → store.data? (.record type) node.ref = some data →
    ∀ slot ∈ store.slots policy node, ∃ field ∈ Members.fields type.members data,
      slot.name = field.1.name ∧ policy.mayWalk type.key field.1.name = true ∧
        policy.isCapable slot.child.typeKey = true ∧
          field.1.form.Grants record field.1.name slot.child slot.dirty field.2

structure WrittenAs (store : Store) (policy : Policy) (root : Node) (order : List Node)
    (payload : Payload) : Prop where
  walk : Visits (store.walked policy) [] [root] order
  reached : ∀ node, node ∈ order ↔ Reaches (store.walked policy) root node
  distinct : (places order).Nodup
  root : payload.root.number.toNat = 1
  ids : ∀ (position : Nat) (inside : position < payload.records.length),
    payload.records[position].id.number.toNat = position + 1
  records : List.Forall₂ (store.PicturedBy policy order payload) order payload.records

private theorem Walkable.picturedBy (walkable : store.Walkable policy [] [root] order)
    (resolves : store.Resolves policy order) (member : node ∈ order) :
    store.PicturedBy policy order (store.payloadOf policy order) node
      (store.describe policy (numberOf order) node) where
  typeKey := describe_typeKey _ _
  slots := by
    intro entry inside
    obtain ⟨slot, present, rfl⟩ := mem_children_describe (walkable.describable node member) inside
    have seen := walkable.children_seen member present
    have entered := walkable.mem_of_place (resolves node member slot present) seen
    obtain ⟨position, within, same⟩ := List.getElem_of_mem entered
    refine ⟨slot, present, rfl, rfl, position, store.describe policy (numberOf order) slot.child,
      List.mem_map_of_mem entered, ?_, ?_, describe_id _ _, describe_typeKey _ _⟩
    · rw [List.getElem?_eq_getElem within, same]
    · rw [payloadOf, List.getElem?_map, List.getElem?_eq_getElem within, same]
      rfl
  fields := by
    intro type data sameType found slot present
    obtain ⟨nodeType, ref⟩ := node
    cases sameType
    obtain ⟨other, otherFound, -, script⟩ := data_of_sound (walkable.describable _ member)
    cases otherFound.symm.trans found
    unfold slots at present
    rw [found] at present
    obtain ⟨field, inFields, ofField⟩ := (Members.mem_slots policy).mp present
    have shows := Members.shows store policy type.labels_nodup (numberOf order) type.key data
      (numberOf order ref) field inFields
    obtain ⟨named, walks, grants⟩ := shows.grants policy ofField
    obtain ⟨mayWalk, isCapable⟩ := Bool.and_eq_true_iff.mp walks
    refine ⟨field, inFields, named, mayWalk, isCapable, ?_⟩
    unfold describe
    rw [script]
    exact grants

/-- Two links that lead to each other. -/
def ring : Store where
  cells := #[
    { type := .record .link, data := (⟨0, by decide⟩, some ⟨1⟩, ()) },
    { type := .record .link, data := (⟨1, by decide⟩, some ⟨0⟩, ()) }]

theorem ring_wellTyped : ring.WellTyped := by
  intro ref cell present child member
  match ref with
  | ⟨0⟩ =>
      cases present
      cases List.mem_singleton.mp member
      exact ⟨_, rfl, rfl⟩
  | ⟨1⟩ =>
      cases present
      cases List.mem_singleton.mp member
      exact ⟨_, rfl, rfl⟩
  | ⟨_ + 2⟩ => cases present

end Store

def Node.inRing : Node := { type := .record .link, ref := ⟨0⟩ }

def Registry.links : Registry where
  types := [.record .link]

namespace Store

/-- Every writing pass ends by itself. In a well-typed store what it returns is valid and pictures the
objects that can be reached from the root, each once, in the order in which a depth-first walk meets
them. -/
theorem serialize_wellFormed (store : Store) (policy : Policy) (root : Node) :
    (store.serialize policy root).1 ≠ .error .walkTooDeep ∧
      (store.WellTyped → ∀ payload, (store.serialize policy root).1 = .ok payload →
        payload.validate = .ok () ∧ ∃ order, store.WrittenAs policy root order payload) := by
  refine ⟨store.serialize_ne_walkTooDeep policy root, fun typed payload written => ?_⟩
  obtain ⟨-, order, walkable, rfl⟩ := serialize_eq_ok.mp written
  refine ⟨walkable.validate, order, walkable.visits, fun node => walkable.mem_iff typed.resolves,
    walkable.nodup, rfl, ?_, ?_⟩
  · intro position inside
    have within : position < order.length := by simpa [payloadOf] using inside
    simp only [payloadOf, List.getElem_map, describe_id]
    rw [numberOf_getElem walkable.nodup within]
    exact RefId.toNat_nth (Nat.lt_of_lt_of_le within walkable.small)
  · apply List.forall₂_map_right_iff.mpr
    exact List.forall₂_same.mpr fun node member => walkable.picturedBy typed.resolves member

/-- The payload of the ring pictures its two links. -/
theorem serialize_wellFormed_ring :
    ∃ payload, (ring.serialize Registry.links.policy .inRing).1 = .ok payload ∧
      payload.validate = .ok () ∧
        ∃ order, ring.WrittenAs Registry.links.policy .inRing order payload :=
  ⟨_, rfl, (serialize_wellFormed ring Registry.links.policy .inRing).2 ring_wellTyped _ rfl⟩

end Store

end ObjectCourier
