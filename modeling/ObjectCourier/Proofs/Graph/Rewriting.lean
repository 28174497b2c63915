import ObjectCourier.Proofs.Graph.Moving
import ObjectCourier.Proofs.Object.Restoration

/-!
Objects that are written alike. The script of an object is that of its counterpart, but for the
places of the children, when every field is written as its counterpart is: a walked node as the slot
of the moved node, and any other value as the same wire value.
-/

namespace ObjectCourier

section Rewriting

variable (source target : Store) (place : Ref → Ref) (policy : Policy) (typeKey : String)

/-- The second value is written as the first one is: as the slot of the moved node, or as the same
wire value at the same point. -/
def FieldType.Rewrites (name : String) (permitted : Bool) (type : FieldType)
    (left right : type.Val Carrier.live.Handle) : Prop :=
  (∃ node, type.isWalked policy typeKey name permitted left = true ∧
    type.liveNode? left = some node ∧ type.liveNode? right = some (node.moved place)) ∨
  type.isWalked policy typeKey name permitted left = false ∧
    (type.liveNode? right).map Node.type = (type.liveNode? left).map Node.type ∧
      ∀ wire, source.toWire type left = .ok wire → target.toWire type right = .ok wire

structure Container.Rewrites {α β : Type} (rewrites : α → β → Prop) (left : Container α)
    (right : Container β) : Prop where
  name : right.name = left.name
  dirty : right.dirty = left.dirty
  serializable : right.serializable = left.serializable
  empty : left.value? = none → right.value? = none
  full : ∀ value, left.value? = some value →
    ∃ other, right.value? = some other ∧ rewrites value other

def Form.Rewrites (name : String) :
    (form : Form) → form.Val Carrier.live → form.Val Carrier.live → Prop
  | bare type, left, right =>
      type.Rewrites source target place policy typeKey name true left right
  | container type, left, right =>
      let holder : Container (type.Val Carrier.live.Handle) := left
      Container.Rewrites
        (type.Rewrites source target place policy typeKey name holder.serializable) holder
        (show Container (type.Val Carrier.live.Handle) from right)
  | aside _, _, _ | loads, _, _ | memo, _, _ => True

def Members.Rewrites :
    (members : List Member) → Members Carrier.live members → Members Carrier.live members → Prop
  | [], _, _ => True
  | member :: others, (left, leftRest), (right, rightRest) =>
      member.form.Rewrites source target place policy typeKey member.name left right ∧
        Rewrites others leftRest rightRest

def Shape.Rewrites : (shape : Shape) → shape.Data Carrier.live → shape.Data Carrier.live → Prop
  | fields members, left, right =>
      Members.Rewrites source target place policy typeKey members left right
  | elements _, left, right => right = List.map place left

variable {source target : Store} {place : Ref → Ref} {policy : Policy} {typeKey : String}

private theorem Script.moved_value {name : String} {first second : Except Fault WireValue}
    (sound : Sound [first.map (.value name)]) (same : ∀ wire, first = .ok wire → second = .ok wire) :
    ([second.map (.value name)] : Script) = moved place [first.map (.value name)] := by
  cases first with
  | error fault =>
      obtain ⟨done, failed⟩ := sound _ (List.mem_singleton_self _)
      cases failed
  | ok wire =>
      rw [same wire rfl]
      rfl

theorem FieldType.Rewrites.stateScript {name : String} {permitted : Bool} {type : FieldType}
    {left right : type.Val Carrier.live.Handle}
    (rewrites : type.Rewrites source target place policy typeKey name permitted left right)
    (sound : (type.stateScript source name left).Sound) :
    type.stateScript target name right = (type.stateScript source name left).moved place := by
  unfold FieldType.stateScript at *
  rcases rewrites with ⟨node, -, holdsLeft, holdsRight⟩ | ⟨-, types, wires⟩
  · rw [holdsLeft, holdsRight]
    rfl
  · cases holdsLeft : type.liveNode? left with
    | none =>
        rw [holdsLeft] at sound types
        rw [Option.map_eq_none_iff.mp types]
        exact Script.moved_value sound wires
    | some node =>
        rw [holdsLeft] at types
        obtain ⟨other, holdsRight, -⟩ := Option.map_eq_some_iff.mp types
        rw [holdsRight]
        rfl

theorem FieldType.Rewrites.childScript {name : String} {permitted : Bool} (dirty : Bool)
    {type : FieldType} {left right : type.Val Carrier.live.Handle}
    (rewrites : type.Rewrites source target place policy typeKey name permitted left right)
    (sound : (type.childScript source policy typeKey name permitted dirty left).Sound) :
    type.childScript target policy typeKey name permitted dirty right =
      (type.childScript source policy typeKey name permitted dirty left).moved place := by
  unfold FieldType.childScript at *
  rcases rewrites with ⟨node, walked, holdsLeft, holdsRight⟩ | ⟨carried, types, wires⟩
  · unfold isWalked at walked
    rw [holdsLeft] at walked ⊢
    rw [holdsRight]
    simp only at walked
    change (if permitted && policy.walks typeKey name node.typeKey then _ else _) = _
    rw [if_pos walked]
    simp only [if_pos walked]
    rfl
  · unfold isWalked at carried
    cases holdsLeft : type.liveNode? left with
    | none =>
        rw [holdsLeft] at types
        rw [Option.map_eq_none_iff.mp types]
        rfl
    | some node =>
        rw [holdsLeft] at types carried sound
        obtain ⟨other, holdsRight, same⟩ := Option.map_eq_some_iff.mp types
        have keys : other.typeKey = node.typeKey := congrArg ObjType.key same
        have skipped : ¬(permitted && policy.walks typeKey name node.typeKey) = true := by
          rw [Bool.not_eq_true]
          exact carried
        simp only [if_neg skipped] at sound ⊢
        rw [holdsRight]
        simp only [keys, if_neg skipped]
        exact Script.moved_value sound wires

theorem Container.Rewrites.labelScript {α β : Type} {rewrites : α → β → Prop} {left : Container α}
    {right : Container β} (same : left.Rewrites rewrites right) (name : String) :
    right.labelScript name = Script.moved place (left.labelScript name) := by
  unfold Container.labelScript
  rw [same.name, same.dirty, same.serializable]
  rfl

theorem Form.Rewrites.stateScript {name : String} {form : Form} {left right : form.Val Carrier.live}
    (rewrites : form.Rewrites source target place policy typeKey name left right)
    (sound : (form.stateScript source name left).Sound) :
    form.stateScript target name right = (form.stateScript source name left).moved place := by
  cases form with
  | bare type => exact FieldType.Rewrites.stateScript rewrites sound
  | container type =>
      have labels := @Container.Rewrites.labelScript place _ _ _ _ _ rewrites name
      simp only [Form.stateScript, Script.moved_append] at sound ⊢
      rw [← labels]
      congr 1
      cases full : Container.value? left with
      | none =>
          rw [Container.Rewrites.empty rewrites full]
          rfl
      | some held =>
          obtain ⟨other, present, further⟩ := Container.Rewrites.full rewrites held full
          rw [full] at sound
          rw [present]
          exact further.stateScript (Script.sound_append.mp sound).2
  | aside _ | loads | memo => rfl

theorem Form.Rewrites.childScript {name : String} {form : Form} {left right : form.Val Carrier.live}
    (rewrites : form.Rewrites source target place policy typeKey name left right)
    (sound : (form.childScript source policy typeKey name left).Sound) :
    form.childScript target policy typeKey name right =
      (form.childScript source policy typeKey name left).moved place := by
  cases form with
  | bare type => exact FieldType.Rewrites.childScript false rewrites sound
  | container type =>
      simp only [Form.childScript] at sound ⊢
      cases full : Container.value? left with
      | none =>
          rw [Container.Rewrites.empty rewrites full]
          rfl
      | some held =>
          obtain ⟨other, present, further⟩ := Container.Rewrites.full rewrites held full
          rw [full] at sound
          rw [present, Container.Rewrites.dirty rewrites, Container.Rewrites.serializable rewrites]
          exact further.childScript _ sound
  | aside _ | loads | memo => rfl

theorem Members.Rewrites.stateScript {members : List Member}
    {left right : Members Carrier.live members}
    (rewrites : Members.Rewrites source target place policy typeKey members left right)
    (sound : Script.Sound (Members.stateScript source members left)) :
    Members.stateScript target members right =
      Script.moved place (Members.stateScript source members left) := by
  induction members with
  | nil => rfl
  | cons member others ih =>
      obtain ⟨first, rest⟩ := left
      obtain ⟨other, remaining⟩ := right
      obtain ⟨head, tail⟩ := Script.sound_append.mp sound
      rw [Members.stateScript, Members.stateScript, Script.moved_append,
        Form.Rewrites.stateScript rewrites.1 head, ih rewrites.2 tail]

theorem Members.Rewrites.childScript {members : List Member}
    {left right : Members Carrier.live members}
    (rewrites : Members.Rewrites source target place policy typeKey members left right)
    (sound : Script.Sound (Members.childScript source policy typeKey members left)) :
    Members.childScript target policy typeKey members right =
      Script.moved place (Members.childScript source policy typeKey members left) := by
  induction members with
  | nil => rfl
  | cons member others ih =>
      obtain ⟨first, rest⟩ := left
      obtain ⟨other, remaining⟩ := right
      obtain ⟨head, tail⟩ := Script.sound_append.mp sound
      rw [Members.childScript, Members.childScript, Script.moved_append,
        Form.Rewrites.childScript rewrites.1 head, ih rewrites.2 tail]

private theorem elementSlots_moved (type : ObjType) (index : Nat) (items : List Ref) :
    elementSlots type index (items.map place) =
      (elementSlots type index items).map (Slot.moved place) := by
  induction items generalizing index with
  | nil => rfl
  | cons item others ih =>
      rw [List.map_cons, elementSlots, elementSlots, List.map_cons, ih]
      rfl

private theorem Shape.stateScript_moved (type : ObjType) {left right : List Ref}
    (same : right = left.map place) :
    (Shape.elements type).stateScript target right =
      ((Shape.elements type).stateScript source left).moved place := by
  have length : right.length = left.length := by rw [same, List.length_map]
  simp only [Shape.stateScript]
  rw [length]
  cases IntKind.u64.ofInt? left.length <;> rfl

private theorem Shape.childScript_moved (type : ObjType) {left right : List Ref}
    (same : right = left.map place) :
    (Shape.elements type).childScript target policy typeKey right =
      ((Shape.elements type).childScript source policy typeKey left).moved place := by
  have slots : elementSlots type 0 right = (elementSlots type 0 left).map (Slot.moved place) := by
    rw [same, elementSlots_moved]
  simp only [Shape.childScript]
  rw [slots]
  split
  · unfold Script.moved
    rw [List.map_map, List.map_map]
    rfl
  · rfl

theorem Shape.Rewrites.stateScript {shape : Shape} {left right : shape.Data Carrier.live}
    (rewrites : shape.Rewrites source target place policy typeKey left right)
    (sound : (shape.stateScript source left).Sound) :
    shape.stateScript target right = (shape.stateScript source left).moved place := by
  cases shape with
  | fields members => exact Members.Rewrites.stateScript rewrites sound
  | elements type => exact Shape.stateScript_moved type rewrites

theorem Shape.Rewrites.childScript {shape : Shape} {left right : shape.Data Carrier.live}
    (rewrites : shape.Rewrites source target place policy typeKey left right)
    (sound : (shape.childScript source policy typeKey left).Sound) :
    shape.childScript target policy typeKey right =
      (shape.childScript source policy typeKey left).moved place := by
  cases shape with
  | fields members => exact Members.Rewrites.childScript rewrites sound
  | elements type => exact Shape.childScript_moved type rewrites

/-- An object that is written as another one has its script, but for the places of the children. -/
theorem Store.script_moved {node : Node} (describable : source.Describable policy node)
    {data copy : node.type.Data Carrier.live}
    (found : source.data? node.type node.ref = some data)
    (copied : target.data? node.type (place node.ref) = some copy)
    (intact : target.isPoisoned (place node.ref) = false)
    (rewrites : node.type.shape.Rewrites source target place policy node.typeKey data copy) :
    target.script policy (node.moved place) = (source.script policy node).moved place := by
  obtain ⟨other, otherFound, -, script⟩ := data_of_sound describable
  cases otherFound.symm.trans found
  unfold Describable at describable
  rw [script] at describable ⊢
  obtain ⟨state, child⟩ := Script.sound_append.mp describable
  have read : target.readNode (node.moved place) = .ok copy := by
    have whole : target.isPoisoned (node.moved place).ref = false := intact
    have present : target.data? (node.moved place).type (node.moved place).ref = some copy := copied
    unfold readNode
    rw [whole, present]
    rfl
  unfold Store.script
  rw [read, Script.moved_append, ← rewrites.stateScript state, ← rewrites.childScript child]
  rfl

end Rewriting

end ObjectCourier
