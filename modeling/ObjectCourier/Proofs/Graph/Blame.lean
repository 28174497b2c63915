import ObjectCourier.Graph.Reader
import ObjectCourier.Proofs.Outcome

/-!
What is wrong with a payload that is refused. Whatever a payload holds, it is refused as a corrupt
graph, for a value that is not of its field's type, or for a blob that cannot be decoded. Only a blob
that announces a text longer than any memory breaks the reading off.
-/

namespace ObjectCourier

/-- The fault is about a payload: it pictures no graph, or no graph of the known types. -/
def Fault.blamesPayload : Fault → Bool
  | corruptGraph _ | typeMismatch .. | serialization _ => true
  | _ => false

/-- A blob of the value announces a text longer than any memory. -/
inductive WireValue.Overreaches : WireValue → Prop
  | blob (type : FieldType) (body : Bytes)
      (announced : type.extract Embedded.decode body = .error .unallocatable) :
      Overreaches (.embedded type.typeName body)
  | item {items : List WireValue} {item : WireValue} (member : item ∈ items)
      (here : Overreaches item) : Overreaches (.list items)

def Record.Overreaches (record : Record) : Prop :=
  ∃ entry ∈ record.values, entry.2.Overreaches

def Payload.Overreaches (payload : Payload) : Prop :=
  ∃ record ∈ payload.records, record.Overreaches

/-- The reading may fail, but then the payload is to blame; and it is broken off for the reason
only. -/
abbrev Blaming {α : Type} (reason : Prop) (outcome : Except Fault α) : Prop :=
  FailsOnly (fun fault => fault.blamesPayload = true ∨ fault = .crash ∧ reason) outcome

theorem FailsOnly.allow {α : Type} {reason other : Prop} {outcome : Except Fault α}
    (only : Blaming reason outcome) (gives : reason → other) : Blaming other outcome :=
  only.mono fun _ => Or.imp_right (And.imp_right gives)

private theorem Record.require_blames (record : Record) (name : String) (reason : Prop) :
    Blaming reason (record.require name) := by
  unfold require
  split
  · exact failsOnly_ok _
  · exact failsOnly_error (.inl rfl)

private theorem Record.value_mem {record : Record} {name : String} {wire : WireValue}
    (found : record.require name = .ok wire) : (name, wire) ∈ record.values := by
  unfold require value? at found
  split at found
  · rename_i value present
    cases found
    exact Entries.mem_of_get? present
  · cases found

namespace FieldType

private theorem ofBlob_blames (type : FieldType) (field : String) (wire : WireValue) :
    Blaming wire.Overreaches (type.ofBlob field wire) := by
  unfold ofBlob
  split
  · split
    · rename_i typeName body same
      split
      · exact failsOnly_ok _
      · rename_i cause failed
        subst same
        cases cause with
        | unallocatable => exact failsOnly_error (.inr ⟨rfl, .blob type body failed⟩)
        | _ => exact failsOnly_error (.inl rfl)
    · exact failsOnly_error (.inl rfl)
  · exact failsOnly_error (.inl rfl)

private theorem ofWire_blames (field : String) (type : FieldType) (wire : WireValue) :
    Blaming wire.Overreaches (ofWire field type wire) := by
  induction type generalizing wire with
  | int kind =>
      unfold ofWire
      split
      · split
        · exact failsOnly_ok _
        · exact failsOnly_error (.inl rfl)
      · exact failsOnly_error (.inl rfl)
  | float32 | float64 | bool | text =>
      unfold ofWire
      split
      · exact failsOnly_ok _
      · exact failsOnly_error (.inl rfl)
  | option type ih =>
      cases wire with
      | null => exact failsOnly_ok _
      | _ => exact (ih _).bind fun _ => failsOnly_ok _
  | vector type ih =>
      cases wire with
      | list items => exact failsOnly_mapM fun item member => (ih item).allow (.item member)
      | _ => exact failsOnly_error (.inl rfl)
  | handle type => exact (handle type).ofBlob_blames field wire

private theorem ofHandle_blames {Handle : ObjType → Type} (field : String) (target : ObjType)
    (value : Handle target) (type : FieldType) :
    Blaming False (ofHandle field target value type) := by
  induction type with
  | int kind | float32 | float64 | bool | text | vector type => exact failsOnly_error (.inl rfl)
  | option type ih => exact ih.bind fun _ => failsOnly_ok _
  | handle type =>
      unfold ofHandle
      split
      · exact failsOnly_ok _
      · exact failsOnly_error (.inl rfl)

private theorem ofSlot_blames (type : FieldType) (typeOf : TypeOf) (name : String)
    (slot : ChildSlot) : Blaming False (type.ofSlot typeOf name slot) := by
  unfold ofSlot
  split
  · exact ofHandle_blames _ _ _ _
  · exact failsOnly_error (.inl rfl)

end FieldType

private theorem Record.ofWire_blames {record : Record} {name : String} {wire : WireValue}
    (member : (name, wire) ∈ record.values) (field : String) (type : FieldType) :
    Blaming record.Overreaches (type.ofWire field wire) :=
  (FieldType.ofWire_blames field type wire).allow fun here => ⟨_, member, here⟩

private theorem Record.part_blames (record : Record) (name : String) (type : FieldType) :
    Blaming record.Overreaches (record.require name >>= type.ofWire name) :=
  (record.require_blames _ _).bind_of_ok fun _ found => ofWire_blames (value_mem found) _ _

private theorem Form.draft_blames (record : Record) (name : String) (form : Form) :
    Blaming record.Overreaches (form.draft record name) := by
  cases form with
  | bare type =>
      unfold draft
      split
      · exact failsOnly_ok _
      · exact (record.require_blames _ _).bind_of_ok fun _ found =>
          (Record.ofWire_blames (Record.value_mem found) _ _).bind fun _ => failsOnly_ok _
  | container type =>
      have part := record.part_blames
      refine (part _ .text).bind fun _ => (part _ .bool).bind fun _ => (part _ .bool).bind fun _ => ?_
      simp only
      split
      · rename_i found
        have member := Entries.mem_of_get? found
        exact (Record.ofWire_blames member _ _).bind fun _ => failsOnly_ok _
      · exact failsOnly_ok _
  | aside type | loads | memo => exact failsOnly_ok _

theorem MembersDraft.read_blames (record : Record) (members : List Member) :
    Blaming record.Overreaches (MembersDraft.read record members) := by
  induction members with
  | nil => exact failsOnly_ok _
  | cons member others ih =>
      exact (member.form.draft_blames record _).bind fun _ => ih.bind fun _ => failsOnly_ok _

private theorem Shape.draft_blames (record : Record) (shape : Shape) :
    Blaming record.Overreaches (shape.draft record) := by
  cases shape with
  | fields members => exact MembersDraft.read_blames record members
  | elements type => exact record.part_blames _ _

theorem RecordDraft.read_blames (registry : Registry) (record : Record) :
    Blaming record.Overreaches (RecordDraft.read registry record) := by
  have known : Blaming record.Overreaches (registry.resolve record.typeKey) := by
    unfold Registry.resolve
    split
    · exact failsOnly_ok _
    · exact failsOnly_error (.inl rfl)
  exact known.bind fun type => (type.shape.draft_blames record).bind fun _ => failsOnly_ok _

private theorem Form.link_blames (typeOf : TypeOf) (name : String) (form : Form)
    (startable : form.startable = true) (draft : form.Draft) :
    Blaming False (form.link typeOf name startable draft) := by
  cases form with
  | bare type =>
      match draft with
      | .inl slot => exact type.ofSlot_blames typeOf name slot
      | .inr value => exact failsOnly_ok _
  | container type =>
      match draft with
      | (holder, some slot) =>
          exact (type.ofSlot_blames typeOf name slot).bind fun _ => failsOnly_ok _
      | (holder, none) => exact failsOnly_ok _
  | aside type | loads | memo => exact failsOnly_ok _

private theorem Members.link_blames (typeOf : TypeOf) (members : List Member)
    (drafts : MembersDraft members) : Blaming False (Members.link typeOf members drafts) := by
  induction members with
  | nil => exact failsOnly_ok _
  | cons member others ih =>
      exact (member.form.link_blames typeOf _ member.startable drafts.1).bind fun _ =>
        (ih drafts.2).bind fun _ => failsOnly_ok _

private theorem linkElements_blames (typeOf : TypeOf) (record : Record) (element : ObjType)
    (remaining index : Nat) : Blaming False (linkElements typeOf record element remaining index) := by
  induction remaining generalizing index with
  | zero => exact failsOnly_ok _
  | succ remaining ih =>
      unfold linkElements
      simp only
      split
      · exact failsOnly_error (.inl rfl)
      · exact (FieldType.ofSlot_blames _ typeOf _ _).bind fun _ =>
          (ih (index + 1)).bind fun _ => failsOnly_ok _

private theorem Shape.link_blames (typeOf : TypeOf) (record : Record) (shape : Shape)
    (draft : shape.Draft) : Blaming False (shape.link typeOf record draft) := by
  cases shape with
  | fields members => exact Members.link_blames typeOf members draft
  | elements type => exact linkElements_blames typeOf record type _ 0

private theorem Payload.validate_blames (payload : Payload) : Blaming False payload.validate := by
  unfold validate
  split
  · exact failsOnly_error (.inl rfl)
  · simp only
    split
    · exact failsOnly_error (.inl rfl)
    · apply failsOnly_forM
      intro record
      split
      · exact failsOnly_error (.inl rfl)
      · exact failsOnly_ok _

/-- A payload that is not read is to blame for it. -/
theorem GraphPlan.read_blames (registry : Registry) (payload : Payload) :
    Blaming payload.Overreaches (GraphPlan.read registry payload) := by
  refine (payload.validate_blames.allow False.elim).bind fun _ => ?_
  refine (failsOnly_mapM fun record member => ?_).bind fun drafts => ?_
  · exact (RecordDraft.read_blames registry record).allow fun here => ⟨record, member, here⟩
  refine FailsOnly.bind (failsOnly_mapM fun draft _ => ?_) fun objects => ?_
  · exact ((Shape.link_blames _ _ _ _).bind fun _ => failsOnly_ok _).allow False.elim
  · split
    · exact failsOnly_ok _
    · exact failsOnly_error (.inl rfl)

end ObjectCourier
