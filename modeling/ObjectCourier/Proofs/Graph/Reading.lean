import ObjectCourier.Graph.Reader
import Std.Data.String.ToNat
import ObjectCourier.Proofs.Graph.WellFormed
import ObjectCourier.Proofs.Object.Restoration
import ObjectCourier.Proofs.Object.Unfolding

/-!
What a record is read as. Every field finds in the record of its object just what its own steps have
put there, so the first pass accepts the record, and the second pass makes of every slot the handle
of the record that it names. What is read restores the object.
-/

namespace ObjectCourier

/-- What stands in the places of an object that is read back: the id of a node of the walk, and the
tree below any other. -/
def Store.reading (store : Store) (order : List Node) (number : Ref → RefId) :
    Restoration Carrier.sourced where
  walked type ref source := ⟨type, ref⟩ ∈ order ∧ source = .record (number ref)
  copied type ref source :=
    ∃ copy, source = .copy copy ∧ store.Unfolds copy.depth type ref copy.tree
  begun _ copy source := source = .copy copy
  loads _ := True
  memo _ := True

/-! ### Values -/

namespace FieldType

/-- Nothing but copies stands in a value that was read in the first pass. -/
theorem sourced_matches (type : FieldType) (value : type.Val Embedded) :
    type.Matches (fun _ copy source => source = Source.copy copy) value (type.sourced value) := by
  have carries := @Carrier.Visitor.plain_carries (.byValue Embedded) Carrier.sourced
    { handle := fun _ embedded => pure (.copy embedded), loads := id, memo := id }
    { handle := fun _ copy source => source = .copy copy
      loads := fun _ _ => True
      memo := fun _ _ => True }
    (fun _ _ => rfl) (fun _ => trivial) (fun _ => trivial)
  exact (@FieldType.matches_of_carries _ _ _ _ _ _ _ _ _ _ carries type value () () _ rfl).2

private theorem ofHandle_of_liveNode? {Target : ObjType → Type}
    {same : (type : ObjType) → Ref → Target type → Prop} {type : FieldType}
    {value : type.Val Carrier.live.Handle} {node : Node} (holds : type.liveNode? value = some node)
    (field : String) {handle : Target node.type} (alike : same node.type node.ref handle) :
    ∃ linked, type.ofHandle field node.type handle = .ok linked ∧
      type.Matches same value linked := by
  obtain ⟨⟨target, ref⟩, found, same⟩ := Option.map_eq_some_iff.mp holds
  cases same
  clear holds
  induction type with
  | int kind | float32 | float64 | bool | text | vector _ => cases found
  | option type ih =>
      match value with
      | none => cases found
      | some inner =>
          obtain ⟨linked, made, matching⟩ := ih found
          refine ⟨some linked, ?_, matching⟩
          rw [ofHandle, made]
          rfl
  | handle type =>
      cases found
      refine ⟨handle, ?_, alike⟩
      rw [ofHandle, dif_pos rfl]

section Scripts

variable (store : Store) (policy : Policy) (typeKey name : String) (permitted dirty : Bool)

private theorem script_of_walked {type : FieldType} {value : type.Val Carrier.live.Handle}
    (walked : type.isWalked policy typeKey name permitted value = true) :
    ∃ node, type.liveNode? value = some node ∧
      type.slots policy typeKey name permitted dirty value = [⟨name, node, dirty⟩] ∧
      type.stateScript store name value ++
        type.childScript store policy typeKey name permitted dirty value =
          [.ok (.slot ⟨name, node, dirty⟩)] := by
  unfold isWalked at walked
  unfold stateScript childScript slots
  cases held : type.liveNode? value with
  | none =>
      rw [held] at walked
      cases walked
  | some node =>
      rw [held] at walked
      simp only at walked
      refine ⟨node, rfl, ?_, ?_⟩
      · exact if_pos walked
      · exact if_pos walked

private theorem script_of_carried {type : FieldType} {value : type.Val Carrier.live.Handle}
    (carried : type.isWalked policy typeKey name permitted value = false) :
    type.slots policy typeKey name permitted dirty value = [] ∧
      type.stateScript store name value ++
        type.childScript store policy typeKey name permitted dirty value =
          [(store.toWire type value).map (.value name)] := by
  unfold isWalked at carried
  unfold stateScript childScript slots
  cases held : type.liveNode? value with
  | none => exact ⟨rfl, rfl⟩
  | some node =>
      rw [held] at carried
      simp only at carried
      constructor
      · exact if_neg (by rw [carried]; exact Bool.false_ne_true)
      · exact if_neg (by rw [carried]; exact Bool.false_ne_true)

end Scripts

end FieldType

theorem FieldType.ofBlob_of_decode {type : ObjType} {body rest : Bytes} {found : Embedded type}
    (field : String) (decoded : Embedded.decode type body = .ok (found, rest)) :
    (handle type).ofBlob field (.embedded (handle type).typeName body) = .ok found := by
  have extracted : ((handle type).extract Embedded.decode).run body = .ok (found, rest) := decoded
  simp only [ofBlob, if_pos]
  rw [extracted]

private theorem Store.ofBlob_blob {store : Store} {type : ObjType} (compact : type.compact = true)
    {ref : Ref} {body : Bytes} (field : String) (written : store.blob type ref = .ok body) :
    ∃ found : Embedded type, (FieldType.handle type).ofBlob field
        (.embedded (FieldType.handle type).typeName body) = .ok found ∧
      store.Unfolds found.depth type ref found.tree := by
  obtain ⟨depth, tree, unfolds, rfl, fits⟩ := blob_eq_ok written
  obtain ⟨found, decoded, same⟩ := Embedded.reads_encode compact ⟨depth, tree⟩ fits []
  rw [List.append_nil] at decoded
  exact ⟨found, FieldType.ofBlob_of_decode field decoded, unfolds.same same⟩

private theorem FieldType.ofWire_of_carried {store : Store} {order : List Node}
    {number : Ref → RefId} {policy : Policy}
    {typeKey name : String} {permitted : Bool} {type : FieldType}
    (confined : type.confined ObjType.compact = true) {value : type.Val Carrier.live.Handle}
    (carried : type.isWalked policy typeKey name permitted value = false) {wire : WireValue}
    (written : store.toWire type value = .ok wire) :
    ∃ found, type.ofWire name wire = .ok found ∧
      type.Restored (store.reading order number) policy typeKey name permitted value
        (type.sourced found) := by
  have objects : ∀ type ref body, ObjType.compact type = true → store.blob type ref = .ok body →
      ∃ found : Embedded type, (FieldType.handle type).ofBlob name
        (.embedded (FieldType.handle type).typeName body) = .ok found ∧
          store.Unfolds found.depth type ref found.tree :=
    fun _ _ _ compact => Store.ofBlob_blob compact name
  obtain ⟨found, read, restored⟩ := ofWire_toWire confined objects written
  refine ⟨found, read, ?_⟩
  unfold Restored
  rw [if_neg (by rw [carried]; exact Bool.false_ne_true)]
  apply restored.comp (type.sourced_matches found)
  intro target ref copy source unfolds same
  exact ⟨copy, same, unfolds⟩

private theorem FieldType.ofSlot_of_walked {store : Store} {order : List Node}
    {number : Ref → RefId} {policy : Policy}
    {typeKey name : String} {permitted dirty : Bool} {type : FieldType}
    {value : type.Val Carrier.live.Handle} {node : Node}
    (walked : type.isWalked policy typeKey name permitted value = true)
    (holds : type.liveNode? value = some node) {typeOf : TypeOf}
    (known : node ∈ order ∧ typeOf (number node.ref) = some node.type) :
    ∃ linked, type.ofSlot typeOf name { target := number node.ref, dirty := dirty } = .ok linked ∧
      type.Restored (store.reading order number) policy typeKey name permitted value linked := by
  have alike : (store.reading order number).walked node.type node.ref (.record (number node.ref)) :=
    ⟨known.1, rfl⟩
  obtain ⟨linked, made, matching⟩ := ofHandle_of_liveNode? holds name alike
  refine ⟨linked, ?_, ?_⟩
  · unfold ofSlot
    rw [known.2]
    exact made
  · unfold Restored
    rw [if_pos walked]
    exact matching

/-! ### Fields -/

section Fields

variable {store : Store} {policy : Policy} {order : List Node} {number : Ref → RefId} {typeKey : String}
  {record : Record}

/-- What a record has under the name of a bare value is what the value itself gives. -/
def FieldType.Shown (store : Store) (policy : Policy) (number : Ref → RefId) (typeKey : String)
    (record : Record) (name : String) (permitted dirty : Bool) (type : FieldType)
    (value : type.Val Carrier.live.Handle) : Prop :=
  (∃ node, type.isWalked policy typeKey name permitted value = true ∧
    type.liveNode? value = some node ∧
    (⟨name, node, dirty⟩ : Slot) ∈ type.slots policy typeKey name permitted dirty value ∧
    record.value? name = none ∧
    record.child? name = some { target := number node.ref, dirty := dirty }) ∨
  ∃ wire, type.isWalked policy typeKey name permitted value = false ∧
    store.toWire type value = .ok wire ∧ record.value? name = some wire ∧
    record.child? name = none

private theorem FieldType.shown_of_script {name : String} {permitted dirty : Bool}
    {type : FieldType} {value : type.Val Carrier.live.Handle} {script : Script}
    (same : script = type.stateScript store name value ++
      type.childScript store policy typeKey name permitted dirty value)
    (sound : script.Sound) (values : record.value? name = script.value? name)
    (children : record.child? name = (script.slot? name).map (Script.numbered number)) :
    type.Shown store policy number typeKey record name permitted dirty value := by
  cases walked : type.isWalked policy typeKey name permitted value with
  | true =>
      obtain ⟨node, holds, slots, steps⟩ :=
        script_of_walked store policy typeKey name permitted dirty walked
      rw [same, steps] at values children
      refine .inl ⟨node, walked, holds, ?_, values, ?_⟩
      · rw [slots]
        exact List.mem_singleton_self _
      · rw [children, Script.slot?, Script.slot?, if_pos rfl]
        rfl
  | false =>
      obtain ⟨-, steps⟩ := script_of_carried store policy typeKey name permitted dirty walked
      rw [same, steps] at sound values children
      cases written : store.toWire type value with
      | error fault =>
          rw [written] at sound
          obtain ⟨done, failed⟩ := sound _ (List.mem_singleton_self _)
          cases failed
      | ok wire =>
          rw [written] at values children
          refine .inr ⟨wire, walked, written, ?_, ?_⟩
          · apply values.trans
            simp [Except.map, Script.value?]
          · exact children

def TypeOf.Knows (typeOf : TypeOf) (order : List Node) (number : Ref → RefId) (slots : List Slot) :
    Prop :=
  ∀ slot ∈ slots, slot.child ∈ order ∧ typeOf (number slot.child.ref) = some slot.child.type

/-- The first pass accepts the field, and the second one makes of it what restores it. -/
def Member.Rebuilt (store : Store) (policy : Policy) (order : List Node) (number : Ref → RefId)
    (typeKey : String) (record : Record) (member : Member) (value : member.form.Val Carrier.live) :
    Prop :=
  ∃ draft, member.form.draft record member.name = .ok draft ∧
    ∀ typeOf : TypeOf, typeOf.Knows order number (member.form.slots policy typeKey member.name value) →
      ∃ linked, member.form.link typeOf member.name member.startable draft = .ok linked ∧
        member.form.Restored (store.reading order number) policy typeKey member.name member.startable
          value linked

theorem Record.require_of_value? {name : String} {wire : WireValue}
    (present : record.value? name = some wire) : record.require name = .ok wire := by
  unfold Record.require
  rw [present]

private theorem Member.rebuilt_bare {name : String} {type : FieldType} {isOpaque : Bool}
    {startable : (Form.bare type).startable = true} {value : type.Val Carrier.live.Handle}
    (confined : type.confined ObjType.compact = true)
    (shown : type.Shown store policy number typeKey record name true false value) :
    Member.Rebuilt store policy order number typeKey record
      { name := name, form := .bare type, isOpaque := isOpaque, startable := startable } value := by
  rcases shown with ⟨node, walked, holds, slot, -, child⟩ | ⟨wire, carried, written, present, child⟩
  · refine ⟨Sum.inl { target := number node.ref, dirty := false }, ?_, ?_⟩
    · simp only [Form.draft, child]
    · intro typeOf knows
      exact FieldType.ofSlot_of_walked walked holds (knows _ slot)
  · obtain ⟨found, read, restored⟩ := FieldType.ofWire_of_carried confined carried written
    refine ⟨Sum.inr found, ?_, ?_⟩
    · simp only [Form.draft, child, Record.require_of_value? present]
      exact bind_eq_ok.mpr ⟨wire, rfl, bind_eq_ok.mpr ⟨found, read, rfl⟩⟩
    · intro typeOf knows
      exact ⟨type.sourced found, rfl, restored⟩

def Container.relabel {α β : Type} (container : Container α) (held : Held β) : Container β where
  name := container.name
  held := held
  dirty := container.dirty
  serializable := container.serializable

private theorem Form.draft_of_absent {α : Type} {name : String} {container : Container α}
    (labels : record.Labels name container) (type : FieldType) (absent : record.value? name = none) :
    (Form.container type).draft record name =
      .ok (container.relabel .empty, record.child? name) := by
  simp only [draft, Record.require_of_value? labels.named, Record.require_of_value? labels.flagged,
    Record.require_of_value? labels.permitted, absent]
  rfl

private theorem Form.draft_of_present {α : Type} {name : String} {container : Container α}
    (labels : record.Labels name container) {type : FieldType} {wire : WireValue}
    (present : record.value? name = some wire) {value : type.Val Embedded}
    (read : type.ofWire name wire = .ok value) :
    (Form.container type).draft record name =
      .ok (container.relabel (.wrap type.tracks value), record.child? name) := by
  simp only [draft, Record.require_of_value? labels.named, Record.require_of_value? labels.flagged,
    Record.require_of_value? labels.permitted, present, read]
  rfl

private theorem Held.traverse_wrap {α β : Type} (tracks : Bool) (value : α) (visit : α → Id β) :
    Id.run ((Held.wrap tracks value).traverse visit) = Held.wrap tracks (Id.run (visit value)) := by
  cases tracks <;> rfl

private theorem Member.rebuilt_container {name : String} {type : FieldType} {isOpaque : Bool}
    {startable : (Form.container type).startable = true}
    {value : Container (type.Val Carrier.live.Handle)}
    (confined : type.confined ObjType.compact = true)
    (shows : record.Shows store policy number typeKey
      { name := name, form := .container type, isOpaque := isOpaque, startable := startable } value)
    (sound : Script.Sound (value.heldScript store policy typeKey name)) :
    Member.Rebuilt store policy order number typeKey record
      { name := name, form := .container type, isOpaque := isOpaque, startable := startable }
      value := by
  have labels := shows.labels
  obtain ⟨values, children⟩ := shows.held
  cases full : value.value? with
  | none =>
      have nothing : value.heldScript store policy typeKey name = [] := by
        unfold Container.heldScript
        rw [full]
      rw [nothing] at values children
      refine ⟨_, Form.draft_of_absent labels type values, fun typeOf knows => ?_⟩
      rw [children]
      refine ⟨_, rfl, rfl, rfl, rfl, fun _ => rfl, ?_⟩
      intro held present
      cases full.symm.trans present
  | some held =>
      have own : value.heldScript store policy typeKey name = type.stateScript store name held ++
          type.childScript store policy typeKey name value.serializable value.dirty held := by
        unfold Container.heldScript
        rw [full]
      have slots : (Form.container type).slots policy typeKey name value =
          type.slots policy typeKey name value.serializable value.dirty held := by
        simp only [Form.slots, full]
      rcases FieldType.shown_of_script own sound values children with
        ⟨node, walked, holds, slot, absent, child⟩ | ⟨wire, carried, written, present, child⟩
      · refine ⟨_, Form.draft_of_absent labels type absent, fun typeOf knows => ?_⟩
        rw [child]
        have known := knows ⟨name, node, value.dirty⟩ (slots ▸ slot)
        obtain ⟨linked, made, restored⟩ := FieldType.ofSlot_of_walked walked holds known
        refine ⟨_, bind_eq_ok.mpr ⟨linked, made, rfl⟩, rfl, rfl, rfl, ?_, ?_⟩
        · intro nothing
          cases full.symm.trans nothing
        · intro other present
          cases full.symm.trans present
          exact ⟨linked, rfl, restored⟩
      · obtain ⟨found, read, restored⟩ := FieldType.ofWire_of_carried confined carried written
        refine ⟨_, Form.draft_of_present labels present read, fun typeOf knows => ?_⟩
        rw [child]
        refine ⟨_, rfl, rfl, rfl, rfl, ?_, ?_⟩
        · intro nothing
          cases full.symm.trans nothing
        · intro other present
          cases full.symm.trans present
          exact ⟨type.sourced found, Held.traverse_wrap _ _ _, restored⟩

theorem Member.rebuilt {member : Member} {value : member.form.Val Carrier.live}
    (confined : member.form.confined ObjType.compact = true)
    (shows : record.Shows store policy number typeKey member value)
    (sound : (member.script store policy typeKey value).Sound) :
    member.Rebuilt store policy order number typeKey record value := by
  obtain ⟨name, form, isOpaque, startable⟩ := member
  cases form with
  | bare type =>
      obtain ⟨values, children⟩ := shows name List.mem_cons_self
      exact rebuilt_bare confined (FieldType.shown_of_script rfl sound values children)
  | container type =>
      apply rebuilt_container confined shows
      clear shows
      obtain ⟨ownName, held, dirty, serializable⟩ := value
      cases held with
      | empty =>
          intro step nothing
          cases nothing
      | plain inner | tracked inner =>
          obtain ⟨state, child⟩ := Script.sound_append.mp sound
          obtain ⟨-, stated⟩ := Script.sound_append.mp state
          exact Script.sound_append.mpr ⟨stated, child⟩
  | aside type => exact ⟨(), rfl, fun typeOf knows => ⟨_, rfl, type.sourced_matches _⟩⟩
  | loads | memo => exact ⟨(), rfl, fun typeOf knows => ⟨(), rfl, trivial⟩⟩

def Shape.Rebuilt (store : Store) (policy : Policy) (order : List Node) (number : Ref → RefId)
    (typeKey : String) (record : Record) (shape : Shape) (data : shape.Data Carrier.live) : Prop :=
  ∃ draft, shape.draft record = .ok draft ∧
    ∀ typeOf : TypeOf, typeOf.Knows order number (shape.slots policy typeKey data) →
      ∃ linked, shape.link typeOf record draft = .ok linked ∧
        shape.Restored (store.reading order number) policy typeKey data linked

theorem Members.rebuilt {members : List Member} {data : Members Carrier.live members}
    (each : ∀ field ∈ Members.fields members data,
      field.1.Rebuilt store policy order number typeKey record field.2) :
    Shape.Rebuilt store policy order number typeKey record (.fields members) data := by
  induction members with
  | nil => exact ⟨(), rfl, fun typeOf knows => ⟨(), rfl, trivial⟩⟩
  | cons member others ih =>
      obtain ⟨first, rest⟩ := data
      obtain ⟨head, headRead, headLinks⟩ := each ⟨member, first⟩ List.mem_cons_self
      obtain ⟨tail, tailRead, tailLinks⟩ :=
        @ih rest fun field later => each field (List.mem_cons_of_mem _ later)
      refine ⟨(head, tail), ?_, fun typeOf knows => ?_⟩
      · exact bind_eq_ok.mpr ⟨head, headRead, bind_eq_ok.mpr ⟨tail, tailRead, rfl⟩⟩
      · obtain ⟨linked, headLinked, headRestored⟩ :=
          headLinks typeOf fun slot here => knows slot (List.mem_append_left _ here)
        obtain ⟨remaining, tailLinked, tailRestored⟩ :=
          tailLinks typeOf fun slot there => knows slot (List.mem_append_right _ there)
        refine ⟨(linked, remaining), ?_, headRestored, tailRestored⟩
        exact bind_eq_ok.mpr ⟨linked, headLinked, bind_eq_ok.mpr ⟨remaining, tailLinked, rfl⟩⟩

end Fields

/-! ### Elements -/

theorem elementSlot_injective {left right : Nat}
    (same : Record.elementSlot left = Record.elementSlot right) : left = right :=
  Nat.repr_injective same

private theorem slot?_elementSlots_of_lt {type : ObjType} {index earlier : Nat}
    (before : earlier < index) (items : List Ref) :
    Script.slot? (Record.elementSlot earlier)
      ((elementSlots type index items).map fun slot => .ok (.slot slot)) = none := by
  induction items generalizing index with
  | nil => rfl
  | cons item others ih =>
      have apart : Record.elementSlot index ≠ Record.elementSlot earlier := by
        intro same
        have equal := elementSlot_injective same
        omega
      rw [elementSlots, List.map_cons, Script.slot?, ih (Nat.lt_succ_of_lt before), if_neg apart]
      rfl

private theorem slot?_elementSlots {type : ObjType} {index position : Nat} {items : List Ref}
    {item : Ref} (present : items[position]? = some item) :
    Script.slot? (Record.elementSlot (index + position))
      ((elementSlots type index items).map fun slot => .ok (.slot slot)) =
        some ⟨Record.elementSlot (index + position), ⟨type, item⟩, false⟩ := by
  induction items generalizing index position with
  | nil => cases present
  | cons first others ih =>
      rw [elementSlots, List.map_cons, Script.slot?]
      cases position with
      | zero =>
          cases present
          rw [Nat.add_zero, slot?_elementSlots_of_lt (Nat.lt_succ_self index), if_pos rfl]
          rfl
      | succ position =>
          rw [List.getElem?_cons_succ] at present
          rw [← Nat.succ_add_eq_add_succ, ih present]
          rfl

private theorem linkElements_eq_ok {typeOf : TypeOf} {number : Ref → RefId} {record : Record}
    {element : ObjType} {index : Nat} {items : List Ref}
    (each : ∀ (position : Nat) item, items[position]? = some item →
      record.child? (Record.elementSlot (index + position)) =
        some { target := number item, dirty := false } ∧ typeOf (number item) = some element) :
    linkElements typeOf record element items.length index =
      .ok (items.map fun item => .record (number item)) := by
  induction items generalizing index with
  | nil => rfl
  | cons first others ih =>
      obtain ⟨child, known⟩ := each 0 first rfl
      rw [Nat.add_zero] at child
      have rest := @ih (index + 1) fun position item present => by
        rw [Nat.succ_add_eq_add_succ]
        exact each (position + 1) item present
      have made : (FieldType.handle element).ofSlot typeOf (Record.elementSlot index)
          { target := number first, dirty := false } = .ok (Source.record (number first)) := by
        simp only [FieldType.ofSlot, known, FieldType.ofHandle, dif_pos]
      rw [List.length_cons, linkElements]
      simp only [child]
      exact bind_eq_ok.mpr ⟨_, made, bind_eq_ok.mpr ⟨_, rest, rfl⟩⟩

theorem exists_elementSlot {type : ObjType} {index : Nat} {items : List Ref} {item : Ref}
    (member : item ∈ items) : ∃ slot ∈ elementSlots type index items, slot.child = ⟨type, item⟩ := by
  induction items generalizing index with
  | nil => cases member
  | cons first others ih =>
      rcases List.mem_cons.mp member with rfl | later
      · exact ⟨_, List.mem_cons_self, rfl⟩
      · obtain ⟨slot, present, same⟩ := @ih (index + 1) later
        exact ⟨slot, List.mem_cons_of_mem _ present, same⟩

private theorem Script.value?_of_slots (name : String) (slots : List Slot) :
    Script.value? name (slots.map fun slot => .ok (.slot slot)) = none := by
  induction slots with
  | nil => rfl
  | cons first others ih => exact ih

private theorem Shape.rebuilt_elements {store : Store} {policy : Policy} {order : List Node}
    {number : Ref → RefId} {typeKey : String} {type : ObjType} {items : List Ref} {blank : Record}
    (sound : Script.Sound ((Shape.elements type).stateScript store items ++
      (Shape.elements type).childScript store policy typeKey items)) :
    Shape.Rebuilt store policy order number typeKey
      (((Shape.elements type).stateScript store items ++
        (Shape.elements type).childScript store policy typeKey items).fill number blank)
      (.elements type) items := by
  obtain ⟨state, child⟩ := Script.sound_append.mp sound
  cases counted : IntKind.u64.ofInt? items.length with
  | none =>
      simp only [stateScript, counted] at state
      obtain ⟨done, failed⟩ := state _ (List.mem_singleton_self _)
      cases failed
  | some count =>
      have length : count.val = items.length := by
        unfold IntKind.ofInt? at counted
        split at counted
        · cases counted
          rfl
        · cases counted
      have steps : (Shape.elements type).stateScript store items =
          [.ok (.value Record.countName (.uint count))] := by
        simp only [stateScript, counted]
      have children : (Shape.elements type).childScript store policy typeKey items =
          (elementSlots type 0 items).map fun slot => .ok (.slot slot) := by
        simp only [childScript]
        split
        · rfl
        · rename_i incapable
          simp only [childScript, if_neg incapable] at child
          obtain ⟨done, failed⟩ := child _ (List.mem_singleton_self _)
          cases failed
      rw [steps, children]
      have present : (Script.fill number ([.ok (.value Record.countName (.uint count))] ++
          (elementSlots type 0 items).map fun slot => .ok (.slot slot)) blank).value?
            Record.countName = some (.uint count) := by
        rw [Script.value?_fill, Script.value?_append, Script.value?_of_slots]
        simp [Script.value?]
      have whole : (FieldType.int .usize).ofWire Record.countName (.uint count) =
          .ok (⟨count.val, count.property⟩ : IntKind.usize.Value) :=
        @FieldType.ofWire_int Record.countName .usize ⟨count.val, count.property⟩
      refine ⟨_, bind_eq_ok.mpr ⟨_, Record.require_of_value? present, whole⟩, fun typeOf knows => ?_⟩
      have known : ∀ item ∈ items, (⟨type, item⟩ : Node) ∈ order ∧
          typeOf (number item) = some type := by
        intro item member
        obtain ⟨slot, inSlots, same⟩ := @exists_elementSlot type 0 items item member
        have known := knows slot inSlots
        rw [same] at known
        exact known
      refine ⟨items.map fun item => .record (number item), ?_, ?_⟩
      · have size : count.val.toNat = items.length := by
          rw [length]
          exact Int.toNat_natCast _
        simp only [link, size]
        refine linkElements_eq_ok fun position item here => ?_
        have found := @slot?_elementSlots type 0 position items item here
        constructor
        · rw [Script.child?_fill, Script.slot?_append, found]
          rfl
        · exact (known item (List.mem_of_getElem? here)).2
      · apply List.forall₂_map_right_iff.mpr
        exact List.forall₂_same.mpr fun item member => ⟨(known item member).1, rfl⟩

/-! ### Records -/

private theorem RecordType.confined_of_mem (type : RecordType) :
    ∀ member ∈ type.members, member.form.confined ObjType.compact = true := by
  cases type <;> decide

private theorem Script.Sound.of_flatMap {ι : Type} {items : List ι} {script : ι → Script}
    (sound : Sound (items.flatMap script)) {item : ι} (member : item ∈ items) :
    (script item).Sound :=
  fun step inside => sound step (List.mem_flatMap.mpr ⟨item, member, inside⟩)

theorem RecordType.rebuilt {store : Store} {policy : Policy} {order : List Node}
    {number : Ref → RefId} {type : RecordType} {data : Members Carrier.live type.members} {id : RefId}
    (sound : Script.Sound (Members.stateScript store type.members data ++
      Members.childScript store policy type.key type.members data)) :
    Shape.Rebuilt store policy order number type.key
      (Script.fill number (Members.stateScript store type.members data ++
        Members.childScript store policy type.key type.members data)
          { id := id, typeKey := type.key })
      (.fields type.members) data := by
  obtain ⟨state, child⟩ := Script.sound_append.mp sound
  rw [Members.stateScript_eq] at state
  rw [Members.childScript_eq] at child
  apply Members.rebuilt
  intro field member
  have declared : field.1 ∈ type.members := by
    rw [← Members.map_fields type.members data]
    exact List.mem_map_of_mem member
  apply Member.rebuilt (type.confined_of_mem field.1 declared)
  · exact Members.shows store policy type.labels_nodup number type.key data id field member
  · exact Script.sound_append.mpr ⟨Script.Sound.of_flatMap state member,
      Script.Sound.of_flatMap child member⟩

/-- The record of an object is read as what restores the object. -/
theorem Store.Describable.rebuilt {store : Store} {policy : Policy} {node : Node}
    (describable : store.Describable policy node) (order : List Node) (number : Ref → RefId) :
    ∃ data, store.data? node.type node.ref = some data ∧
      node.type.shape.Rebuilt store policy order number node.typeKey (store.describe policy number node)
        data := by
  obtain ⟨data, found, -, script⟩ := data_of_sound describable
  refine ⟨data, found, ?_⟩
  unfold Describable at describable
  unfold describe
  rw [script] at describable ⊢
  clear script found
  obtain ⟨type, ref⟩ := node
  cases type with
  | list element => exact Shape.rebuilt_elements describable
  | record type => exact RecordType.rebuilt describable

/-! ### Payloads -/

theorem ObjType.key_injective {left right : ObjType} (same : left.key = right.key) :
    left = right := by
  revert same
  rcases left with left | left <;> rcases right with right | right <;>
    cases left <;> cases right <;> decide

private theorem Registry.resolve_of_capable {registry : Registry} {type : ObjType}
    (capable : registry.policy.isCapable type.key = true) :
    registry.resolve type.key = .ok type := by
  obtain ⟨found, lookup⟩ := Option.isSome_iff_exists.mp capable
  have key : found.key = type.key := by
    unfold type? at lookup
    simpa using List.find?_some lookup
  cases ObjType.key_injective key
  unfold resolve
  rw [lookup]

/-- The plan makes of the record of an object what restores the object. -/
def Store.Planned (store : Store) (policy : Policy) (order : List Node) (number : Ref → RefId)
    (node : Node) (plan : ObjectPlan) : Prop :=
  ∃ data planned, store.data? node.type node.ref = some data ∧
    plan = { id := number node.ref, type := node.type, data := planned } ∧
      node.type.shape.Restored (store.reading order number) policy node.typeKey data planned

def Store.Drafted (store : Store) (policy : Policy) (order : List Node) (number : Ref → RefId)
    (node : Node) (draft : RecordDraft) : Prop :=
  draft.record.id = number node.ref ∧ draft.type = node.type ∧
    ∀ typeOf : TypeOf, typeOf.Knows order number (store.slots policy node) →
      ∃ plan, draft.link typeOf = .ok plan ∧ store.Planned policy order number node plan

theorem Store.Describable.drafted {store : Store} {registry : Registry} {node : Node}
    (describable : store.Describable registry.policy node)
    (capable : registry.policy.isCapable node.typeKey = true) (order : List Node)
    (number : Ref → RefId) :
    ∃ draft, RecordDraft.read registry (store.describe registry.policy number node) = .ok draft ∧
      store.Drafted registry.policy order number node draft := by
  obtain ⟨data, found, draft, read, links⟩ := describable.rebuilt order number
  refine ⟨⟨store.describe registry.policy number node, node.type, draft⟩, ?_,
    describe_id number node, rfl, ?_⟩
  · unfold RecordDraft.read
    rw [describe_typeKey]
    exact bind_eq_ok.mpr ⟨_, Registry.resolve_of_capable capable,
      bind_eq_ok.mpr ⟨draft, read, rfl⟩⟩
  · intro typeOf knows
    unfold slots at knows
    rw [found] at knows
    obtain ⟨linked, made, restored⟩ := links typeOf knows
    refine ⟨_, bind_eq_ok.mpr ⟨linked, made, rfl⟩, data, linked, found, ?_, restored⟩
    rw [describe_id]

end ObjectCourier
