import ObjectCourier.Proofs.Graph.Reading

/-!
When a record is accepted. A record makes up an object exactly when its type is known, the values its
fields require are there and can be read, and its slots name records of the types that its fields and
elements lead to. Nothing else of the payload matters.
-/

namespace ObjectCourier

/-! ### Values -/

namespace FieldType

/-- A field of the type takes the wire value: it is of the kind of the type and in its range, or a
blob under the full name of the type that can be decoded. -/
def Reads : FieldType → WireValue → Prop
  | int kind, wire =>
      ∃ number, wire.integer? kind.signed = some number ∧ kind.lower ≤ number ∧ number ≤ kind.upper
  | float32, wire | float64, wire => ∃ value, wire = .float value
  | bool, wire => ∃ value, wire = .bool value
  | text, wire => ∃ value, wire = .text value
  | option type, wire => wire = .null ∨ type.Reads wire
  | vector type, wire => ∃ items, wire = .list items ∧ ∀ item ∈ items, type.Reads item
  | handle type, wire => ∃ body copy rest,
      wire = .embedded (handle type).typeName body ∧ Embedded.decode type body = .ok (copy, rest)

theorem exists_ofBlob_iff (field : String) (type : ObjType) (wire : WireValue) :
    (∃ value, (handle type).ofBlob field wire = .ok value) ↔ (handle type).Reads wire := by
  cases wire with
  | embedded typeName body =>
      by_cases same : typeName = (handle type).typeName
      · simp only [ofBlob, if_pos same]
        have run : (extract Embedded.decode (handle type)).run body =
            Embedded.decode type body := rfl
        rw [run]
        cases decoded : Embedded.decode type body with
        | error cause =>
            refine iff_of_false (not_exists_ok _) ?_
            rintro ⟨_, copy, rest, ⟨⟩, read⟩
            cases decoded.symm.trans read
        | ok both =>
            exact iff_of_true (exists_ok _) ⟨body, both.1, both.2, by rw [same], decoded⟩
      · simp only [ofBlob, if_neg same]
        refine iff_of_false (not_exists_ok _) ?_
        rintro ⟨_, copy, rest, ⟨⟩, read⟩
        exact same rfl
  | _ =>
      refine iff_of_false (not_exists_ok _) ?_
      rintro ⟨_, _, _, ⟨⟩, _⟩

private theorem exists_ofWire_int_iff (field : String) (kind : IntKind) (wire : WireValue) :
    (∃ value, (int kind).ofWire field wire = .ok value) ↔ (int kind).Reads wire := by
  unfold ofWire Reads
  cases wire.integer? kind.signed with
  | none =>
      refine iff_of_false (not_exists_ok _) ?_
      rintro ⟨_, ⟨⟩, _⟩
  | some number =>
      unfold IntKind.ofInt?
      by_cases range : kind.lower ≤ number ∧ number ≤ kind.upper
      · simp only [dif_pos range]
        exact iff_of_true (exists_ok _) ⟨number, rfl, range⟩
      · simp only [dif_neg range]
        refine iff_of_false (not_exists_ok _) ?_
        rintro ⟨_, ⟨⟩, inside⟩
        exact range inside

private theorem exists_ofWire_iff (field : String) (type : FieldType) (wire : WireValue) :
    (∃ value, type.ofWire field wire = .ok value) ↔ type.Reads wire := by
  induction type generalizing wire with
  | int kind => exact exists_ofWire_int_iff field kind wire
  | float32 | float64 =>
      cases wire with
      | float value => exact iff_of_true (exists_ok _) ⟨value, rfl⟩
      | _ =>
          refine iff_of_false (not_exists_ok _) ?_
          rintro ⟨_, ⟨⟩⟩
  | bool =>
      cases wire with
      | bool value => exact iff_of_true (exists_ok _) ⟨value, rfl⟩
      | _ =>
          refine iff_of_false (not_exists_ok _) ?_
          rintro ⟨_, ⟨⟩⟩
  | text =>
      cases wire with
      | text value => exact iff_of_true (exists_ok _) ⟨value, rfl⟩
      | _ =>
          refine iff_of_false (not_exists_ok _) ?_
          rintro ⟨_, ⟨⟩⟩
  | option type ih =>
      by_cases null : wire = .null
      · subst null
        exact iff_of_true (exists_ok _) (.inl rfl)
      · have step : (option type).ofWire field wire =
            type.ofWire field wire >>= fun value => .ok (some value) := by
          cases wire with
          | null => exact absurd rfl null
          | _ => rfl
        rw [step]
        refine exists_bind_eq_ok.trans ?_
        unfold Reads
        rw [← ih wire]
        constructor
        · rintro ⟨value, read, _⟩
          exact .inr ⟨value, read⟩
        · rintro (same | ⟨value, read⟩)
          · exact absurd same null
          · exact ⟨value, read, exists_ok _⟩
  | vector type ih =>
      cases wire with
      | list items =>
          refine exists_mapM_eq_ok.trans ?_
          constructor
          · intro each
            exact ⟨items, rfl, fun item member => (ih item).mp (each item member)⟩
          · rintro ⟨_, ⟨⟩, each⟩ item member
            exact (ih item).mpr (each item member)
      | _ =>
          refine iff_of_false (not_exists_ok _) ?_
          rintro ⟨_, ⟨⟩, _⟩
  | handle type => exact exists_ofBlob_iff field type wire

/-! ### Slots -/

def nodeType? : FieldType → Option ObjType
  | handle type => some type
  | option type => type.nodeType?
  | int _ | float32 | float64 | bool | text | vector _ => none

private theorem exists_ofHandle_iff {Handle : ObjType → Type} (field : String) {target : ObjType}
    (value : Handle target) (type : FieldType) :
    (∃ made, type.ofHandle field target value = .ok made) ↔ type.nodeType? = some target := by
  induction type with
  | handle type =>
      unfold ofHandle nodeType?
      by_cases same : target = type
      · rw [dif_pos same]
        exact iff_of_true (exists_ok _) (congrArg some same.symm)
      · rw [dif_neg same]
        refine iff_of_false (not_exists_ok _) fun alike => ?_
        exact same (Option.some.inj alike).symm
  | option type ih =>
      refine exists_bind_eq_ok.trans ?_
      unfold nodeType?
      rw [← ih]
      constructor
      · rintro ⟨made, found, _⟩
        exact ⟨made, found⟩
      · rintro ⟨made, found⟩
        exact ⟨made, found, exists_ok _⟩
  | int kind | float32 | float64 | bool | text | vector type =>
      refine iff_of_false (not_exists_ok _) ?_
      rintro ⟨⟩

/-- A field of the type takes the slot: the record that it names is of the type that values of the
field lead to. -/
def Takes (keyOf : RefId → Option String) (slot : ChildSlot) (type : FieldType) : Prop :=
  ∃ target, type.nodeType? = some target ∧ keyOf slot.target = some target.key

end FieldType

def TypeOf.Agrees (typeOf : TypeOf) (keyOf : RefId → Option String) (record : Record) : Prop :=
  ∀ entry ∈ record.children, ∀ target,
    typeOf entry.2.target = some target ↔ keyOf entry.2.target = some target.key

section Slots

variable {typeOf : TypeOf} {keyOf : RefId → Option String} {record : Record}

private theorem FieldType.exists_ofSlot_iff (agrees : typeOf.Agrees keyOf record) {name : String}
    {slot : ChildSlot} (found : record.child? name = some slot) (type : FieldType) :
    (∃ value, type.ofSlot typeOf name slot = .ok value) ↔ type.Takes keyOf slot := by
  have same := agrees _ (Entries.mem_of_get? found)
  unfold ofSlot Takes
  cases known : typeOf slot.target with
  | none =>
      refine iff_of_false (not_exists_ok _) ?_
      rintro ⟨target, _, key⟩
      cases known.symm.trans ((same target).mpr key)
  | some target =>
      refine (exists_ofHandle_iff name _ type).trans ?_
      constructor
      · intro leads
        exact ⟨target, leads, (same target).mp known⟩
      · rintro ⟨other, leads, key⟩
        cases known.symm.trans ((same other).mpr key)
        exact leads

/-! ### Fields -/

def FieldType.Finds (record : Record) (name : String) (type : FieldType) : Prop :=
  ∃ wire, record.value? name = some wire ∧ type.Reads wire

private theorem FieldType.exists_require_iff (name : String) (type : FieldType) :
    (∃ value, (record.require name >>= type.ofWire name) = .ok value) ↔ type.Finds record name := by
  rw [exists_bind_eq_ok]
  simp only [exists_ofWire_iff]
  unfold Record.require Finds
  cases record.value? name with
  | none => simp
  | some wire => simp

/-- The record has what a field needs. A plain field needs a slot or a value. A container needs its
labels, and its value and its slot must be fit as far as there are any. -/
def Form.Accepts (keyOf : RefId → Option String) (record : Record) (name : String) : Form → Prop
  | bare type =>
      match record.child? name with
      | some slot => type.Takes keyOf slot
      | none => type.Finds record name
  | container type =>
      FieldType.text.Finds record (name ++ ".name") ∧
      FieldType.bool.Finds record (name ++ ".dirty") ∧
      FieldType.bool.Finds record (name ++ ".serializable") ∧
      (∀ wire, record.value? name = some wire → type.Reads wire) ∧
      ∀ slot, record.child? name = some slot → type.Takes keyOf slot
  | aside _ | loads | memo => True

def Form.Made (typeOf : TypeOf) (record : Record) (name : String) (form : Form)
    (startable : form.startable = true) : Prop :=
  ∃ draft linked, form.draft record name = .ok draft ∧
    form.link typeOf name startable draft = .ok linked

private theorem Form.made_bare_iff (agrees : typeOf.Agrees keyOf record) (name : String)
    (type : FieldType) (startable : (bare type).startable = true) :
    (bare type).Made typeOf record name startable ↔ (bare type).Accepts keyOf record name := by
  unfold Made Accepts
  cases child : record.child? name with
  | some slot =>
      have drafted : (bare type).draft record name = .ok (.inl slot) := by
        simp only [draft, child]
      rw [drafted]
      refine Iff.trans ?_ (FieldType.exists_ofSlot_iff agrees child type)
      constructor
      · rintro ⟨_, linked, ⟨⟩, link⟩
        exact ⟨linked, link⟩
      · rintro ⟨linked, link⟩
        exact ⟨_, linked, rfl, link⟩
  | none =>
      have drafted : (bare type).draft record name =
          ((record.require name >>= type.ofWire name) >>= fun value => .ok (.inr value)) := by
        rw [bind_assoc]
        simp only [draft, child]
        rfl
      rw [drafted]
      simp only [← FieldType.exists_require_iff]
      constructor
      · rintro ⟨draft, linked, drafts, link⟩
        obtain ⟨value, found, _⟩ := bind_eq_ok.mp drafts
        exact ⟨value, found⟩
      · rintro ⟨value, found⟩
        exact ⟨.inr value, type.sourced value, bind_eq_ok.mpr ⟨value, found, rfl⟩, rfl⟩

def FieldType.held (record : Record) (name : String) (type : FieldType) :
    Except Fault (Held (type.Val Embedded)) :=
  match record.value? name with
  | some wire => (type.ofWire name wire).map (.wrap type.tracks)
  | none => .ok .empty

private theorem FieldType.exists_held_iff (name : String) (type : FieldType) :
    (∃ held, type.held record name = .ok held) ↔
      ∀ wire, record.value? name = some wire → type.Reads wire := by
  unfold held
  cases record.value? name with
  | none => exact iff_of_true (exists_ok _) nofun
  | some wire =>
      simp only [map_eq_ok, Option.some.injEq, forall_eq', ← exists_ofWire_iff name type wire]
      constructor
      · rintro ⟨held, value, read, _⟩
        exact ⟨value, read⟩
      · rintro ⟨value, read⟩
        exact ⟨_, value, read, rfl⟩

theorem Form.draft_container_eq (name : String) (type : FieldType) :
    (container type).draft record name = (do
      let ownName ← record.require (name ++ ".name") >>= FieldType.text.ofWire (name ++ ".name")
      let dirty ← record.require (name ++ ".dirty") >>= FieldType.bool.ofWire (name ++ ".dirty")
      let serializable ← record.require (name ++ ".serializable") >>=
        FieldType.bool.ofWire (name ++ ".serializable")
      let held ← type.held record name
      return ((⟨ownName, held, dirty, serializable⟩ : Container (type.Val Embedded)),
        record.child? name)) := by
  unfold FieldType.held
  cases present : record.value? name with
  | none =>
      simp only [draft, present]
      rfl
  | some wire =>
      simp only [draft, present]
      cases type.ofWire name wire <;> rfl

private theorem Form.exists_link_container_iff (agrees : typeOf.Agrees keyOf record) (name : String)
    (type : FieldType) (startable : (container type).startable = true)
    (holder : Container (type.Val Embedded)) :
    (∃ linked,
      (container type).link typeOf name startable (holder, record.child? name) = .ok linked) ↔
      ∀ slot, record.child? name = some slot → type.Takes keyOf slot := by
  cases child : record.child? name with
  | none => exact iff_of_true (exists_ok _) nofun
  | some slot =>
      simp only [Option.some.injEq, forall_eq', ← FieldType.exists_ofSlot_iff agrees child type]
      refine exists_bind_eq_ok.trans ?_
      constructor
      · rintro ⟨value, found, _⟩
        exact ⟨value, found⟩
      · rintro ⟨value, found⟩
        exact ⟨value, found, exists_ok _⟩

private theorem Form.made_container_iff (agrees : typeOf.Agrees keyOf record) (name : String)
    (type : FieldType) (startable : (container type).startable = true) :
    (container type).Made typeOf record name startable ↔
      (container type).Accepts keyOf record name := by
  unfold Made Accepts
  rw [draft_container_eq]
  simp only [← FieldType.exists_require_iff, ← FieldType.exists_held_iff]
  constructor
  · rintro ⟨draft, linked, drafted, link⟩
    obtain ⟨ownName, named, drafted⟩ := bind_eq_ok.mp drafted
    obtain ⟨dirty, flagged, drafted⟩ := bind_eq_ok.mp drafted
    obtain ⟨serializable, permitted, drafted⟩ := bind_eq_ok.mp drafted
    obtain ⟨held, holds, drafted⟩ := bind_eq_ok.mp drafted
    cases drafted
    exact ⟨⟨ownName, named⟩, ⟨dirty, flagged⟩, ⟨serializable, permitted⟩, ⟨held, holds⟩,
      (exists_link_container_iff agrees name type startable _).mp ⟨linked, link⟩⟩
  · rintro ⟨⟨ownName, named⟩, ⟨dirty, flagged⟩, ⟨serializable, permitted⟩, ⟨held, holds⟩, slots⟩
    obtain ⟨linked, link⟩ := (exists_link_container_iff agrees name type startable
      ⟨ownName, held, dirty, serializable⟩).mpr slots
    refine ⟨_, linked, ?_, link⟩
    exact bind_eq_ok.mpr ⟨ownName, named, bind_eq_ok.mpr ⟨dirty, flagged,
      bind_eq_ok.mpr ⟨serializable, permitted, bind_eq_ok.mpr ⟨held, holds, rfl⟩⟩⟩⟩

theorem Form.made_iff (agrees : typeOf.Agrees keyOf record) (name : String) (form : Form)
    (startable : form.startable = true) :
    form.Made typeOf record name startable ↔ form.Accepts keyOf record name := by
  cases form with
  | bare type => exact made_bare_iff agrees name type startable
  | container type => exact made_container_iff agrees name type startable
  | aside type | loads | memo => exact iff_of_true ⟨(), _, rfl, rfl⟩ trivial

/-! ### Records -/

theorem Members.made_iff (agrees : typeOf.Agrees keyOf record) (members : List Member) :
    (∃ drafts linked, MembersDraft.read record members = .ok drafts ∧
      Members.link typeOf members drafts = .ok linked) ↔
      ∀ member ∈ members, member.form.Accepts keyOf record member.name := by
  induction members with
  | nil => exact iff_of_true ⟨(), (), rfl, rfl⟩ nofun
  | cons member others ih =>
      rw [List.forall_mem_cons, ← ih,
        ← Form.made_iff agrees member.name member.form member.startable]
      constructor
      · rintro ⟨drafts, linked, read, link⟩
        obtain ⟨first, drafted, read⟩ := bind_eq_ok.mp read
        obtain ⟨rest, readRest, same⟩ := bind_eq_ok.mp read
        cases same
        obtain ⟨head, linkedFirst, link⟩ := bind_eq_ok.mp link
        obtain ⟨tail, linkedRest, _⟩ := bind_eq_ok.mp link
        exact ⟨⟨first, head, drafted, linkedFirst⟩, rest, tail, readRest, linkedRest⟩
      · rintro ⟨⟨first, head, drafted, linkedFirst⟩, rest, tail, readRest, linkedRest⟩
        exact ⟨(first, rest), (head, tail),
          bind_eq_ok.mpr ⟨first, drafted, bind_eq_ok.mpr ⟨rest, readRest, rfl⟩⟩,
          bind_eq_ok.mpr ⟨head, linkedFirst, bind_eq_ok.mpr ⟨tail, linkedRest, rfl⟩⟩⟩

private theorem exists_linkElements_iff (agrees : typeOf.Agrees keyOf record) (type : ObjType)
    (remaining index : Nat) :
    (∃ items, linkElements typeOf record type remaining index = .ok items) ↔
      ∀ position < remaining, ∃ slot,
        record.child? (Record.elementSlot (index + position)) = some slot ∧
          (FieldType.handle type).Takes keyOf slot := by
  induction remaining generalizing index with
  | zero => exact iff_of_true (exists_ok _) nofun
  | succ remaining ih =>
      unfold linkElements
      simp only
      cases child : record.child? (Record.elementSlot index) with
      | none =>
          refine iff_of_false (not_exists_ok _) fun each => ?_
          obtain ⟨slot, found, _⟩ := each 0 (Nat.succ_pos remaining)
          cases child.symm.trans found
      | some slot =>
          have head := FieldType.exists_ofSlot_iff agrees child (.handle type)
          -- Positions of the rest count from the next index, hence the shifted sums below.
          have tail := ih (index + 1)
          constructor
          · rintro ⟨items, linked⟩ position inside
            obtain ⟨first, found, linked⟩ := bind_eq_ok.mp linked
            obtain ⟨others, rest, _⟩ := bind_eq_ok.mp linked
            cases position with
            | zero => exact ⟨slot, child, head.mp ⟨first, found⟩⟩
            | succ position =>
                rw [← Nat.succ_add_eq_add_succ]
                exact tail.mp ⟨others, rest⟩ position (Nat.lt_of_succ_lt_succ inside)
          · intro each
            obtain ⟨other, found, takes⟩ := each 0 (Nat.succ_pos remaining)
            cases child.symm.trans found
            obtain ⟨first, made⟩ := head.mpr takes
            obtain ⟨others, rest⟩ := tail.mpr fun position inside => by
              rw [Nat.succ_add_eq_add_succ]
              exact each (position + 1) (Nat.succ_lt_succ inside)
            exact ⟨_, bind_eq_ok.mpr ⟨first, made, bind_eq_ok.mpr ⟨others, rest, rfl⟩⟩⟩

/-- The number of elements is an unsigned integer. -/
theorem FieldType.ofWire_count_eq_ok {field : String} {wire : WireValue}
    {count : IntKind.usize.Value} :
    (int .usize).ofWire field wire = .ok count ↔
      ∃ number, wire = .uint number ∧ count.val = number.val := by
  cases wire with
  | uint number =>
      have lower : IntKind.usize.lower ≤ IntKind.u64.lower := by decide
      have upper : IntKind.u64.upper ≤ IntKind.usize.upper := by decide
      have range : IntKind.usize.lower ≤ number.val ∧ number.val ≤ IntKind.usize.upper :=
        ⟨Int.le_trans lower number.property.1, Int.le_trans number.property.2 upper⟩
      let value : IntKind.usize.Value := ⟨number.val, range⟩
      have read : (int .usize).ofWire field (.uint number) = .ok value := by
        have integer : (WireValue.uint number).integer? IntKind.usize.signed = some value.val := rfl
        unfold ofWire
        simp only [integer, IntKind.ofInt?_val]
      rw [read]
      constructor
      · intro found
        have same : value = count := Except.ok.inj found
        exact ⟨number, rfl, congrArg (fun count : IntKind.usize.Value => count.val) same.symm⟩
      · rintro ⟨other, found, same⟩
        cases WireValue.uint.inj found
        have equal : value = count := Subtype.ext same.symm
        exact congrArg Except.ok equal
  | _ =>
      refine iff_of_false ?_ ?_
      · rintro ⟨⟩
      · rintro ⟨_, ⟨⟩, _⟩

/-- The record has what an object of the shape needs: what every field needs, or as many slots as it
has elements. -/
def Shape.Accepts (keyOf : RefId → Option String) (record : Record) : Shape → Prop
  | fields members => ∀ member ∈ members, member.form.Accepts keyOf record member.name
  | elements type => ∃ number, record.value? Record.countName = some (.uint number) ∧
      ∀ index < number.val.toNat, ∃ slot,
        record.child? (Record.elementSlot index) = some slot ∧
          (FieldType.handle type).Takes keyOf slot

theorem Shape.made_iff (agrees : typeOf.Agrees keyOf record) (shape : Shape) :
    (∃ draft data, shape.draft record = .ok draft ∧ shape.link typeOf record draft = .ok data) ↔
      shape.Accepts keyOf record := by
  cases shape with
  | fields members => exact Members.made_iff agrees members
  | elements type =>
      constructor
      · rintro ⟨count, items, drafted, link⟩
        obtain ⟨wire, required, read⟩ := bind_eq_ok.mp drafted
        obtain ⟨number, rfl, same⟩ := FieldType.ofWire_count_eq_ok.mp read
        have present : record.value? Record.countName = some (.uint number) := by
          unfold Record.require at required
          cases found : record.value? Record.countName with
          | none =>
              rw [found] at required
              cases required
          | some other =>
              rw [found] at required
              cases required
              rfl
        refine ⟨number, present, fun index inside => ?_⟩
        have slots := (exists_linkElements_iff agrees type _ 0).mp ⟨items, link⟩ index
          (same ▸ inside)
        rwa [Nat.zero_add] at slots
      · rintro ⟨number, present, slots⟩
        let count : IntKind.usize.Value := ⟨number.val, number.property⟩
        have read : (FieldType.int .usize).ofWire Record.countName (.uint number) = .ok count :=
          FieldType.ofWire_count_eq_ok.mpr ⟨number, rfl, rfl⟩
        obtain ⟨items, link⟩ := (exists_linkElements_iff agrees type number.val.toNat 0).mpr
          fun index inside => by
            rw [Nat.zero_add]
            exact slots index inside
        exact ⟨count, items, bind_eq_ok.mpr ⟨_, Record.require_of_value? present, read⟩, link⟩

end Slots

/-- The check of one record. It looks at the registered types, at the record itself, and at the type
keys of the records that the slots of the record name. -/
def Record.Accepted (registry : Registry) (keyOf : RefId → Option String) (record : Record) : Prop :=
  ∃ type, registry.type? record.typeKey = some type ∧ type.shape.Accepts keyOf record

/-! ### What the check looks at -/

section Local

variable {keyOf other : RefId → Option String} {record : Record}
  (same : ∀ entry ∈ record.children, other entry.2.target = keyOf entry.2.target)

include same

private theorem FieldType.takes_congr {name : String} {slot : ChildSlot}
    (found : record.child? name = some slot) (type : FieldType) :
    type.Takes other slot ↔ type.Takes keyOf slot := by
  unfold Takes
  rw [same _ (Entries.mem_of_get? found)]

private theorem Form.accepts_congr (name : String) (form : Form) :
    form.Accepts other record name ↔ form.Accepts keyOf record name := by
  cases form with
  | bare type =>
      unfold Accepts
      cases child : record.child? name with
      | some slot => exact FieldType.takes_congr same child type
      | none => exact Iff.rfl
  | container type =>
      have slots : (∀ slot, record.child? name = some slot → type.Takes other slot) ↔
          ∀ slot, record.child? name = some slot → type.Takes keyOf slot :=
        forall_congr' fun slot => imp_congr_right fun child =>
          FieldType.takes_congr same child type
      exact and_congr_right fun _ => and_congr_right fun _ => and_congr_right fun _ =>
        and_congr_right fun _ => slots
  | aside type | loads | memo => exact Iff.rfl

private theorem Shape.accepts_congr (shape : Shape) :
    shape.Accepts other record ↔ shape.Accepts keyOf record := by
  cases shape with
  | fields members =>
      exact forall_congr' fun member => imp_congr_right fun _ =>
        Form.accepts_congr same member.name member.form
  | elements type =>
      refine exists_congr fun number => and_congr_right fun _ => ?_
      refine forall_congr' fun index => imp_congr_right fun _ => ?_
      exact exists_congr fun slot => and_congr_right fun child =>
        FieldType.takes_congr same child _

/-- The check of a record does not look beyond its own slots. -/
theorem Record.accepted_congr (registry : Registry) :
    record.Accepted registry other ↔ record.Accepted registry keyOf :=
  exists_congr fun type => and_congr_right fun _ => Shape.accepts_congr same type.shape

end Local

end ObjectCourier
