import ObjectCourier.Proofs.Object.Matching
import ObjectCourier.Proofs.Object.Restoring

/-!
Values without handles on the wire. Every wire value that is read is the one that its value is
written as, so nothing is coerced and no two wire values are read alike. A value comes back unless
one of its options is around nothing; such an option is written like nothing and comes back as that.
-/

namespace ObjectCourier

variable {Handle Source Target : ObjType → Type}

namespace FieldType

/-- The type is built of integers, wide floats, truth values and texts by options and vectors. -/
def isScalar : FieldType → Bool
  | int _ | float64 | bool | text => true
  | option type | vector type => type.isScalar
  | float32 | handle _ => false

instance Absent.decidable : (type : FieldType) → (value : type.Val Handle) →
    Decidable (type.Absent value)
  | option type, value =>
      match (show Option (type.Val Handle) from value) with
      | none => .isTrue trivial
      | some inner => Absent.decidable type inner
  | int _, _ | float32, _ | float64, _ | bool, _ | text, _ | vector _, _ | handle _, _ => .isFalse id

/-- Some option in the value is around nothing. -/
def Hides : (type : FieldType) → type.Val Handle → Prop
  | option type, value =>
      match (show Option (type.Val Handle) from value) with
      | none => False
      | some inner => type.Absent inner ∨ Hides type inner
  | vector type, items => ∃ item ∈ (show List (type.Val Handle) from items), Hides type item
  | int _, _ | float32, _ | float64, _ | bool, _ | text, _ | handle _, _ => False

/-- The value with nothing in place of every option around nothing. -/
def collapse : (type : FieldType) → type.Val Handle → type.Val Handle
  | option type, value =>
      match (show Option (type.Val Handle) from value) with
      | none => none
      | some inner => if type.Absent inner then none else some (collapse type inner)
  | vector type, items => (show List (type.Val Handle) from items).map (collapse type)
  | int _, value | float32, value | float64, value | bool, value | text, value => value
  | handle _, value => value

private theorem map_eq_self_iff {α : Type} {change : α → α} {items : List α} :
    items.map change = items ↔ ∀ item ∈ items, change item = item := by
  have alone : items.map change = items.map id ↔ _ := List.map_inj_left
  rwa [List.map_id] at alone

private theorem collapse_eq_self_iff {type : FieldType} {value : type.Val Handle} :
    type.collapse value = value ↔ ¬type.Hides value := by
  induction type with
  | int kind | float32 | float64 | bool | text | handle _ => exact ⟨fun _ => id, fun _ => rfl⟩
  | option type ih =>
      match value with
      | none => exact ⟨fun _ => id, fun _ => rfl⟩
      | some inner =>
          change (if type.Absent inner then none else some (type.collapse inner)) = some inner ↔
            ¬(type.Absent inner ∨ type.Hides inner)
          by_cases absent : type.Absent inner
          · simp [absent]
          · simp [absent, ih]
  | vector type ih =>
      have alone : List.map type.collapse value = value ↔
          ∀ item : type.Val Handle, List.Mem item value → type.collapse item = item :=
        map_eq_self_iff
      simp only [ih] at alone
      exact alone.trans ⟨fun shown ⟨item, member, hides⟩ => shown item member hides,
        fun shown item member hides => shown ⟨item, member, hides⟩⟩

private theorem confined_of_isScalar {type : FieldType} {admits : ObjType → Bool}
    (scalar : type.isScalar = true) : type.confined admits = true := by
  induction type with
  | int _ | float64 | bool | text => rfl
  | option type ih | vector type ih => exact ih scalar
  | float32 | handle _ => cases scalar

private theorem exists_toWire {object : (type : ObjType) → Handle type → Except Fault Bytes}
    {type : FieldType} (scalar : type.isScalar = true) (value : type.Val Handle) :
    ∃ wire, type.toWire object value = .ok wire := by
  induction type with
  | int _ | float64 | bool | text => exact ⟨_, rfl⟩
  | option type ih =>
      match value with
      | none => exact ⟨_, rfl⟩
      | some inner => exact ih scalar inner
  | vector type ih =>
      obtain ⟨wires, written⟩ := exists_mapM_eq_ok.mpr fun item _ => ih scalar item
      exact ⟨.list wires, bind_eq_ok.mpr ⟨wires, written, rfl⟩⟩
  | float32 | handle _ => cases scalar

private theorem RestoredAs.eq_collapse {same : (type : ObjType) → Handle type → Handle type → Prop}
    {type : FieldType} (scalar : type.isScalar = true) {left right : type.Val Handle}
    (restored : type.RestoredAs same left right) : right = type.collapse left := by
  induction type with
  | int _ | float64 | bool | text => exact restored
  | option type ih =>
      match left, right, restored with
      | none, none, _ => rfl
      | some inner, none, absent => exact (if_pos absent).symm
      | some inner, some other, ⟨present, restored⟩ =>
          have kept : (option type).collapse (some inner) = some (type.collapse inner) :=
            if_neg present
          rw [kept, ih scalar restored]
  | vector type ih =>
      have pairs : List.Forall₂ (type.RestoredAs same) left right := restored
      have each : List.map id right = List.map type.collapse left :=
        map_eq_of_forall₂ pairs fun _ _ => ih scalar
      exact (List.map_id right).symm.trans each
  | float32 | handle _ => cases scalar

private theorem toWire_of_ofInt? {kind : IntKind} {number : Int} {value : kind.Value}
    {wire : WireValue}
    (ranged : kind.ofInt? number = some value) (same : wire.integer? kind.signed = some number) :
    kind.toWire value = wire := by
  unfold IntKind.ofInt? at ranged
  split at ranged
  · cases ranged
    unfold IntKind.toWire
    split
    · rename_i signed
      rw [signed] at same
      cases wire <;> cases same
      rfl
    · rename_i unsigned
      rw [Bool.not_eq_true] at unsigned
      rw [unsigned] at same
      cases wire <;> cases same
      rfl
  · cases ranged

private theorem toWire_of_ofWire_int {field : String} {kind : IntKind} {wire : WireValue}
    {value : kind.Value} (read : (int kind).ofWire field wire = .ok value) :
    kind.toWire value = wire := by
  unfold ofWire at read
  cases same : wire.integer? kind.signed with
  | none =>
      simp only [same] at read
      cases read
  | some number =>
      simp only [same] at read
      cases ranged : kind.ofInt? number with
      | none =>
          simp only [ranged] at read
          cases read
      | some other =>
          simp only [ranged] at read
          cases read
          exact toWire_of_ofInt? ranged same

private theorem toWire_of_ofWire {object : (type : ObjType) → Handle type → Except Fault Bytes}
    {same : (type : ObjType) → Embedded type → Handle type → Prop} {field : String}
    {type : FieldType} (scalar : type.isScalar = true) {wire : WireValue}
    {found : type.Val Embedded} {value : type.Val Handle}
    (read : type.ofWire field wire = .ok found) (alike : type.Matches same found value) :
    type.toWire object value = .ok wire := by
  induction type generalizing wire with
  | int kind =>
      have equal : found = value := alike
      subst equal
      exact congrArg Except.ok (toWire_of_ofWire_int read)
  | float64 | bool | text =>
      have equal : found = value := alike
      subst equal
      cases wire <;> cases read
      rfl
  | option type ih =>
      by_cases nothing : wire = .null
      · subst nothing
        cases read
        match value, alike with
        | none, _ => rfl
      · rw [ofWire_option nothing] at read
        obtain ⟨inner, readInner, ended⟩ := bind_eq_ok.mp read
        cases ended
        match value, alike with
        | some _, alike => exact ih scalar readInner alike
  | vector type ih =>
      cases wire with
      | list items =>
          have pairs : List.Forall₂ (type.Matches same) found value := alike
          have reads := mapM_eq_ok.mp read
          refine bind_eq_ok.mpr ⟨items, mapM_eq_ok.mpr ?_, rfl⟩
          exact (forall₂_comp reads pairs fun _ _ _ read alike => ih scalar read alike).flip
      | null | bool _ | int _ | uint _ | float _ | text _ | bytes _ | embedded _ _ => cases read
  | float32 | handle _ => cases scalar

private theorem matches_plant {type : FieldType} (scalar : type.isScalar = true)
    {found : type.Val Embedded} {value : type.Val Carrier.live.Handle} {before after : Store}
    (planted : type.plant found before = (value, after)) :
    before = after ∧ type.Matches (fun _ _ _ => False) found value := by
  induction type generalizing before after with
  | int _ | float64 | bool | text =>
      cases planted
      exact ⟨rfl, rfl⟩
  | option type ih =>
      match found with
      | none =>
          cases planted
          exact ⟨rfl, trivial⟩
      | some inner =>
          cases planted
          exact ih scalar rfl
  | vector type ih =>
      exact (Running.state Store).mapM_matches (fun _ => rfl) Eq.trans
        (fun _ _ => type.Matches fun _ _ _ => False) (fun _ _ alike => alike) (ih scalar) planted
  | float32 | handle _ => cases scalar

end FieldType

def Store.ofWire (store : Store) (type : FieldType) (field : String) (wire : WireValue) :
    Except Fault (type.Val Carrier.live.Handle × Store) :=
  (type.ofWire field wire).map fun found => type.plant found store

/-- Values of a type and the wire values that they are written as and read from. -/
structure FieldType.Correspond (store : Store) (type : FieldType) (field : String) : Prop where
  written : ∀ value, ∃ wire, store.toWire type value = .ok wire
  read : ∀ wire value after, store.ofWire type field wire = .ok (value, after) →
    after = store ∧ store.toWire type value = .ok wire
  back : ∀ value wire, store.toWire type value = .ok wire →
    store.ofWire type field wire = .ok (type.collapse value, store)
  kept : ∀ value wire, store.toWire type value = .ok wire →
    (store.ofWire type field wire = .ok (value, store) ↔ ¬type.Hides value)
  hidden : ∀ value, store.toWire type value = .ok .null ↔ type.Absent value

private theorem FieldType.ofWire_back {type : FieldType} (scalar : type.isScalar = true)
    {store : Store} {field : String} {value : type.Val Carrier.live.Handle} {wire : WireValue}
    (written : store.toWire type value = .ok wire) :
    store.ofWire type field wire = .ok (type.collapse value, store) := by
  have none : type.confined (fun _ => false) = true := confined_of_isScalar scalar
  obtain ⟨found, read, restored⟩ :
      ∃ found, type.ofWire field wire = .ok found ∧
        type.RestoredAs (fun _ _ _ => False) value found :=
    ofWire_toWire none (fun _ _ _ admitted => nomatch admitted) written
  obtain ⟨unmoved, alike⟩ := matches_plant scalar (Prod.eta (type.plant found store)).symm
  have both : type.RestoredAs (fun _ _ _ => False) value (type.plant found store).1 :=
    restored.comp alike fun _ _ _ _ absurd _ => absurd
  rw [Store.ofWire, read, ← both.eq_collapse scalar]
  exact congrArg (fun after => Except.ok ((type.plant found store).1, after)) unmoved.symm

/-- The values of every scalar type correspond to their wire values. -/
theorem FieldType.scalars_correspond {type : FieldType} (scalar : type.isScalar = true)
    (store : Store) (field : String) : type.Correspond store field where
  written := exists_toWire scalar
  read wire value after read := by
    obtain ⟨found, taken, planted⟩ := map_eq_ok.mp read
    obtain ⟨unmoved, alike⟩ := matches_plant scalar planted
    exact ⟨unmoved.symm, toWire_of_ofWire scalar taken alike⟩
  back _ _ written := ofWire_back scalar written
  kept value wire written := by
    rw [ofWire_back scalar written, ← collapse_eq_self_iff]
    constructor
    · exact fun same => congrArg Prod.fst (Except.ok.inj same)
    · intro same
      rw [same]
  hidden _ := ⟨absent_of_toWire, toWire_of_absent⟩

/-- Of a number and the two ways to have none behind two options, the option around nothing is not
told from nothing. -/
theorem FieldType.scalars_correspond_nested :
    (vector (option (option (int .i16)))).isScalar = true ∧
    ∃ wire, Store.toWire default (vector (option (option (int .i16))))
        [some (some (IntKind.zero .i16)), some none, none] = .ok wire ∧
      Store.ofWire default (vector (option (option (int .i16)))) "f" wire =
        .ok ([some (some (IntKind.zero .i16)), none, none], default) ∧
      Store.ofWire default (vector (option (option (int .i16)))) "f" wire ≠
        .ok ([some (some (IntKind.zero .i16)), some none, none], default) := by
  have scalar : (vector (option (option (int .i16)))).isScalar = true := rfl
  have correspond := scalars_correspond scalar default "f"
  obtain ⟨wire, written⟩ :=
    correspond.written [some (some (IntKind.zero .i16)), some none, none]
  refine ⟨scalar, wire, written, correspond.back _ _ written, ?_⟩
  intro same
  refine (correspond.kept _ _ written).mp same ⟨some none, ?_, .inl trivial⟩
  exact List.mem_cons_of_mem _ List.mem_cons_self

end ObjectCourier
