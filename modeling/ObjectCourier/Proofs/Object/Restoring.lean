import ObjectCourier.Object.FieldWire
import ObjectCourier.Proofs.Number.Widening
import ObjectCourier.Proofs.Object.Tree
import ObjectCourier.Proofs.Outcome

/-!
Values that come back from the wire. An option around nothing comes back as nothing, a pattern of no
number comes back quiet, everything else comes back as it was; and what has come back is written
like the value that it came from.
-/

namespace ObjectCourier

variable {Source Target Third : ObjType → Type}

namespace FieldType

def Absent {Handle : ObjType → Type} : (type : FieldType) → type.Val Handle → Prop
  | option type, value =>
      match (show Option (type.Val Handle) from value) with
      | none => True
      | some inner => Absent type inner
  | int _, _ | float32, _ | float64, _ | bool, _ | text, _ | vector _, _ | handle _, _ => False

/-- The second value is what the first one comes back as. -/
def RestoredAs (same : (type : ObjType) → Source type → Target type → Prop) :
    (type : FieldType) → type.Val Source → type.Val Target → Prop
  | int _, left, right => right = left
  | float32, left, right => right = Binary32.settle left
  | float64, left, right => right = left
  | bool, left, right => right = left
  | text, left, right => right = left
  | option type, left, right =>
      match (show Option (type.Val Source) from left), (show Option (type.Val Target) from right) with
      | none, none => True
      | some left, none => Absent type left
      | some left, some right => ¬Absent type left ∧ RestoredAs same type left right
      | none, some _ => False
  | vector type, left, right => List.Forall₂ (RestoredAs same type) left right
  | handle type, left, right => same type left right

theorem RestoredAs.comp {first : (type : ObjType) → Source type → Target type → Prop}
    {second : (type : ObjType) → Target type → Third type → Prop}
    {both : (type : ObjType) → Source type → Third type → Prop} {type : FieldType}
    {left : type.Val Source} {middle : type.Val Target} {right : type.Val Third}
    (restored : type.RestoredAs first left middle) (alike : type.Matches second middle right)
    (composes : ∀ type left middle right, first type left middle → second type middle right →
      both type left right) : type.RestoredAs both left right := by
  induction type with
  | int kind | float32 | float64 | bool | text => exact Eq.trans (Eq.symm alike) restored
  | option type ih =>
      match left, middle, right, restored, alike with
      | none, none, none, _, _ => trivial
      | some _, none, none, absent, _ => exact absent
      | some _, some _, some _, restored, alike => exact ⟨restored.1, ih restored.2 alike⟩
  | vector type ih =>
      have near : List.Forall₂ (type.RestoredAs first) left middle := restored
      have far : List.Forall₂ (type.Matches second) middle right := alike
      exact forall₂_comp near far fun _ _ _ => ih
  | handle type => exact composes type left middle right restored alike

theorem toWire_of_absent {object : (type : ObjType) → Source type → Except Fault Bytes}
    {type : FieldType} {value : type.Val Source} (absent : type.Absent value) :
    type.toWire object value = .ok .null := by
  induction type with
  | int kind | float32 | float64 | bool | text | vector _ | handle _ => exact absurd absent id
  | option type ih =>
      match value, absent with
      | none, _ => rfl
      | some _, absent => exact ih absent

theorem absent_of_toWire {object : (type : ObjType) → Source type → Except Fault Bytes}
    {type : FieldType} {value : type.Val Source}
    (written : type.toWire object value = .ok .null) : type.Absent value := by
  induction type with
  | int kind =>
      change Except.ok (kind.toWire value) = _ at written
      unfold IntKind.toWire at written
      split at written <;> cases written
  | float32 | float64 | bool | text => cases written
  | option type ih =>
      match value, written with
      | none, _ => trivial
      | some _, written => exact ih written
  | vector type ih =>
      obtain ⟨items, _, same⟩ := bind_eq_ok.mp written
      cases same
  | handle type =>
      obtain ⟨body, _, same⟩ := bind_eq_ok.mp written
      cases same

theorem ofWire_option {field : String} {type : FieldType} {wire : WireValue}
    (present : wire ≠ .null) :
    (option type).ofWire field wire = do return some (← type.ofWire field wire) := by
  cases wire with
  | null => exact absurd rfl present
  | bool _ | int _ | uint _ | float _ | text _ | bytes _ | list _ | embedded _ _ => rfl

theorem ofWire_int {field : String} {kind : IntKind} (value : kind.Value) :
    (int kind).ofWire field (kind.toWire value) = .ok value := by
  have number : (kind.toWire value).integer? kind.signed = some value.val := by
    unfold IntKind.toWire
    split
    · rename_i signed
      rw [signed]
      rfl
    · rename_i unsigned
      rw [Bool.not_eq_true] at unsigned
      rw [unsigned]
      rfl
  unfold ofWire
  simp only [number, IntKind.ofInt?_val]

/-- A value is read from the wire as what it comes back as. -/
theorem ofWire_toWire {object : (type : ObjType) → Source type → Except Fault Bytes}
    {same : (type : ObjType) → Source type → Embedded type → Prop} {admits : ObjType → Bool}
    {field : String} {type : FieldType} {value : type.Val Source} {wire : WireValue}
    (confined : type.confined admits = true)
    (objects : ∀ type value body, admits type = true → object type value = .ok body →
      ∃ found, (handle type).ofBlob field (.embedded (handle type).typeName body) = .ok found ∧
        same type value found)
    (written : type.toWire object value = .ok wire) :
    ∃ found, type.ofWire field wire = .ok found ∧ type.RestoredAs same value found := by
  induction type generalizing wire with
  | int kind =>
      cases written
      exact ⟨value, ofWire_int value, rfl⟩
  | float32 =>
      cases written
      exact ⟨_, congrArg Except.ok (Binary32.narrow_widen value), rfl⟩
  | float64 | bool | text =>
      cases written
      exact ⟨value, rfl, rfl⟩
  | option type ih =>
      match value with
      | none =>
          cases written
          exact ⟨none, rfl, trivial⟩
      | some inner =>
          by_cases nothing : wire = .null
          · subst nothing
            exact ⟨none, rfl, absent_of_toWire written⟩
          · obtain ⟨found, read, restored⟩ := ih confined written
            refine ⟨some found, ?_, ?_, restored⟩
            · rw [ofWire_option nothing, read]
              rfl
            · intro absent
              cases (toWire_of_absent absent).symm.trans written
              exact nothing rfl
  | vector type ih =>
      obtain ⟨wires, writtenItems, ended⟩ := bind_eq_ok.mp written
      cases ended
      have each : ∀ item wire, type.toWire object item = .ok wire →
          ∃ found, type.ofWire field wire = .ok found ∧ type.RestoredAs same item found :=
        fun _ _ => ih confined
      obtain ⟨found, read, restored⟩ := exists_forall₂ (mapM_eq_ok.mp writtenItems) each
      exact ⟨found, mapM_eq_ok.mpr read, restored⟩
  | handle type =>
      obtain ⟨body, embedded, ended⟩ := bind_eq_ok.mp written
      cases ended
      exact objects type value body confined embedded

/-- What has come back is written like what it came from. -/
theorem toWire_of_restored {object : (type : ObjType) → Source type → Except Fault Bytes}
    {other : (type : ObjType) → Target type → Except Fault Bytes}
    {same : (type : ObjType) → Source type → Target type → Prop} {type : FieldType}
    {left : type.Val Source} {right : type.Val Target} {wire : WireValue}
    (restored : type.RestoredAs same left right)
    (objects : ∀ type left right body, same type left right → object type left = .ok body →
      other type right = .ok body)
    (written : type.toWire object left = .ok wire) : type.toWire other right = .ok wire := by
  induction type generalizing wire with
  | int kind | float64 | bool | text =>
      have same : right = left := restored
      exact same ▸ written
  | float32 =>
      have settled : right = Binary32.settle left := restored
      subst settled
      rw [← written]
      exact congrArg (fun wide => Except.ok (WireValue.float wide)) (Binary32.widen_settle left)
  | option type ih =>
      match left, right, restored with
      | none, none, _ => exact written
      | some _, none, absent => exact (toWire_of_absent absent).symm.trans written
      | some _, some _, restored => exact ih restored.2 written
  | vector type ih =>
      obtain ⟨wires, items, ended⟩ := bind_eq_ok.mp written
      have pairs : List.Forall₂ (type.RestoredAs same) left right := restored
      have each : ∀ left right wire, type.RestoredAs same left right →
          type.toWire object left = .ok wire → type.toWire other right = .ok wire :=
        fun _ _ _ => ih
      refine bind_eq_ok.mpr ⟨wires, mapM_eq_ok.mpr ?_, ended⟩
      exact forall₂_comp pairs.flip (mapM_eq_ok.mp items) fun _ _ _ => each _ _ _
  | handle type =>
      obtain ⟨body, embedded, ended⟩ := bind_eq_ok.mp written
      exact bind_eq_ok.mpr ⟨body, objects type left right body restored embedded, ended⟩

end FieldType

end ObjectCourier
