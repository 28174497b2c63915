import ObjectCourier.Object.Embedding
import ObjectCourier.Wire.Value

/-!
Field values as wire values. Scalars have a kind of their own, nothing is null, vectors are lists
and handles are embedded by value. Reading checks kind, range and type name and coerces nothing.
-/

namespace ObjectCourier

theorem IntKind.range_of_signed {kind : IntKind} (signed : kind.signed = true) :
    IntKind.i64.lower ≤ kind.lower ∧ kind.upper ≤ IntKind.i64.upper := by
  cases kind <;> first | (simp [IntKind.signed] at signed; done) | decide

theorem IntKind.range_of_unsigned {kind : IntKind} (unsigned : ¬kind.signed = true) :
    IntKind.u64.lower ≤ kind.lower ∧ kind.upper ≤ IntKind.u64.upper := by
  cases kind <;> first | (simp [IntKind.signed] at unsigned; done) | decide

def IntKind.toWire (kind : IntKind) (value : kind.Value) : WireValue :=
  if signed : kind.signed = true then
    .int ⟨value.val,
      Int.le_trans (range_of_signed signed).1 value.property.1,
      Int.le_trans value.property.2 (range_of_signed signed).2⟩
  else
    .uint ⟨value.val,
      Int.le_trans (range_of_unsigned signed).1 value.property.1,
      Int.le_trans value.property.2 (range_of_unsigned signed).2⟩

/-- The integer behind a wire value of either family. -/
def WireValue.integer? : (signed : Bool) → WireValue → Option Int
  | true, int value => some value.val
  | false, uint value => some value.val
  | _, _ => none

namespace FieldType

def toWire {m : Type → Type} [Monad m] {Handle : ObjType → Type}
    (object : (type : ObjType) → Handle type → m Bytes) :
    (type : FieldType) → type.Val Handle → m WireValue
  | int kind, value => pure (kind.toWire value)
  | float32, value => pure (.float (Binary32.widen value))
  | float64, value => pure (.float value)
  | bool, value => pure (.bool value)
  | text, value => pure (.text value)
  | option type, value =>
      match (show Option (type.Val Handle) from value) with
      | none => pure .null
      | some inner => toWire object type inner
  | vector type, value => do
      return .list (← List.mapM (toWire object type) (show List (type.Val Handle) from value))
  | handle type, value => do
      return .embedded (handle type).typeName (← object type value)

/-- The complaint that a wire value is not of the kind that a type is written as. -/
def mismatch (type : FieldType) (field : String) (found : WireValue) : Fault :=
  .typeMismatch field type.typeName found.kindName

/-- The value of a blob that was embedded under the type's full name. -/
def ofBlob (type : FieldType) (field : String) : WireValue → Except Fault (type.Val Embedded)
  | .embedded typeName body =>
      if typeName = type.typeName then
        match (type.extract Embedded.decode).run body with
        | .ok (value, _) => .ok value
        | .error cause => .error (.malformed cause)
      else .error (.typeMismatch field type.typeName typeName)
  | other => .error (type.mismatch field other)

def ofWire (field : String) : (type : FieldType) → WireValue → Except Fault (type.Val Embedded)
  | int kind, wire =>
      match wire.integer? kind.signed with
      | some number =>
          match kind.ofInt? number with
          | some value => .ok value
          | none => .error (.typeMismatch field kind.name (toString number))
      | none => .error ((int kind).mismatch field wire)
  | float32, wire =>
      match wire with
      | .float value => .ok value.narrow
      | other => .error (float32.mismatch field other)
  | float64, wire =>
      match wire with
      | .float value => .ok value
      | other => .error (float64.mismatch field other)
  | bool, wire =>
      match wire with
      | .bool value => .ok value
      | other => .error (bool.mismatch field other)
  | text, wire =>
      match wire with
      | .text value => .ok value
      | other => .error (text.mismatch field other)
  | option type, wire =>
      match wire with
      | .null => .ok none
      | other => do
          let value ← ofWire field type other
          return some value
  | vector type, wire =>
      match wire with
      | .list items => items.mapM (ofWire field type)
      | other => .error ((vector type).mismatch field other)
  | handle type, wire => (handle type).ofBlob field wire

/-- The value that a handle alone makes up. Only handles and options of them can be made so. -/
def ofHandle {Handle : ObjType → Type} (field : String) (target : ObjType)
    (value : Handle target) : (type : FieldType) → Except Fault (type.Val Handle)
  | handle type =>
      if same : target = type then .ok (same ▸ value)
      else .error (.typeMismatch field type.key target.key)
  | option type => do
      let inner ← ofHandle field target value type
      return some inner
  | int kind => .error (.typeMismatch field kind.name target.key)
  | float32 => .error (.typeMismatch field float32.typeName target.key)
  | float64 => .error (.typeMismatch field float64.typeName target.key)
  | bool => .error (.typeMismatch field bool.typeName target.key)
  | text => .error (.typeMismatch field text.typeName target.key)
  | vector type => .error (.typeMismatch field (vector type).typeName target.key)

end FieldType

namespace Store

def blob (store : Store) (type : ObjType) (ref : Ref) : Except Fault Bytes := do
  let body := (← store.embedded type ref).encode
  if Bytes.limit ≤ body.length then throw .oversized
  return body

def toWire (store : Store) (type : FieldType) (value : type.Val Carrier.live.Handle) :
    Except Fault WireValue :=
  type.toWire store.blob value

def toBlob (store : Store) (type : FieldType) (value : type.Val Carrier.live.Handle) :
    Except Fault WireValue := do
  let byValue ← type.traverse store.embedded value
  let body := type.embed (fun _ embedded => embedded.encode) byValue
  if Bytes.limit ≤ body.length then throw .oversized
  return .embedded type.typeName body

end Store

end ObjectCourier
