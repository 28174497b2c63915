import ObjectCourier.Object.Embedding

/-!
New objects. Every field starts with the first value of its type: zero, nothing, the empty list or
the nameless container. A bare handle to a list starts with a new empty list.
-/

namespace ObjectCourier

def FieldType.first : (type : FieldType) → type.startable = true → type.Val Embedded
  | int kind, _ => kind.zero
  | float32, _ => (⟨0⟩ : Binary32)
  | float64, _ => (⟨0⟩ : Binary64)
  | bool, _ => false
  | text, _ => ""
  | option _, _ => none
  | vector _, _ => []
  | handle (.list _), _ => { depth := 1, tree := [] }
  | handle (.record _), startable => nomatch startable

def Form.first : (form : Form) → form.startable = true → form.Val (Carrier.byValue Embedded)
  | bare type, startable => type.first startable
  | container _, _ => Container.placeholder
  | aside type, startable => type.first startable
  | loads, _ => ()
  | memo, _ => ()

def Members.first : (members : List Member) → Members (Carrier.byValue Embedded) members
  | [] => ()
  | member :: others => (member.form.first member.startable, first others)

/-- The content of a new object, by value. -/
def ObjType.first : (type : ObjType) → type.Data (Carrier.byValue Embedded)
  | record type => Members.first type.members
  | list _ => []

def ObjType.initial (type : ObjType) : StateM Store (type.Data Carrier.live) :=
  type.traverse (.planting fun _ embedded => embedded.plant) type.first

def ObjType.alloc (type : ObjType) (data : type.Data Carrier.live) : StateM Store Node :=
  fun store =>
    let (ref, after) := store.alloc type data
    (⟨type, ref⟩, after)

def ObjType.create (type : ObjType) : StateM Store Node := do
  type.alloc (← type.initial)

end ObjectCourier
