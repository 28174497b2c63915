import ObjectCourier.Number.Binary
import ObjectCourier.Schema.Member

/-!
The contents of objects, typed by the schema. What stands for a handle is a parameter, the carrier:
a place in a store, a copy by value, or the id of a record. `ObjType.traverse` changes the carrier
and keeps everything else, visiting the handles in declaration order.
-/

namespace ObjectCourier

/-- What a field holds, tagged with whether the value answers status questions. -/
inductive Held (α : Type) where
  | empty
  | plain (value : α)
  | tracked (value : α)
  deriving DecidableEq, Repr

namespace Held

/-- Hold a value under the tag of its type. -/
def wrap {α : Type} (tracks : Bool) (value : α) : Held α :=
  if tracks then tracked value else plain value

def value? {α : Type} : Held α → Option α
  | empty => none
  | plain value => some value
  | tracked value => some value

/-- Change the value and keep the tag. -/
def modify {α : Type} (change : α → α) : Held α → Held α
  | empty => empty
  | plain value => plain (change value)
  | tracked value => tracked (change value)

def traverse {m : Type → Type} [Monad m] {α β : Type} (visit : α → m β) : Held α → m (Held β)
  | empty => pure empty
  | plain value => do return plain (← visit value)
  | tracked value => do return tracked (← visit value)

end Held

/-- A field with a name of its own, a dirty flag and a permission to be walked. -/
structure Container (α : Type) where
  name : String
  held : Held α
  dirty : Bool
  serializable : Bool
  deriving DecidableEq, Repr

namespace Container

/-- The nameless container that a new object starts with. -/
def placeholder {α : Type} : Container α where
  name := ""
  held := .empty
  dirty := false
  serializable := true

/-- An empty, clean container; its name must not be empty. -/
def empty? {α : Type} (name : String) (serializable : Bool) : Option (Container α) :=
  if name = "" then none
  else some { name := name, held := .empty, dirty := false, serializable := serializable }

def value? {α : Type} (container : Container α) : Option α := container.held.value?

/-- Assign a value. The container becomes dirty even if the value is the same. -/
def assign {α : Type} (tracks : Bool) (value : α) (container : Container α) : Container α :=
  { container with held := .wrap tracks value, dirty := true }

/-- A container that already holds a value. It starts dirty. -/
def filled? {α : Type} (tracks : Bool) (name : String) (value : α) (serializable : Bool) :
    Option (Container α) :=
  (empty? name serializable).map (assign tracks value)

def clean {α : Type} (container : Container α) : Container α :=
  { container with dirty := false }

/-- Change the held value in place, which leaves the dirty flag alone. -/
def modify {α : Type} (change : α → α) (container : Container α) : Container α :=
  { container with held := container.held.modify change }

def traverse {m : Type → Type} [Monad m] {α β : Type} (visit : α → m β)
    (container : Container α) : m (Container β) := do
  return { name := container.name
           held := ← container.held.traverse visit
           dirty := container.dirty
           serializable := container.serializable }

end Container

/-- What stands for the parts of an object that are not plain values. -/
structure Carrier where
  Handle : ObjType → Type
  Loads : Type
  Memo : Type

/-- A change from one carrier to another, with effects. -/
structure Carrier.Visitor (m : Type → Type) (source target : Carrier) where
  handle : (type : ObjType) → source.Handle type → m (target.Handle type)
  loads : source.Loads → m target.Loads
  memo : source.Memo → m target.Memo

namespace FieldType

def Val (Handle : ObjType → Type) : FieldType → Type
  | int kind => kind.Value
  | float32 => Binary32
  | float64 => Binary64
  | bool => Bool
  | text => String
  | option type => Option (type.Val Handle)
  | vector type => List (type.Val Handle)
  | handle type => Handle type

def traverse {m : Type → Type} [Monad m] {Source Target : ObjType → Type}
    (visit : (type : ObjType) → Source type → m (Target type)) :
    (type : FieldType) → type.Val Source → m (type.Val Target)
  | int _, value => pure value
  | float32, value => pure value
  | float64, value => pure value
  | bool, value => pure value
  | text, value => pure value
  | option type, value =>
      match (show Option (type.Val Source) from value) with
      | none => pure none
      | some inner => do
          let changed ← traverse visit type inner
          pure (some changed)
  | vector type, value =>
      List.mapM (traverse visit type) (show List (type.Val Source) from value)
  | handle type, value => visit type value

/-- The handle that a value is, through any options. Vectors hold their handles by value only. -/
def node? {Handle : ObjType → Type} :
    (type : FieldType) → type.Val Handle → Option ((target : ObjType) × Handle target)
  | handle type, value => some ⟨type, value⟩
  | option type, value =>
      match (show Option (type.Val Handle) from value) with
      | none => none
      | some inner => node? type inner
  | int _, _ | float32, _ | float64, _ | bool, _ | text, _ | vector _, _ => none

end FieldType

def Form.Val (carrier : Carrier) : Form → Type
  | bare type => type.Val carrier.Handle
  | container type => Container (type.Val carrier.Handle)
  | aside type => type.Val carrier.Handle
  | loads => carrier.Loads
  | memo => carrier.Memo

def Form.traverse {m : Type → Type} [Monad m] {source target : Carrier}
    (visitor : Carrier.Visitor m source target) :
    (form : Form) → form.Val source → m (form.Val target)
  | bare type, value => type.traverse visitor.handle value
  | container type, value =>
      Container.traverse (type.traverse visitor.handle)
        (show Container (type.Val source.Handle) from value)
  | aside type, value => type.traverse visitor.handle value
  | loads, value => visitor.loads value
  | memo, value => visitor.memo value

def Members (carrier : Carrier) : List Member → Type
  | [] => Unit
  | member :: others => member.form.Val carrier × Members carrier others

namespace Members

def traverse {m : Type → Type} [Monad m] {source target : Carrier}
    (visitor : Carrier.Visitor m source target) :
    (members : List Member) → Members source members → m (Members target members)
  | [], _ => pure ()
  | member :: others, (first, rest) => do
      let changed ← member.form.traverse visitor first
      let remaining ← traverse visitor others rest
      return (changed, remaining)

end Members

def Shape.Data (carrier : Carrier) : Shape → Type
  | fields members => Members carrier members
  | elements type => List (carrier.Handle type)

def Shape.traverse {m : Type → Type} [Monad m] {source target : Carrier}
    (visitor : Carrier.Visitor m source target) :
    (shape : Shape) → shape.Data source → m (shape.Data target)
  | fields members, data => Members.traverse visitor members data
  | elements type, items =>
      List.mapM (visitor.handle type) (show List (source.Handle type) from items)

/-- The content of an object of the given type. -/
abbrev ObjType.Data (carrier : Carrier) (type : ObjType) : Type := type.shape.Data carrier

def ObjType.traverse {m : Type → Type} [Monad m] {source target : Carrier}
    (visitor : Carrier.Visitor m source target) (type : ObjType) :
    type.Data source → m (type.Data target) :=
  type.shape.traverse visitor

end ObjectCourier
