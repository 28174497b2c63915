import ObjectCourier.Fault
import ObjectCourier.Object.Value

/-!
The store of live objects. An object is a cell and its identity is the place of that cell; cells are
only added and changed, never removed, so an identity is never given twice. Load counters live
beside the cells because several holders may share one.
-/

namespace ObjectCourier

structure Ref where
  index : Nat
  deriving DecidableEq, Repr, Inhabited

namespace Ref

instance : Ord Ref := ⟨compareOn index⟩

instance : Std.TransOrd Ref := inferInstanceAs (Std.TransCmp (compareOn index))

instance : Std.LawfulEqOrd Ref where
  eq_of_compare {left right} same := by
    have places : left.index = right.index := Std.LawfulEqOrd.eq_of_compare (α := Nat) same
    cases left
    cases right
    exact congrArg Ref.mk places

end Ref

/-- The identity of a counter of outstanding loads. -/
structure CounterId where
  index : Nat
  deriving DecidableEq, Repr, Inhabited

/-- Live objects lead to other objects by identity. -/
def Carrier.live : Carrier where
  Handle _ := Ref
  Loads := CounterId
  Memo := IntKind.u32.Value

/-- A handle together with the type of the object it leads to. -/
structure Node where
  type : ObjType
  ref : Ref
  deriving DecidableEq, Repr

namespace Node

def typeKey (node : Node) : String := node.type.key

def label (node : Node) : String :=
  s!"NodeRef({node.typeKey} @ 0x{Bytes.hexDigits 1 node.ref.index})"

end Node

/-- The node that a field value leads to, if the value is a handle or an option that holds one. -/
def FieldType.liveNode? (type : FieldType) (value : type.Val Carrier.live.Handle) : Option Node :=
  (type.node? value).map fun ⟨target, ref⟩ => ⟨target, ref⟩

/-- An object: its type, its content, and whether a writer has died while holding it. -/
structure Cell where
  type : ObjType
  data : type.Data Carrier.live
  poisoned : Bool := false

def Cell.data? (type : ObjType) (cell : Cell) : Option (type.Data Carrier.live) :=
  if same : cell.type = type then some (same ▸ cell.data) else none

structure Store where
  cells : Array Cell := #[]
  counters : Array Nat := #[]

instance : Inhabited Store := ⟨{}⟩

namespace Store

def cell? (store : Store) (ref : Ref) : Option Cell := store.cells[ref.index]?

def data? (store : Store) (type : ObjType) (ref : Ref) : Option (type.Data Carrier.live) :=
  (store.cell? ref).bind (Cell.data? type)

def alloc (store : Store) (type : ObjType) (data : type.Data Carrier.live) : Ref × Store :=
  (⟨store.cells.size⟩, { store with cells := store.cells.push { type := type, data := data } })

/-- Change the content of an object. Nothing happens when there is no such object. -/
def modify (store : Store) (type : ObjType) (ref : Ref)
    (change : type.Data Carrier.live → type.Data Carrier.live) : Store :=
  { store with
    cells := store.cells.modify ref.index fun cell =>
      if same : cell.type = type then
        { cell with data := same ▸ change (same ▸ cell.data) }
      else cell }

def put (store : Store) (type : ObjType) (ref : Ref) (data : type.Data Carrier.live) : Store :=
  store.modify type ref fun _ => data

/-- A writer dies while holding the object. -/
def poison (store : Store) (ref : Ref) : Store :=
  { store with cells := store.cells.modify ref.index fun cell => { cell with poisoned := true } }

def isPoisoned (store : Store) (ref : Ref) : Bool :=
  ((store.cell? ref).map (·.poisoned)).getD false

/-- Add a counter that stands at zero. -/
def newCounter (store : Store) : CounterId × Store :=
  (⟨store.counters.size⟩, { store with counters := store.counters.push 0 })

def outstanding (store : Store) (counter : CounterId) : Nat :=
  store.counters[counter.index]?.getD 0

def count (store : Store) (counter : CounterId) (change : Nat → Nat) : Store :=
  { store with counters := store.counters.modify counter.index change }

def read (store : Store) (type : ObjType) (ref : Ref) :
    Except Fault (type.Data Carrier.live) :=
  if store.isPoisoned ref then .error .objectPoisoned
  else match store.data? type ref with
    | some data => .ok data
    | none => .error .danglingHandle

def readNode (store : Store) (node : Node) : Except Fault (node.type.Data Carrier.live) :=
  if store.isPoisoned node.ref then .error (.nodePoisoned node.typeKey)
  else match store.data? node.type node.ref with
    | some data => .ok data
    | none => .error .danglingHandle

end Store

end ObjectCourier
