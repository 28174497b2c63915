import ObjectCourier.Business.Algorithms
import ObjectCourier.Business.Customers
import ObjectCourier.Business.Nodes
import ObjectCourier.Schema.ShortName

/-!
Data access for the remaining types, and the table of what each type has.
-/

namespace ObjectCourier.Business

abbrev LinkData : Type := (ObjType.record .link).Data Carrier.live

/-- A chain of links. The head, which is returned, has the highest index. -/
def chain : (count : Nat) → (next : Option Ref) → (index : Nat) → StateM Store (Option Ref)
  | 0, next, _ => pure next
  | count + 1, next, index => do
      let number : IntKind.u32.Value := (IntKind.u32.ofInt? index).getD (IntKind.zero .u32)
      let data : LinkData := (number, next, ())
      let link ← (ObjType.record .link).alloc data
      chain count (some link.ref) (index + 1)

/-- The indexes of at most the given number of links, following the chain. -/
def chainIndexes (store : Store) : (limit : Nat) → Option Ref → Except Fault (List Nat)
  | 0, _ => .ok []
  | _, none => .ok []
  | limit + 1, some link => do
      let (index, next, _) : LinkData ← store.read (.record .link) link
      let index : IntKind.u32.Value := index
      return index.val.toNat :: (← chainIndexes store limit next)

/-- The indexes of at most the given number of links from a node on. A node of another type is no
link. -/
def linkIndexes (store : Store) (limit : Nat) (node : Node) : Except Fault (List Nat) :=
  chainIndexes store limit (if node.type = .record .link then some node.ref else none)

def linkAccess : DataAccess (.record .link) where
  fetch criteria context := do
    enterJournal "Link.fetch" context
    let count : IntKind.u32.Value ← parameter criteria (.int .u32) 0
    let below := count.val.toNat - 1
    let next ← Act.onStore (chain below none 0)
    let number : IntKind.u32.Value := (IntKind.u32.ofInt? below).getD (IntKind.zero .u32)
    return (number, next, ())

def partAccess : DataAccess (.record .part) where

/-- A gadget is deleted by any first parameter. -/
def gadgetAccess : DataAccess (.record .gadget) where
  delete criteria context := do
    enterJournal s!"Gadget.delete {criteria.values.length}" context
    if criteria.values.isEmpty then throw (.missingParameter 0 0)

def handler? : ObjType → Option Handler
  | .record .customer => some ⟨.record .customer, customerAccess⟩
  | .record .node => some ⟨.record .node, nodeAccess⟩
  | .record .link => some ⟨.record .link, linkAccess⟩
  | .record .part => some ⟨.record .part, partAccess⟩
  | .record .gadget => some ⟨.record .gadget, gadgetAccess⟩
  | .record .contact | .record .marker | .record .scalars | .list _ => none

def types : List ObjType :=
  [.record .customer, .record .contact, .record .link, .record .gadget, .record .part,
   .record .marker, .record .scalars, .record .node, .list .contact, .list .part, .list .node]

def typeNamed? (name : String) : Option ObjType := types.find? (·.name = name)

def fieldTypeNamed? (name : String) : Option FieldType := FieldType.ofShortName? types name

/-- The algorithms that the application adds to the built-in ones. -/
def compressors : Compressors :=
  [7, 9, 13].foldl (fun known id => known.add (.ofId id)) .builtin

def formatter : Formatter where
  registry := types.foldl Registry.register {}
  compressors := compressors

end ObjectCourier.Business
