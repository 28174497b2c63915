import ObjectCourier.Object.Store
import ObjectCourier.Object.Tree

/-!
Between the store and copies by value. `Store.unfold` reads the tree below an object and refuses
cycles by the path of objects being embedded; `Tree.plant` adds a tree to the store as new objects.
-/

namespace ObjectCourier

/-- A computation that reads objects by value. Its state is the path of objects being embedded,
which outlives a failure. -/
abbrev Embedding := ExceptT Fault (StateM (List Ref))

namespace Embedding

/-- Embed something while the object is on the path. An object that is on the path already is taken
off it and refused. -/
def within {α : Type} (ref : Ref) (body : Embedding α) : Embedding α :=
  ExceptT.mk fun path =>
    if ref ∈ path then (.error .embeddingCycle, path.erase ref)
    else
      let (outcome, after) := body.run.run (ref :: path)
      (outcome, after.erase ref)

end Embedding

namespace Store

def unfold (store : Store) :
    (depth : Nat) → (type : ObjType) → Ref → Embedding (Tree depth type)
  | 0, _, _ => throw .walkTooDeep
  | depth + 1, type, ref =>
      Embedding.within ref do
        if store.isPoisoned ref then throw .embeddingPoisoned
        match store.data? type ref with
        | none => throw .danglingHandle
        | some data =>
            type.traverse
              { handle := unfold store depth, loads := fun _ => pure (), memo := fun _ => pure () }
              data

/-- The copy by value of an object. Objects on the path are distinct, so the number of objects in
the store bounds the number of levels. -/
def embedded (store : Store) (type : ObjType) (ref : Ref) : Except Fault (Embedded type) := do
  let depth := store.cells.size + 1
  let tree ← ((store.unfold depth type ref).run.run []).1
  return ⟨depth, tree⟩

end Store

/-- How the content of a copy becomes the content of a new instance: its loads are counted anew and
its memo is zero. -/
def Carrier.Visitor.planting {Handle : ObjType → Type}
    (plant : (type : ObjType) → Handle type → StateM Store Ref) :
    Carrier.Visitor (StateM Store) (Carrier.byValue Handle) Carrier.live where
  handle := plant
  loads _ := Store.newCounter
  memo _ := pure (IntKind.zero .u32)

/-- Add a tree to the store, an object for every node of the tree. -/
def Tree.plant : (depth : Nat) → (type : ObjType) → Tree depth type → StateM Store Ref
  | 0, _, tree => nomatch (show Empty from tree)
  | depth + 1, type, tree => do
      let data ← type.traverse (.planting (plant depth)) tree
      fun store => store.alloc type data

namespace Embedded

/-- Add the objects of a tree to the store and return the identity of its top. -/
def plant {type : ObjType} (embedded : Embedded type) : StateM Store Ref :=
  embedded.tree.plant embedded.depth type

end Embedded

/-- Add the objects of all trees in a value to the store. -/
def FieldType.plant (type : FieldType) (value : type.Val Embedded) :
    StateM Store (type.Val Carrier.live.Handle) :=
  type.traverse (fun _ embedded => embedded.plant) value

end ObjectCourier
