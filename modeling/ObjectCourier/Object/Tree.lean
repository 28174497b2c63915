import ObjectCourier.Object.Value
import ObjectCourier.Codec.Varint

/-!
Copies by value. A tree holds the content of an object with a tree in the place of every handle, so
sharing is lost and cycles have no tree. Trees are written field after field in declaration order;
what stays with an instance (load counts and memos) is left out.
-/

namespace ObjectCourier

/-- Contents in which something else stands for the handles and nothing for the instance's own
counts. -/
def Carrier.byValue (Handle : ObjType → Type) : Carrier where
  Handle := Handle
  Loads := Unit
  Memo := Unit

/-- The trees of at most the given number of levels. -/
def Tree : (depth : Nat) → ObjType → Type
  | 0, _ => Empty
  | depth + 1, type => type.Data (Carrier.byValue (Tree depth))

structure Embedded (type : ObjType) where
  depth : Nat
  tree : Tree depth type

namespace FieldType

/-- The bytes of a value, given the bytes of what stands for its handles. -/
def embed {Handle : ObjType → Type} (object : (type : ObjType) → Handle type → Bytes) :
    (type : FieldType) → type.Val Handle → Bytes
  | int kind, value => kind.codec.encode value
  | float32, value => Codec.binary32.encode value
  | float64, value => Codec.binary64.encode value
  | bool, value => Codec.bool.encode value
  | text, value => Codec.text.encode value
  | option type, value =>
      match (show Option (type.Val Handle) from value) with
      | none => [0]
      | some inner => 1 :: embed object type inner
  | vector type, value =>
      let items : List (type.Val Handle) := value
      Varint.encode items.length ++ items.flatMap (embed object type)
  | handle type, value => object type value

def extract {Handle : ObjType → Type} (object : (type : ObjType) → Decoder (Handle type)) :
    (type : FieldType) → Decoder (type.Val Handle)
  | int kind => kind.codec.decode
  | float32 => Codec.binary32.decode
  | float64 => Codec.binary64.decode
  | bool => Codec.bool.decode
  | text => Codec.text.decode
  | option type => do
      match ← Decoder.byte with
      | 0 => return none
      | 1 => return some (← extract object type)
      | _ => throw .unexpectedVariant
  | vector type => do
      let count ← Varint.decode 8
      (extract object type).times count
  | handle type => object type

end FieldType

namespace Held

/-- The tag as a number, and the value if there is one. -/
def embed {α : Type} (value : α → Bytes) : Held α → Bytes
  | empty => [0]
  | plain held => 1 :: value held
  | tracked held => 2 :: value held

def extract {α : Type} (value : Decoder α) : Decoder (Held α) := do
  match ← Varint.decode 4 with
  | 0 => return empty
  | 1 => return plain (← value)
  | 2 => return tracked (← value)
  | _ => throw .unknownCase

end Held

namespace Container

def embed {α : Type} (value : α → Bytes) (container : Container α) : Bytes :=
  Codec.text.encode container.name ++ container.held.embed value
    ++ Codec.bool.encode container.dirty ++ Codec.bool.encode container.serializable

def extract {α : Type} (value : Decoder α) : Decoder (Container α) := do
  let name ← Codec.text.decode
  let held ← Held.extract value
  let dirty ← Codec.bool.decode
  let serializable ← Codec.bool.decode
  return { name := name, held := held, dirty := dirty, serializable := serializable }

end Container

def Form.embed {Handle : ObjType → Type} (object : (type : ObjType) → Handle type → Bytes) :
    (form : Form) → form.Val (Carrier.byValue Handle) → Bytes
  | bare type, value => type.embed object value
  | container type, value =>
      Container.embed (type.embed object) (show Container (type.Val Handle) from value)
  | aside type, value => type.embed object value
  | loads, _ => []
  | memo, _ => []

def Form.extract {Handle : ObjType → Type} (object : (type : ObjType) → Decoder (Handle type)) :
    (form : Form) → Decoder (form.Val (Carrier.byValue Handle))
  | bare type => type.extract object
  | container type => Container.extract (type.extract object)
  | aside type => type.extract object
  | loads => pure ()
  | memo => pure ()

namespace Members

def embed {Handle : ObjType → Type} (object : (type : ObjType) → Handle type → Bytes) :
    (members : List Member) → Members (Carrier.byValue Handle) members → Bytes
  | [], _ => []
  | member :: others, (first, rest) => member.form.embed object first ++ embed object others rest

def extract {Handle : ObjType → Type} (object : (type : ObjType) → Decoder (Handle type)) :
    (members : List Member) → Decoder (Members (Carrier.byValue Handle) members)
  | [] => pure ()
  | member :: others => do
      let first ← member.form.extract object
      let rest ← extract object others
      return (first, rest)

end Members

def Shape.embed {Handle : ObjType → Type} (object : (type : ObjType) → Handle type → Bytes) :
    (shape : Shape) → shape.Data (Carrier.byValue Handle) → Bytes
  | fields members, data => Members.embed object members data
  | elements type, data =>
      let items : List (Handle type) := data
      Varint.encode items.length ++ items.flatMap (object type)

def Shape.extract {Handle : ObjType → Type} (object : (type : ObjType) → Decoder (Handle type)) :
    (shape : Shape) → Decoder (shape.Data (Carrier.byValue Handle))
  | fields members => Members.extract object members
  | elements type => do
      let count ← Varint.decode 8
      (object type).times count

namespace Tree

def encode : (depth : Nat) → (type : ObjType) → Tree depth type → Bytes
  | 0, _, tree => nomatch (show Empty from tree)
  | depth + 1, type, tree => type.shape.embed (encode depth) tree

/-- The tree of at most the given number of levels that the bytes begin with. -/
def decode : (depth : Nat) → (type : ObjType) → Decoder (Tree depth type)
  | 0, _ => throw .unexpectedEnd
  | depth + 1, type => type.shape.extract (decode depth)

end Tree

namespace Embedded

def encode {type : ObjType} (embedded : Embedded type) : Bytes :=
  embedded.tree.encode embedded.depth type

/-- The tree that the bytes begin with. Every level of a tree takes a byte before the next level
begins, so the number of bytes bounds the number of levels. -/
def decode (type : ObjType) : Decoder (Embedded type) := fun bytes => do
  let depth := bytes.length + 1
  let (tree, rest) ← Tree.decode depth type bytes
  return ({ depth := depth, tree := tree }, rest)

end Embedded

end ObjectCourier
