import ObjectCourier.Business.Access

/-!
Data access for nodes. A node is named by its label, and its marks say in which state it is. A node
that is executed becomes its own child.
-/

namespace ObjectCourier.Business

abbrev NodeData : Type := (ObjType.record .node).Data Carrier.live

def newNode (label : String) : StateM Store NodeData := do
  let (_, _, rest) ← (ObjType.record .node).initial
  return (filled false "Label" label, vacant "Score", rest)

namespace NodeData

def label (data : NodeData) : String :=
  let (label, _) := data
  (Container.value? (α := String) label).getD ""

def kids (data : NodeData) : Ref :=
  let (_, _, _, _, _, _, kids, _) := data
  kids

def cleanLabel (data : NodeData) : NodeData :=
  let (label, rest) := data
  (Container.clean (α := String) label, rest)

def setLabel (text : String) (data : NodeData) : NodeData :=
  let (label, rest) := data
  (Container.assign (α := String) false text label, rest)

def setScore (value : Option IntKind.i64.Value) (data : NodeData) : NodeData :=
  let (label, score, rest) := data
  (label, Container.assign (α := Option IntKind.i64.Value) false value score, rest)

def mapMarks (change : List String → List String) (data : NodeData) : NodeData :=
  let (label, score, weights, left, right, maybe, kids, bag, parts, blob, boxed, marks, rest) :=
    data
  (label, score, weights, left, right, maybe, kids, bag, parts, blob, boxed, change marks, rest)

end NodeData

def pushNode (list node : Ref) : Act Unit :=
  update (.list .node) list fun items => List.append (α := Ref) items [node]

/-- Add the given number of children, labelled by the parent's label and their index. -/
def addKids (label : String) (list : Ref) : (remaining index : Nat) → Act Unit
  | 0, _ => pure ()
  | remaining + 1, index => do
      let data ← Act.onStore (newNode s!"{label}/{index}")
      let kid ← Act.onStore ((ObjType.record .node).alloc data)
      pushNode list kid.ref
      addKids label list remaining (index + 1)

def createNode (criteria : Criteria) : Act NodeData := do
  let label ← textParameter criteria 0
  let data ← Act.onStore (newNode label)
  let score : Option IntKind.i64.Value ← parameter criteria (.option (.int .i64)) 1
  return (data.setScore score).mapMarks fun _ => ["new"]

def fetchNode (criteria : Criteria) : Act NodeData := do
  let label ← textParameter criteria 0
  failIfAsked label
  let data ← Act.onStore (newNode label)
  let marks : List String ← parameter criteria (.vector .text) 1
  let count : IntKind.u8.Value ← parameter criteria (.int .u8) 2
  addKids label data.kids count.val.toNat 0
  return (data.mapMarks fun _ => marks).cleanLabel

/-- Save a node: its label gets a mark of its own, and it is no longer new. -/
def updateNode (target : Ref) : Act Unit := do
  let data : NodeData ← fromStore fun store => store.read (.record .node) target
  let label := data.label
  failIfAsked label
  update (.record .node) target fun (data : NodeData) =>
    ((data.setLabel (label ++ "!")).cleanLabel).mapMarks (·.filter (· ≠ "new"))

/-- Run a node: it joins its own children, and its score is their number. -/
def executeNode (target : Ref) : Act Unit := do
  let data : NodeData ← fromStore fun store => store.read (.record .node) target
  pushNode data.kids target
  let kids ← fromStore fun store => store.read (.list .node) data.kids
  let score := IntKind.i64.ofInt? (List.length (α := Ref) kids)
  update (.record .node) target (NodeData.setScore score)

def nodeAccess : DataAccess (.record .node) where
  create criteria context := do
    enterJournal "Node.create" context
    createNode criteria
  fetch criteria context := do
    enterJournal "Node.fetch" context
    fetchNode criteria
  update target context := do
    enterJournal "Node.update" context
    updateNode target
  delete criteria context := do
    enterJournal "Node.delete" context
    failIfAsked (← textParameter criteria 0)
    let _ ← parameter criteria .bool 1
  execute target context := do
    enterJournal "Node.execute" context
    executeNode target

end ObjectCourier.Business
