import ObjectCourier.Object.Store

/-!
The table of one pass, between identities and reference ids. A writing pass assigns the ids #1, #2,
… to objects it meets for the first time; a reading pass registers rebuilt objects under the ids
that they had on the wire. A call that fails leaves the table as it was.
-/

namespace ObjectCourier

structure RefTable where
  /-- The latest id of each identity. -/
  ids : Std.TreeMap Ref RefId := {}
  /-- The node of each id. -/
  nodes : Std.TreeMap RefId Node := {}
  next : UInt32 := 1

namespace RefTable

def lookup (table : RefTable) (ref : Ref) : Option RefId := table.ids[ref]?

def node? (table : RefTable) (id : RefId) : Option Node := table.nodes[id]?

def contains (table : RefTable) (id : RefId) : Bool := table.nodes.contains id

def size (table : RefTable) : Nat := table.nodes.size

def resolve (table : RefTable) (id : RefId) : Except Fault Node :=
  match table.node? id with
  | some node => .ok node
  | none => .error (.unresolvedId id)

/-- The table in which the id and the node stand for each other. -/
def bind (table : RefTable) (id : RefId) (node : Node) : RefTable :=
  { table with ids := table.ids.insert node.ref id, nodes := table.nodes.insert id node }

/-- Give the next id to an object that has none. The last number is never given, because there would
be no next one. -/
def assign (table : RefTable) (node : Node) : Except Fault (RefId × RefTable) :=
  match table.lookup node.ref with
  | some existing => .error (.alreadyAssigned node.label existing)
  | none =>
      let id : RefId := ⟨table.next⟩
      if table.next + 1 = 0 then .error .idsExhausted
      else .ok (id, { table.bind id node with next := table.next + 1 })

def register (table : RefTable) (id : RefId) (node : Node) : Except Fault RefTable :=
  if table.contains id then .error (.repeatedId id)
  else .ok (table.bind id node)

end RefTable

end ObjectCourier
