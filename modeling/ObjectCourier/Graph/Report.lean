import ObjectCourier.Graph.Reader
import ObjectCourier.Wire.Frame

/-!
Reports on the structure of payloads. The records are shown as a tree below the root; a record that
was shown before is only referred to. Records that the tree does not reach are listed as detached.
-/

namespace ObjectCourier

/-- A record as a node of the report's tree. -/
inductive RecordReport where
  | node (id : RefId) (typeKey : String) (slot : Option String) (valueCount : Nat)
      (backReference dirty : Bool) (children : List RecordReport)

structure PayloadReport where
  frameSize : Option Nat := none
  compression : Option String := none
  recordCount : Nat
  tree : RecordReport
  detached : List RefId

namespace RecordReport

/-- The tree below one of the given records. The state holds the ids shown so far. -/
def inspect (records : Std.TreeMap RefId Record) : (depth : Nat) → (id : RefId) →
    (slot : Option String) → (dirty : Bool) →
    StateT (Std.TreeSet RefId) (Except Fault) RecordReport
  | 0, id, _, _ => throw (.unresolvedId id)
  | depth + 1, id, slot, dirty => do
      match records[id]? with
      | none => throw (.unresolvedId id)
      | some record =>
          let seen ← get
          if seen.contains id then
            return .node id record.typeKey slot record.values.length true dirty []
          else
            set (seen.insert id)
            let children ← record.children.mapM fun (name, child) =>
              inspect records depth child.target (some name) child.dirty
            return .node id record.typeKey slot record.values.length false dirty children

mutual

def lines (margin : String) (isLast : Bool) : RecordReport → List String
  | node id typeKey slot valueCount backReference dirty children =>
      let connector := if isLast then "└── " else "├── "
      let place := match slot with
        | some name => s!"{name}: "
        | none => ""
      let start := s!"{margin}{connector}{place}{id.label}"
      if backReference then [s!"{start} -> {typeKey} (back reference)"]
      else
        let mark := if dirty then " | dirty" else ""
        let counts := s!"Values: {valueCount} | Children: {children.length}"
        s!"{start} {typeKey} | {counts}{mark}"
          :: linesOfAll (margin ++ if isLast then "    " else "│   ") children

def linesOfAll (margin : String) : List RecordReport → List String
  | [] => []
  | first :: others => lines margin others.isEmpty first ++ linesOfAll margin others

end

end RecordReport

namespace PayloadReport

/-- The report of a payload, which must be valid. A record is shown once with its children, so the
number of records bounds the number of levels. -/
def inspect (payload : Payload) : Except Fault PayloadReport := do
  payload.validate
  let depth := payload.records.length + 1
  let records : Std.TreeMap RefId Record :=
    .ofList (payload.records.map fun record => (record.id, record))
  let (tree, seen) ← (RecordReport.inspect records depth payload.root none false).run {}
  return { recordCount := payload.records.length
           tree := tree
           detached := (payload.records.map (·.id)).filter (!seen.contains ·) }

/-- The report of a payload in a frame, with what the frame tells. -/
def inspectFrame (bytes : Bytes) (compressors : Compressors) : Except Fault PayloadReport := do
  let header ← Frame.Header.ofBytes bytes
  let payload ← Frame.decode Codec.payload bytes compressors
  let report ← inspect payload
  return { report with
    frameSize := some bytes.length
    compression := some (compressors.describe header.compression) }

def lines (report : PayloadReport) : List String :=
  let size := match report.frameSize with
    | some size => [s!"Frame Size:     {size}b"]
    | none => []
  let algorithm := match report.compression with
    | some name => [s!"Compression:    {name}"]
    | none => []
  let labels := ", ".intercalate (report.detached.map RefId.label)
  let detached := if report.detached.isEmpty then [] else ["", s!"[DETACHED] {labels}"]
  ["=== GRAPH PAYLOAD REPORT ===", s!"Records:        {report.recordCount}"]
    ++ size ++ algorithm ++ ["", "[GRAPH LAYOUT]"] ++ report.tree.lines "" true ++ detached

def text (report : PayloadReport) : String :=
  String.join (report.lines.map (· ++ "\n"))

end PayloadReport

end ObjectCourier
