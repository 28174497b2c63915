import Mathlib.Data.List.Induction
import ObjectCourier.Proofs.Graph.Elements
import ObjectCourier.Proofs.Graph.Tables

/-!
The table of a pass as a bijection. The calls change the table in place, one map after the other, so a
call that fails could leave something half done. None does: whatever objects a writing pass gives
ids to, and whatever distinct objects a reading pass enters, an identity has an id exactly when the id
has the object. The ids that a writing pass gives are #1, #2, … in the order in which the objects are
met for the first time, and when the numbers end there are no more ids.
-/

namespace ObjectCourier

/-! ### Calls -/

/-- A call that changes the table of a pass in place. What it has done stays done when it fails. -/
abbrev Entering := ExceptT Fault (StateM RefTable)

namespace Entering

def following (number : UInt32) : Except Fault UInt32 :=
  if number + 1 = 0 then .error .idsExhausted else .ok (number + 1)

def assign (node : Node) : Entering RefId := do
  if let some existing := (← get).lookup node.ref then
    throw (.alreadyAssigned node.label existing)
  let id : RefId := ⟨(← get).next⟩
  -- An id is given only if there is a next one, so this fails before anything is changed.
  let next ← following id.number
  modify fun table => { table with next := next }
  modify fun table => { table with ids := table.ids.insert node.ref id }
  modify fun table => { table with nodes := table.nodes.insert id node }
  return id

def register (id : RefId) (node : Node) : Entering Unit := do
  if (← get).contains id then throw (.repeatedId id)
  modify fun table => { table with ids := table.ids.insert node.ref id }
  modify fun table => { table with nodes := table.nodes.insert id node }

/-- What a call comes to that makes all its changes at once or none of them. -/
def atOnce {α : Type} (table : RefTable) : Except Fault (α × RefTable) → Except Fault α × RefTable
  | .ok (result, after) => (.ok result, after)
  | .error fault => (.error fault, table)

private theorem assign_eq (node : Node) (table : RefTable) :
    assign node table = atOnce table (table.assign node) := by
  have got : (get : Entering RefTable) table = (.ok table, table) := rfl
  unfold assign RefTable.assign
  rw [bind_of_ran_ok got]
  cases table.lookup node.ref with
  | some existing => rfl
  | none =>
      by_cases last : table.next + 1 = 0
      · have ended : following table.next = .error .idsExhausted := if_pos last
        simp only [if_pos last]
        rw [bind_of_ran_ok got, ended]
        rfl
      · have goes : following table.next = .ok (table.next + 1) := if_neg last
        simp only [if_neg last]
        rw [bind_of_ran_ok got, goes]
        rfl

private theorem register_eq (id : RefId) (node : Node) (table : RefTable) :
    register id node table =
      atOnce table ((table.register id node).map fun after => ((), after)) := by
  have got : (get : Entering RefTable) table = (.ok table, table) := rfl
  unfold register RefTable.register
  rw [bind_of_ran_ok got]
  cases table.contains id <;> rfl

end Entering

inductive RefCall where
  | assign (node : Node)
  | register (id : RefId) (node : Node)

namespace RefCall

/-- Make the call and return what it has entered. -/
def make : RefCall → Entering (RefId × Node)
  | assign node => do return (← Entering.assign node, node)
  | register id node => do
      Entering.register id node
      return (id, node)

def makeAll (calls : List RefCall) : StateM RefTable (List (Except Fault (RefId × Node))) :=
  calls.mapM fun call => call.make.run

def entered (answers : List (Except Fault (RefId × Node))) : List (RefId × Node) :=
  answers.filterMap Except.toOption

def registers (entries : List (RefId × Node)) : List RefCall :=
  entries.map fun entry => register entry.1 entry.2

section Making

variable {table after : RefTable} {node : Node} {id : RefId} {fault : Fault}

private theorem make_assign_of_ok (assigned : table.assign node = .ok (id, after)) :
    (assign node).make table = (.ok (id, node), after) := by
  have ran := Entering.assign_eq node table
  rw [assigned] at ran
  exact bind_of_ran_ok ran

private theorem make_assign_of_error (failed : table.assign node = .error fault) :
    (assign node).make table = (.error fault, table) := by
  have ran := Entering.assign_eq node table
  rw [failed] at ran
  exact bind_of_ran_error ran

private theorem make_register_of_ok (registered : table.register id node = .ok after) :
    (register id node).make table = (.ok (id, node), after) := by
  have ran := Entering.register_eq id node table
  rw [registered] at ran
  exact bind_of_ran_ok ran

private theorem make_register_of_error (failed : table.register id node = .error fault) :
    (register id node).make table = (.error fault, table) := by
  have ran := Entering.register_eq id node table
  rw [failed] at ran
  exact bind_of_ran_error ran

end Making

private theorem make_unchanged (call : RefCall) {table : RefTable} {fault : Fault}
    (failed : (call.make table).1 = .error fault) : (call.make table).2 = table := by
  cases call with
  | assign node =>
      cases assigned : table.assign node with
      | error fault => rw [make_assign_of_error assigned]
      | ok both =>
          rw [make_assign_of_ok assigned] at failed
          cases failed
  | register id node =>
      cases registered : table.register id node with
      | error fault => rw [make_register_of_error registered]
      | ok after =>
          rw [make_register_of_ok registered] at failed
          cases failed

private theorem makeAll_append (first second : List RefCall) (table : RefTable) :
    makeAll (first ++ second) table =
      ((makeAll first table).1 ++ (makeAll second (makeAll first table).2).1,
        (makeAll second (makeAll first table).2).2) := by
  unfold makeAll
  rw [List.mapM_append]
  rfl

private theorem makeAll_singleton (call : RefCall) (table : RefTable) :
    makeAll [call] table = ([(call.make table).1], (call.make table).2) := rfl

end RefCall

open RefCall (makeAll entered registers)

/-! ### The bijection -/

/-- The table pairs identities and ids, and these are all its pairs: the identity of an object has an
id exactly when the id has the object. -/
structure RefTable.Pairs (table : RefTable) (entries : List (RefId × Node)) : Prop where
  matched : ∀ ref id, table.lookup ref = some id ↔
    ∃ node, table.resolve id = .ok node ∧ node.ref = ref
  resolves : ∀ id node, table.resolve id = .ok node ↔ (id, node) ∈ entries
  ids : (entries.map Prod.fst).Nodup
  objects : (entries.map fun entry => entry.2.ref).Nodup
  size : table.size = entries.length

namespace RefTable

variable {table : RefTable} {entries : List (RefId × Node)}

private theorem pairs_empty : ({} : RefTable).Pairs [] where
  matched ref id := by
    constructor
    · intro found
      cases found
    · rintro ⟨node, resolved, -⟩
      cases resolve_eq_ok.mp resolved
  resolves id node := by
    rw [resolve_eq_ok, node?_empty]
    exact ⟨nofun, nofun⟩
  ids := List.nodup_nil
  objects := List.nodup_nil
  size := rfl

namespace Pairs

private theorem lookup_iff (pairs : table.Pairs entries) {ref : Ref} {id : RefId} :
    table.lookup ref = some id ↔ ∃ node, (id, node) ∈ entries ∧ node.ref = ref := by
  simp only [pairs.matched, pairs.resolves]

private theorem lookup_eq_none (pairs : table.Pairs entries) {ref : Ref} :
    table.lookup ref = none ↔ ref ∉ entries.map fun entry => entry.2.ref := by
  rw [Option.eq_none_iff_forall_ne_some, List.mem_map]
  constructor
  · rintro unknown ⟨⟨id, node⟩, member, here⟩
    exact unknown id (pairs.lookup_iff.mpr ⟨node, member, here⟩)
  · intro missing id found
    obtain ⟨node, member, here⟩ := pairs.lookup_iff.mp found
    exact missing ⟨(id, node), member, here⟩

private theorem node?_eq_none (pairs : table.Pairs entries) {id : RefId} :
    table.node? id = none ↔ id ∉ entries.map Prod.fst := by
  rw [Option.eq_none_iff_forall_ne_some, List.mem_map]
  constructor
  · rintro unknown ⟨⟨_, node⟩, member, rfl⟩
    exact unknown node (resolve_eq_ok.mp ((pairs.resolves _ node).mpr member))
  · intro missing node found
    exact missing ⟨(id, node), (pairs.resolves id node).mp (resolve_eq_ok.mpr found), rfl⟩

theorem bind (pairs : table.Pairs entries) {id : RefId} {node : Node}
    (newId : table.node? id = none) (newObject : table.lookup node.ref = none) :
    (table.bind id node).Pairs (entries ++ [(id, node)]) := by
  have freshId := pairs.node?_eq_none.mp newId
  have freshObject := pairs.lookup_eq_none.mp newObject
  have resolves : ∀ other held, (table.bind id node).resolve other = .ok held ↔
      (other, held) ∈ entries ++ [(id, node)] := by
    intro other held
    rw [resolve_eq_ok, node?_bind, List.mem_append, List.mem_singleton, Prod.mk.injEq]
    split
    · rename_i same
      subst same
      have missing : (id, held) ∉ entries := fun member => freshId (List.mem_map_of_mem member)
      simp only [missing, false_or, true_and, Option.some.injEq, eq_comm]
    · rename_i different
      rw [← resolve_eq_ok, pairs.resolves]
      simp only [Ne.symm different, false_and, or_false]
  constructor
  · intro ref other
    simp only [resolves, lookup_bind, List.mem_append, List.mem_singleton, Prod.mk.injEq]
    split
    · rename_i same
      subst same
      constructor
      · intro given
        cases given
        exact ⟨node, .inr ⟨rfl, rfl⟩, rfl⟩
      · rintro ⟨held, earlier | ⟨rfl, rfl⟩, here⟩
        · exact absurd (List.mem_map.mpr ⟨_, earlier, here⟩) freshObject
        · rfl
    · rename_i different
      rw [pairs.lookup_iff]
      constructor
      · rintro ⟨held, member, here⟩
        exact ⟨held, .inl member, here⟩
      · rintro ⟨held, earlier | ⟨rfl, rfl⟩, here⟩
        · exact ⟨held, earlier, here⟩
        · exact absurd here different
  · exact resolves
  · rw [List.map_append, List.map_singleton, ← List.concat_eq_append]
    exact pairs.ids.concat freshId
  · rw [List.map_append, List.map_singleton, ← List.concat_eq_append]
    exact pairs.objects.concat freshObject
  · rw [size_bind newId, pairs.size, List.length_append]
    rfl

private theorem withNext (pairs : table.Pairs entries) (next : UInt32) :
    RefTable.Pairs { table with next := next } entries :=
  ⟨pairs.matched, pairs.resolves, pairs.ids, pairs.objects, pairs.size⟩

end Pairs

/-! ### One call -/

inductive Answers (table : RefTable) (entries : List (RefId × Node)) :
    RefCall → Except Fault (RefId × Node) → RefTable → Prop
  | known {node : Node} {id : RefId} (found : table.lookup node.ref = some id) :
      Answers table entries (.assign node) (.error (.alreadyAssigned node.label id)) table
  | exhausted {node : Node} (new : table.lookup node.ref = none)
      (full : table.size = RefId.limit) :
      Answers table entries (.assign node) (.error .idsExhausted) table
  | issued {node : Node} {after : RefTable} (new : table.lookup node.ref = none)
      (room : table.size < RefId.limit)
      (pairs : after.Pairs (entries ++ [(.nth table.size, node)])) :
      Answers table entries (.assign node) (.ok (.nth table.size, node)) after
  | repeated {id : RefId} {node : Node} (taken : id ∈ entries.map Prod.fst) :
      Answers table entries (.register id node) (.error (.repeatedId id)) table
  | registered {id : RefId} {node : Node} {after : RefTable} (free : id ∉ entries.map Prod.fst)
      (pairs : after.Pairs (entries ++ [(id, node)])) :
      Answers table entries (.register id node) (.ok (id, node)) after

/-- The call fails or succeeds as it should. -/
def Settles (table : RefTable) (entries : List (RefId × Node)) (call : RefCall) : Prop :=
  table.Answers entries call (call.make table).1 (call.make table).2

private theorem Pairs.register_settles (pairs : table.Pairs entries) (id : RefId) {node : Node}
    (new : table.lookup node.ref = none) : table.Settles entries (.register id node) := by
  unfold Settles
  cases found : table.node? id with
  | none =>
      rw [RefCall.make_register_of_ok (register_of_fresh found node)]
      exact .registered (pairs.node?_eq_none.mp found) (pairs.bind found new)
  | some held =>
      rw [RefCall.make_register_of_error (register_of_taken found node)]
      exact .repeated (List.mem_map_of_mem ((pairs.resolves id held).mp (resolve_eq_ok.mpr found)))

private theorem assign_of_lookup {node : Node} {id : RefId}
    (found : table.lookup node.ref = some id) :
    table.assign node = .error (.alreadyAssigned node.label id) := by
  unfold assign
  rw [found]

private theorem eq_bind_of_assign {node : Node} {id : RefId} {after : RefTable}
    (assigned : table.assign node = .ok (id, after)) :
    ∃ next, after = { table.bind id node with next := next } := by
  unfold assign at assigned
  split at assigned
  · cases assigned
  · simp only at assigned
    split at assigned
    · cases assigned
    · cases assigned
      exact ⟨_, rfl⟩

structure Counts (table : RefTable) (entries : List (RefId × Node)) : Prop where
  pairs : table.Pairs entries
  tracks : table.Tracks (entries.map Prod.snd)
  numbers : entries.map (fun entry => entry.1.number.toNat) = List.range' 1 entries.length

private theorem counts_empty : ({} : RefTable).Counts [] := ⟨pairs_empty, tracks_empty, rfl⟩

namespace Counts

theorem bound (counts : table.Counts entries) : table.size ≤ RefId.limit := by
  have bound := counts.tracks.bound
  rwa [List.length_map, ← counts.pairs.size] at bound

private theorem node?_nth (counts : table.Counts entries) (room : table.size < RefId.limit) :
    table.node? (.nth table.size) = none := by
  rw [counts.pairs.node?_eq_none]
  intro taken
  have number := List.mem_map_of_mem (f := fun id : RefId => id.number.toNat) taken
  rw [List.map_map] at number
  change _ ∈ entries.map fun entry => entry.1.number.toNat at number
  rw [counts.numbers, RefId.toNat_nth room, List.mem_range'_1, ← counts.pairs.size] at number
  omega

private theorem issue (counts : table.Counts entries) {node : Node} {after : RefTable}
    (new : table.lookup node.ref = none) (room : table.size < RefId.limit)
    (assigned : table.assign node = .ok (.nth table.size, after))
    (tracks : after.Tracks (entries.map Prod.snd ++ [node])) :
    after.Counts (entries ++ [(.nth table.size, node)]) where
  pairs := by
    obtain ⟨next, rfl⟩ := eq_bind_of_assign assigned
    exact (counts.pairs.bind (counts.node?_nth room) new).withNext next
  tracks := by
    rw [List.map_append]
    exact tracks
  numbers := by
    rw [List.map_append, counts.numbers, List.length_append, List.length_singleton,
      List.range'_1_concat, List.map_singleton, RefId.toNat_nth room, counts.pairs.size,
      Nat.add_comm]

/-- A call for an id does as it should, and if it succeeds, the count goes on. -/
theorem assign (counts : table.Counts entries) (node : Node) :
    table.Settles entries (.assign node) ∧
      ∀ entry, ((RefCall.assign node).make table).1 = .ok entry →
        ((RefCall.assign node).make table).2.Counts (entries ++ [entry]) := by
  unfold Settles
  cases found : table.lookup node.ref with
  | some id =>
      rw [RefCall.make_assign_of_error (assign_of_lookup found)]
      refine ⟨.known found, ?_⟩
      rintro _ ⟨⟩
  | none =>
      have fresh : node.ref ∉ places (entries.map Prod.snd) := by
        rw [places, List.map_map]
        exact counts.pairs.lookup_eq_none.mp found
      have length : (entries.map Prod.snd).length = table.size := by
        rw [List.length_map, counts.pairs.size]
      have assigning := counts.tracks.assign fresh
      rw [length] at assigning
      split at assigning
      · rename_i full
        rw [RefCall.make_assign_of_error assigning]
        refine ⟨.exhausted found full, ?_⟩
        rintro _ ⟨⟩
      · rename_i notFull
        obtain ⟨after, assigned, tracks⟩ := assigning
        have room : table.size < RefId.limit := Nat.lt_of_le_of_ne counts.bound notFull
        have issued := counts.issue found room assigned tracks
        rw [RefCall.make_assign_of_ok assigned]
        refine ⟨.issued found room issued.pairs, ?_⟩
        rintro _ ⟨⟩
        exact issued

end Counts

/-! ### All calls of a pass -/

/-- The calls for the ids of these objects have been made on a fresh table. The objects that have got
ids are the first ones to be met, as far as the numbers go. -/
structure Issued (nodes : List Node) (answers : List (Except Fault (RefId × Node)))
    (table : RefTable) : Prop where
  counts : table.Counts (entered answers)
  first : (entered answers).map (fun entry => entry.2.ref) =
    (places nodes).eraseDups.take RefId.limit

structure Registered (entries : List (RefId × Node)) (answers : List (Except Fault (RefId × Node)))
    (table : RefTable) : Prop where
  pairs : table.Pairs (entered answers)
  first : (entered answers).map Prod.fst = (entries.map Prod.fst).eraseDups
  inOrder : (entered answers).Sublist entries

section Runs

variable {nodes : List Node} {calls : List (RefId × Node)}
  {answers : List (Except Fault (RefId × Node))}

private theorem entered_snoc_error (answers : List (Except Fault (RefId × Node))) (fault : Fault) :
    entered (answers ++ [.error fault]) = entered answers :=
  List.filterMap_append.trans (List.append_nil _)

private theorem entered_snoc_ok (answers : List (Except Fault (RefId × Node)))
    (entry : RefId × Node) :
    entered (answers ++ [.ok entry]) = entered answers ++ [entry] := List.filterMap_append

theorem Issued.snoc (issued : Issued nodes answers table) (node : Node) :
    Issued (nodes ++ [node]) (answers ++ [((RefCall.assign node).make table).1])
      ((RefCall.assign node).make table).2 := by
  obtain ⟨counts, first⟩ := issued
  have size : table.size = min RefId.limit (places nodes).eraseDups.length := by
    rw [counts.pairs.size, ← List.length_take, ← first, List.length_map]
  have unseen : node.ref ∉ places nodes → table.lookup node.ref = none := by
    intro unmet
    rw [counts.pairs.lookup_eq_none, first]
    exact fun member => unmet (List.mem_eraseDups.mp (List.mem_of_mem_take member))
  obtain ⟨settles, goesOn⟩ := counts.assign node
  unfold Settles at settles
  generalize (RefCall.assign node).make table = result at settles goesOn ⊢
  obtain ⟨answer, after⟩ := result
  cases settles with
  | known found =>
      have met : node.ref ∈ places nodes := by
        by_contra unmet
        cases found.symm.trans (unseen unmet)
      constructor <;> rw [entered_snoc_error]
      · exact counts
      · rw [places_append, places_singleton, eraseDups_snoc, if_pos met]
        exact first
  | exhausted new full =>
      constructor <;> rw [entered_snoc_error]
      · exact counts
      · rw [places_append, places_singleton, eraseDups_snoc, first]
        split
        · rfl
        · rw [List.take_append_of_le_length (by omega)]
  | issued new room pairs =>
      -- As long as there are numbers, every object that has been met has its id.
      have all : (places nodes).eraseDups.length ≤ RefId.limit := by omega
      rw [List.take_of_length_le all] at first
      have unmet : node.ref ∉ places nodes := by
        intro member
        refine counts.pairs.lookup_eq_none.mp new ?_
        rw [first]
        exact List.mem_eraseDups.mpr member
      constructor <;> rw [entered_snoc_ok]
      · exact goesOn _ rfl
      · rw [places_append, places_singleton, eraseDups_snoc, if_neg unmet, List.map_append, first,
          List.map_singleton, List.take_of_length_le]
        rw [List.length_append, List.length_singleton]
        omega

theorem Registered.snoc (registered : Registered calls answers table) (id : RefId) {node : Node}
    (new : table.lookup node.ref = none) :
    Registered (calls ++ [(id, node)]) (answers ++ [((RefCall.register id node).make table).1])
      ((RefCall.register id node).make table).2 := by
  obtain ⟨pairs, first, inOrder⟩ := registered
  have settles := pairs.register_settles id new
  unfold Settles at settles
  generalize (RefCall.register id node).make table = result at settles ⊢
  obtain ⟨answer, after⟩ := result
  have met : id ∈ (entered answers).map Prod.fst ↔ id ∈ calls.map Prod.fst := by
    rw [first, List.mem_eraseDups]
  cases settles with
  | repeated taken =>
      refine ⟨?_, ?_, ?_⟩ <;> rw [entered_snoc_error]
      · exact pairs
      · rw [List.map_append, List.map_singleton, eraseDups_snoc, if_pos (met.mp taken)]
        exact first
      · exact inOrder.trans (List.sublist_append_left _ _)
  | registered free pairsAfter =>
      refine ⟨?_, ?_, ?_⟩ <;> rw [entered_snoc_ok]
      · exact pairsAfter
      · rw [List.map_append, List.map_append, List.map_singleton, eraseDups_snoc,
          if_neg (met.not.mp free), first]
      · exact inOrder.append (List.Sublist.refl _)

private theorem issued_makeAll (nodes : List Node) :
    Issued nodes (makeAll (nodes.map .assign) {}).1 (makeAll (nodes.map .assign) {}).2 := by
  induction nodes using List.reverseRecOn with
  | nil => exact ⟨counts_empty, rfl⟩
  | append_singleton nodes node ih =>
      rw [List.map_append, List.map_singleton, RefCall.makeAll_append]
      exact ih.snoc node

private theorem registered_makeAll (calls : List (RefId × Node))
    (distinct : (calls.map fun entry => entry.2.ref).Nodup) :
    Registered calls (makeAll (registers calls) {}).1 (makeAll (registers calls) {}).2 := by
  induction calls using List.reverseRecOn with
  | nil => exact ⟨pairs_empty, rfl, .refl _⟩
  | append_singleton calls call ih =>
      rw [List.map_append, List.map_singleton, ← List.concat_eq_append,
        List.nodup_concat] at distinct
      have earlier := ih distinct.2
      unfold registers
      rw [List.map_append, List.map_singleton, RefCall.makeAll_append]
      refine earlier.snoc call.1 (earlier.pairs.lookup_eq_none.mpr fun member => distinct.1 ?_)
      exact (earlier.inOrder.map _).subset member

end Runs

end RefTable

/-! ### The passes -/

/-- All that a writing pass does to its table is to call for ids. -/
theorem Writing.course_assigns : Course fun before after =>
    ∃ nodes : List Node, after.table = (makeAll (nodes.map .assign) before.table).2 where
  refl _ := ⟨[], rfl⟩
  trans := by
    rintro before between after ⟨early, first⟩ ⟨late, second⟩
    refine ⟨early ++ late, ?_⟩
    rw [List.map_append, RefCall.makeAll_append, ← first]
    exact second
  assign node before := by
    refine ⟨[node], ?_⟩
    rw [List.map_singleton, RefCall.makeAll_singleton]
    cases assigned : before.table.assign node with
    | error fault => rw [assign_of_error assigned, RefCall.make_assign_of_error assigned]
    | ok both => rw [assign_of_ok assigned, RefCall.make_assign_of_ok assigned]
  finish _ _ := ⟨[], rfl⟩
  backReference _ _ _ := ⟨[], rfl⟩
  serialized _ _ _ := ⟨[], rfl⟩

namespace RefTable

private theorem materialize_makeAll {registry : Registry} {records : List Record}
    {drafts : List RecordDraft} {table last : RefTable}
    (ran : materialize registry table records = .ok (drafts, last)) :
    ∃ calls : List (RefId × Node), makeAll (registers calls) table = (calls.map .ok, last) ∧
      calls.map Prod.fst = records.map (fun record => record.id) ∧
      calls.map (fun call => call.2.ref.index) = List.range' table.size calls.length := by
  induction records generalizing table drafts with
  | nil =>
      cases ran
      exact ⟨[], rfl, rfl, rfl⟩
  | cons record others ih =>
      obtain ⟨draft, read, ran⟩ := bind_eq_ok.mp ran
      obtain ⟨between, registered, ran⟩ := bind_eq_ok.mp ran
      obtain ⟨⟨rest, final⟩, materialized, same⟩ := bind_eq_ok.mp ran
      cases same
      obtain ⟨calls, made, ids, places⟩ := ih materialized
      have fresh : table.node? record.id = none := by
        cases taken : table.node? record.id with
        | none => rfl
        | some held => cases (register_of_taken taken _).symm.trans registered
      have grown : between.size = table.size + 1 := by
        rw [register_of_fresh fresh] at registered
        cases registered
        exact size_bind fresh _
      refine ⟨(record.id, ⟨draft.type, ⟨table.size⟩⟩) :: calls, ?_, ?_, ?_⟩
      · have step := RefCall.makeAll_append [.register record.id ⟨draft.type, ⟨table.size⟩⟩]
          (registers calls) table
        rw [RefCall.makeAll_singleton, RefCall.make_register_of_ok registered, made] at step
        exact step
      · rw [List.map_cons, List.map_cons, ids]
      · rw [List.map_cons, places, grown, List.length_cons, List.range'_succ]

/-- Identities and ids stand for each other. A call that fails leaves any table as it was. After any
calls for ids on a fresh table, and after any calls that enter distinct objects, the table pairs the
identities of the objects that it has entered with their ids, and the next call does as it should. The
calls for ids give the numbers from one on to the objects in the order in which they are first met,
until there are no more numbers; under each id stands the first object that came with it. The passes
do nothing else to their tables. -/
theorem identities_match_ids :
    (∀ (call : RefCall) (table : RefTable) (fault : Fault),
      (call.make table).1 = .error fault → (call.make table).2 = table) ∧
    (∀ (nodes : List Node) answers table, makeAll (nodes.map .assign) {} = (answers, table) →
      table.Pairs (entered answers) ∧
        (entered answers).map (fun entry => entry.1.number.toNat) = List.range' 1 table.size ∧
        (entered answers).map (fun entry => entry.2.ref) =
          (places nodes).eraseDups.take RefId.limit ∧
        ∀ node, table.Settles (entered answers) (.assign node)) ∧
    (∀ (calls : List (RefId × Node)) answers table, (calls.map fun call => call.2.ref).Nodup →
      makeAll (registers calls) {} = (answers, table) →
        table.Pairs (entered answers) ∧
          (entered answers).map Prod.fst = (calls.map Prod.fst).eraseDups ∧
          (entered answers).Sublist calls ∧
          ∀ id node, node.ref ∉ calls.map (fun call => call.2.ref) →
            table.Settles (entered answers) (.register id node)) ∧
    (∀ (store : Store) (policy : Policy) (root : Node), ∃ nodes : List Node,
      (store.writeRoot policy root {}).2.table = (makeAll (nodes.map .assign) {}).2) ∧
    ∀ registry records drafts table, materialize registry {} records = .ok (drafts, table) →
      ∃ calls : List (RefId × Node), (calls.map fun call => call.2.ref).Nodup ∧
        calls.map Prod.fst = records.map (fun record => record.id) ∧
        makeAll (registers calls) {} = (calls.map .ok, table) := by
  refine ⟨fun call table fault => call.make_unchanged, ?_, ?_, ?_, ?_⟩
  · intro nodes answers table made
    have issued := issued_makeAll nodes
    rw [made] at issued
    obtain ⟨counts, first⟩ := issued
    refine ⟨counts.pairs, ?_, first, fun node => (counts.assign node).1⟩
    rw [counts.pairs.size]
    exact counts.numbers
  · intro calls answers table distinct made
    have registered := registered_makeAll calls distinct
    rw [made] at registered
    obtain ⟨pairs, first, inOrder⟩ := registered
    refine ⟨pairs, first, inOrder, fun id node apart => pairs.register_settles id ?_⟩
    exact pairs.lookup_eq_none.mpr fun member => apart ((inOrder.map _).subset member)
  · exact fun store policy root => Writing.course_assigns.writeRoot store policy root {}
  · intro registry records drafts table ran
    obtain ⟨calls, made, ids, places⟩ := materialize_makeAll ran
    refine ⟨calls, ?_, ids, made⟩
    refine List.Nodup.of_map Ref.index ?_
    rw [List.map_map]
    exact places ▸ List.nodup_range'

def part (index : Nat) : Node := ⟨.record .part, ⟨index⟩⟩

def emptyList (id : RefId) : Record where
  id := id
  typeKey := (ObjType.list .part).key
  values := [(Record.countName, .uint (IntKind.zero .u64))]

/-- A part that is met twice keeps its id, of three parts that come with two ids the last one is
refused, and two records of lists make a table of two objects. -/
theorem identities_match_ids_repeats :
    (∃ table, makeAll ([part 0, part 1, part 0].map .assign) {} =
        ([.ok (⟨1⟩, part 0), .ok (⟨2⟩, part 1), .error (.alreadyAssigned (part 0).label ⟨1⟩)],
          table) ∧
      table.Pairs [(⟨1⟩, part 0), (⟨2⟩, part 1)] ∧
      table.Settles [(⟨1⟩, part 0), (⟨2⟩, part 1)] (.assign (part 2)) ∧
      ((RefCall.assign (part 1)).make table).2 = table) ∧
    (∃ table, makeAll (registers [(⟨7⟩, part 0), (⟨5⟩, part 1), (⟨7⟩, part 2)]) {} =
        ([.ok (⟨7⟩, part 0), .ok (⟨5⟩, part 1), .error (.repeatedId ⟨7⟩)], table) ∧
      table.Pairs [(⟨7⟩, part 0), (⟨5⟩, part 1)] ∧
      table.Settles [(⟨7⟩, part 0), (⟨5⟩, part 1)] (.register ⟨5⟩ (part 3))) ∧
    ∃ drafts table, materialize .parts {} [emptyList ⟨4⟩, emptyList ⟨2⟩] = .ok (drafts, table) ∧
      ∃ calls : List (RefId × Node), calls.map Prod.fst = [⟨4⟩, ⟨2⟩] ∧
        makeAll (registers calls) {} = (calls.map .ok, table) := by
  obtain ⟨unchanged, assigning, registering, -, reading⟩ := identities_match_ids
  refine ⟨⟨_, rfl, ?_⟩, ⟨_, rfl, ?_⟩, ⟨_, _, rfl, ?_⟩⟩
  · obtain ⟨pairs, -, -, next⟩ := assigning [part 0, part 1, part 0] _ _ rfl
    exact ⟨pairs, next (part 2), unchanged (.assign (part 1)) _ _ rfl⟩
  · obtain ⟨pairs, -, -, next⟩ := registering [(⟨7⟩, part 0), (⟨5⟩, part 1), (⟨7⟩, part 2)] _ _
      (by decide) rfl
    exact ⟨pairs, next ⟨5⟩ (part 3) (by decide)⟩
  · obtain ⟨calls, -, ids, made⟩ := reading .parts [emptyList ⟨4⟩, emptyList ⟨2⟩] _ _ rfl
    exact ⟨calls, ids, made⟩

end RefTable

end ObjectCourier
