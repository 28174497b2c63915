import ObjectCourier.Proofs.Graph.Copying

/-!
Cycles among objects that are embedded by value. An object is refused when it is met below itself. An
attempt takes nothing off the path but what was met again below, so one that starts on an empty path
leaves an empty path whatever comes of it, and attempts in a row know nothing of each other.
-/

namespace ObjectCourier

namespace Store

/-- The object can be reached from itself. -/
def OnCycle (store : Store) (node : Node) : Prop :=
  ∃ child ∈ store.held node, Reaches store.held child node

/-- An object on a cycle can be reached. -/
def MeetsCycle (store : Store) (root : Node) : Prop :=
  ∃ node, Reaches store.held root node ∧ store.OnCycle node

variable {store : Store} {node child : Node} {depth : Nat} {path : List Ref}

theorem held_eq {data : node.type.Data Carrier.live}
    (found : store.data? node.type node.ref = some data) :
    store.held node = (node.type.shape.handles data).map fun child => ⟨child.1, child.2⟩ := by
  obtain ⟨poisoned, present⟩ := data?_eq_some.mp found
  unfold held
  rw [present]
  rfl

theorem mem_held {data : node.type.Data Carrier.live}
    (found : store.data? node.type node.ref = some data)
    {child : (type : ObjType) × Carrier.live.Handle type}
    (member : child ∈ node.type.shape.handles data) : ⟨child.1, child.2⟩ ∈ store.held node := by
  rw [held_eq found]
  exact List.mem_map_of_mem member

theorem MeetsCycle.above (meets : store.MeetsCycle child) (member : child ∈ store.held node) :
    store.MeetsCycle node := by
  obtain ⟨below, reaches, cycle⟩ := meets
  exact ⟨below, reaches.through member, cycle⟩

private theorem ends_unfold (store : Store) (depth : Nat) (node : Node) (path : List Ref) :
    Embedding.Ends (fun _ after => after = path ∨
        ∃ below, Reaches store.held node below ∧ below.ref ∈ path ∧ after = path.erase below.ref)
      path (store.unfold depth node.type node.ref) := by
  induction depth generalizing node path with
  | zero => exact .throw (.inl rfl)
  | succ depth ih =>
      apply ends_unfold_succ
      · intro onPath
        exact .inr ⟨node, .here, onPath, rfl⟩
      · exact fun _ => .inl rfl
      · exact fun _ => .inl rfl
      · intro data found clear child member
        have ended := ih ⟨child.1, child.2⟩ (node.ref :: path)
        apply ended.imp
        intro _ after left
        cases left with
        | inl same =>
            left
            rw [same, List.erase_cons_head]
        | inr again =>
            obtain ⟨below, reaches, onPath, same⟩ := again
            cases List.mem_cons.mp onPath with
            | inl here =>
                -- The refusal has taken this object off the path; it is not there a second time.
                left
                rw [same, here, List.erase_cons_head]
                exact List.erase_of_not_mem clear
            | inr later =>
                right
                refine ⟨below, reaches.through (mem_held found member), later, ?_⟩
                rw [same, List.erase_comm, List.erase_cons_head]

private theorem path_unfold (depth : Nat)
    (apart : ∀ below, Reaches store.held node below → below.ref ∉ path) :
    (store.unfold depth node.type node.ref path).2 = path := by
  have ended := store.ends_unfold depth node path
  unfold Embedding.Ends at ended
  rcases ran : store.unfold depth node.type node.ref path with ⟨outcome, after⟩
  rw [ran] at ended
  cases outcome with
  | ok tree => exact ended
  | error fault =>
      cases ended with
      | inl same => exact same
      | inr again =>
          obtain ⟨below, reaches, onPath, -⟩ := again
          exact absurd onPath (apart below reaches)

/-- Every object on the path has been come through on the way to the node. -/
def CameThrough (store : Store) (path : List Ref) (node : Node) : Prop :=
  ∀ ref ∈ path, ∃ above, above.ref = ref ∧ store.Leads above ∧
    ∃ child ∈ store.held above, Reaches store.held child node

theorem CameThrough.step (through : store.CameThrough path node) (leads : store.Leads node)
    (member : child ∈ store.held node) : store.CameThrough (node.ref :: path) child := by
  intro ref onPath
  cases List.mem_cons.mp onPath with
  | inl here => exact ⟨node, here.symm, leads, child, member, .here⟩
  | inr later =>
      obtain ⟨above, same, leadsAbove, first, held, reaches⟩ := through ref later
      exact ⟨above, same, leadsAbove, first, held, .step reaches member⟩

private theorem ends_unfold_intact (typed : store.WellTyped) (leads : store.Leads node)
    (intact : ∀ below, Reaches store.held node below → store.isPoisoned below.ref = false)
    (through : store.CameThrough path node) (depth : Nat) :
    Embedding.Ends (fun fault _ => fault = .walkTooDeep ∨
        fault = .embeddingCycle ∧ store.MeetsCycle node)
      path (store.unfold depth node.type node.ref) := by
  induction depth generalizing node path with
  | zero => exact .throw (.inl rfl)
  | succ depth ih =>
      obtain ⟨data, found⟩ := leads_iff.mp leads
      apply ends_unfold_succ
      · intro onPath
        obtain ⟨above, same, leadsAbove, cycle⟩ := through node.ref onPath
        have here : above = node := leadsAbove.eq_of_ref leads same
        exact .inr ⟨rfl, node, .here, here ▸ cycle⟩
      · intro dead
        cases (intact node .here).symm.trans dead
      · intro missing
        cases found.symm.trans missing
      · intro other otherFound clear child member
        cases found.symm.trans otherFound
        have below := mem_held found member
        have ended := ih (typed.leads_of_data found child member)
          (fun deeper reaches => intact deeper (reaches.through below)) (through.step leads below)
        apply ended.imp
        intro fault _ reason
        cases reason with
        | inl deep => exact .inl deep
        | inr cycle => exact .inr ⟨cycle.1, cycle.2.above below⟩

theorem Unfolds.held {type : ObjType} {ref : Ref} {tree : Tree depth type}
    (unfolds : store.Unfolds depth type ref tree) (member : child ∈ store.held ⟨type, ref⟩) :
    ∃ few < depth, ∃ copy, store.Unfolds few child.type child.ref copy := by
  match depth with
  | 0 => exact tree.elim
  | depth + 1 =>
      obtain ⟨-, data, found, alike⟩ := unfolds
      have below := Shape.handles_of_matches
        (fun type (ref : Carrier.live.Handle type) =>
          ∃ copy : Tree depth type, store.Unfolds depth type ref copy)
        alike.flip (fun _ copy _ unfolds => ⟨copy, unfolds⟩)
      rw [@held_eq store ⟨type, ref⟩ data found] at member
      obtain ⟨handle, inside, rfl⟩ := List.mem_map.mp member
      exact ⟨depth, Nat.lt_succ_self depth, below handle inside⟩

theorem Unfolds.reaches {type : ObjType} {ref : Ref} {tree : Tree depth type}
    (unfolds : store.Unfolds depth type ref tree) (reaches : Reaches store.held ⟨type, ref⟩ node) :
    ∃ few ≤ depth, ∃ copy, store.Unfolds few node.type node.ref copy := by
  induction reaches with
  | here => exact ⟨depth, Nat.le_refl depth, tree, unfolds⟩
  | step _ member ih =>
      obtain ⟨few, below, copy, further⟩ := ih
      obtain ⟨fewer, less, other, last⟩ := further.held member
      exact ⟨fewer, Nat.le_trans (Nat.le_of_lt less) below, other, last⟩

/-- Below a cycle there would be a tree that holds itself. -/
theorem Unfolds.not_onCycle {type : ObjType} {ref : Ref} {tree : Tree depth type}
    (unfolds : store.Unfolds depth type ref tree) : ¬store.OnCycle ⟨type, ref⟩ := by
  induction depth using Nat.strongRecOn with
  | _ depth ih =>
  intro cycle
  have ⟨child, member, reaches⟩ := cycle
  obtain ⟨few, less, copy, below⟩ := unfolds.held member
  obtain ⟨fewer, within, other, again⟩ := below.reaches reaches
  exact ih fewer (Nat.lt_of_le_of_lt within less) again cycle

theorem Unfolds.not_meetsCycle {type : ObjType} {ref : Ref} {tree : Tree depth type}
    (unfolds : store.Unfolds depth type ref tree) : ¬store.MeetsCycle ⟨type, ref⟩ := by
  intro meets
  obtain ⟨node, reaches, cycle⟩ := meets
  obtain ⟨few, -, copy, below⟩ := unfolds.reaches reaches
  exact below.not_onCycle cycle

/-- An attempt at intact objects ends by itself: it returns the tree below the object, or it meets a
cycle. -/
theorem unfold_cases (typed : store.WellTyped) (leads : store.Leads node)
    (intact : ∀ below, Reaches store.held node below → store.isPoisoned below.ref = false)
    (enough : store.cells.size < depth) :
    (∃ tree, store.unfold depth node.type node.ref [] = (.ok tree, []) ∧
        store.Unfolds depth node.type node.ref tree) ∨
      store.unfold depth node.type node.ref [] = (.error .embeddingCycle, []) ∧
        store.MeetsCycle node := by
  have through : store.CameThrough [] node := nofun
  have ended := ends_unfold_intact typed leads intact through depth
  have deep := store.keeps_unfold_of_deep depth node.type node.ref List.nodup_nil
    (List.forall_mem_nil _) enough
  have left : (store.unfold depth node.type node.ref []).2 = [] :=
    path_unfold depth fun _ _ => List.not_mem_nil
  unfold Embedding.Ends at ended
  unfold Embedding.Keeps at deep
  rcases ran : store.unfold depth node.type node.ref [] with ⟨outcome, after⟩
  rw [ran] at ended deep left
  have empty : after = [] := left
  subst empty
  cases outcome with
  | ok tree => exact .inl ⟨tree, rfl, (unfold_sound ran).2⟩
  | error fault =>
      have other : fault.BlamesContent := deep
      cases ended with
      | inl tooDeep => exact absurd tooDeep other.2
      | inr cycle =>
          rw [cycle.1]
          exact .inr ⟨rfl, cycle.2⟩

def attempt (store : Store) (node : Node) : StateM (List Ref) (Except Fault Bytes) := do
  let outcome ← (store.unfold (store.cells.size + 1) node.type node.ref).run
  return do
    let tree ← outcome
    let body := tree.encode (store.cells.size + 1) node.type
    if Bytes.limit ≤ body.length then throw .oversized
    return body

/-- Attempts one after the other. Each starts on the path that the one before has left, whatever has
come of that and whatever has happened to the objects since. -/
def attempts (calls : List (Store × Node)) : StateM (List Ref) (List (Except Fault Bytes)) :=
  calls.mapM fun call => call.1.attempt call.2

theorem path_attempt (apart : ∀ below, Reaches store.held node below → below.ref ∉ path) :
    (store.attempt node path).2 = path :=
  path_unfold (store.cells.size + 1) apart

private theorem attempt_eq (store : Store) (node : Node) :
    store.attempt node [] = (store.blob node.type node.ref, []) := by
  have left : (store.attempt node []).2 = [] := path_attempt fun _ _ => List.not_mem_nil
  have written : (store.attempt node []).1 = store.blob node.type node.ref := by
    change (((store.unfold _ node.type node.ref).run.run []).1 >>= _) = _
    unfold blob embedded
    dsimp only
    cases ((store.unfold (store.cells.size + 1) node.type node.ref).run.run []).1 with
    | error fault => rfl
    | ok tree => rfl
  exact Prod.ext written left

/-- The attempts before have no part in what comes of an attempt. -/
theorem attempts_eq (calls : List (Store × Node)) :
    attempts calls [] = (calls.map fun call => call.1.blob call.2.type call.2.ref, []) := by
  induction calls with
  | nil => rfl
  | cons call others ih =>
      unfold attempts at ih ⊢
      rw [List.mapM_cons, bind_of_ran (call.1.attempt_eq call.2), bind_of_ran ih]
      rfl

end Store

end ObjectCourier
