import ObjectCourier.Portal.Client
import ObjectCourier.Proofs.Portal.Contexts

/-!
Operations that are begun now and worked on later, with edits of the shared contexts at any time. An
operation keeps the context that was shared when it began: it is worked on as if it had been asked for
in this context, and what others do to the shared contexts does not change what it comes to.
-/

namespace ObjectCourier

private theorem Portal.runBegun_aloof (portal : Portal) {begun : BegunRequest}
    (aloof : begun.dispatcher.Aloof) : (portal.runBegun begun).Aloof :=
  (begun.dispatcher.dispatchIn_aloof aloof begun.context begun.demand).bind fun _ =>
    Act.aloof_ofExcept _

private theorem Portal.receive_ne_crash (portal : Portal) (operation : Operation)
    (result : Option Node) : portal.receive operation result ≠ .error .crash := by
  intro crashed
  unfold receive Node.expect at crashed
  split at crashed
  · split at crashed <;> cases crashed
  · split at crashed
    · split at crashed <;> cases crashed
    · cases crashed

structure Errand where
  id : Nat
  portal : Portal
  begun : BegunRequest

/-- What happens next at a pool of workers. -/
inductive Move where
  | begin (portal : Portal) (demand : Demand)
  /-- A worker takes the operation and calls its callback, unless it is broken off. -/
  | work (id : Nat)
  /-- Somebody replaces or edits a shared context. -/
  | edit (id : ContextId) (change : Context → Context)
  /-- Whatever else happens: callbacks, and callers that wait. -/
  | elsewhere (action : StateM World Unit)

namespace Move

def capture? (world : World) : Move → Option Context
  | begin portal _ => some (world.context portal.dispatcher.context)
  | _ => none

def Aloof : Move → Prop
  | begin portal _ => portal.dispatcher.Aloof
  | elsewhere action => ∀ (world : World) contexts,
      (action (world.withContexts contexts)).2 = (action world).2.withContexts contexts
  | _ => True

end Move

structure Pool where
  world : World := {}
  waiting : List Errand := []
  next : Nat := 0
  /-- What the callbacks have been given. -/
  delivered : List (Nat × Except Fault (Option Ref)) := []

namespace Pool

/-- What a callback is given of an outcome. A crash takes the worker with it. -/
def handed : Except Fault (Option Ref) → List (Except Fault (Option Ref))
  | .error .crash => []
  | outcome => [outcome]

private theorem handed_of_ne {outcome : Except Fault (Option Ref)}
    (whole : outcome ≠ .error .crash) : handed outcome = [outcome] := by
  unfold handed
  split
  · contradiction
  · rfl

def step (pool : Pool) : Move → Pool
  | .begin portal demand =>
      let (begun, world) := portal.begin demand pool.world
      { pool with
        world := world
        waiting := pool.waiting ++ [⟨pool.next, portal, begun⟩]
        next := pool.next + 1 }
  | .work id =>
      match pool.waiting.find? (·.id = id) with
      | none => pool
      | some errand =>
          let (outcome, world) := errand.portal.runBegun errand.begun pool.world
          { pool with
            world := world
            waiting := pool.waiting.filter (·.id ≠ id)
            delivered := pool.delivered ++ (handed outcome).map (id, ·) }
  | .edit id change => { pool with world := (editContext id change pool.world).2 }
  | .elsewhere action => { pool with world := (action pool.world).2 }

def run (pool : Pool) (moves : List Move) : Pool := moves.foldl step pool

/-- The outcomes that the callback of an operation has been given. -/
def deliveries (pool : Pool) (id : Nat) : List (Except Fault (Option Ref)) :=
  (pool.delivered.filter (·.1 = id)).map (·.2)

variable {pool : Pool} {move : Move} {moves : List Move} {id : Nat} {errand : Errand}

private theorem step_worked {outcome : Except Fault (Option Ref)} {world : World}
    (found : pool.waiting.find? (·.id = id) = some errand)
    (ran : errand.portal.runBegun errand.begun pool.world = (outcome, world)) :
    pool.step (.work id) =
      { pool with
        world := world
        waiting := pool.waiting.filter (·.id ≠ id)
        delivered := pool.delivered ++ (handed outcome).map (id, ·) } := by
  simp only [step, found, ran]

private theorem step_idle (found : pool.waiting.find? (·.id = id) = none) :
    pool.step (.work id) = pool := by
  simp only [step, found]

/-! ### Every callback is called once -/

structure Orderly (pool : Pool) : Prop where
  waiting : ∀ errand ∈ pool.waiting, errand.id < pool.next
  delivered : ∀ told ∈ pool.delivered, told.1 < pool.next

theorem Orderly.step (orderly : pool.Orderly) (move : Move) : (pool.step move).Orderly := by
  cases move with
  | begin portal demand =>
      constructor
      · intro errand member
        cases List.mem_append.mp member with
        | inl old => exact Nat.lt_succ_of_lt (orderly.waiting errand old)
        | inr new =>
            cases List.mem_singleton.mp new
            exact Nat.lt_succ_self _
      · intro told member
        exact Nat.lt_succ_of_lt (orderly.delivered told member)
  | work id =>
      cases found : pool.waiting.find? (·.id = id) with
      | none =>
          rw [step_idle found]
          exact orderly
      | some errand =>
          rw [step_worked found rfl]
          constructor
          · intro other member
            exact orderly.waiting other (List.mem_of_mem_filter member)
          · intro told member
            cases List.mem_append.mp member with
            | inl old => exact orderly.delivered told old
            | inr new =>
                obtain ⟨_, -, rfl⟩ := List.mem_map.mp new
                have chosen := List.find?_some found
                have same : errand.id = id := of_decide_eq_true chosen
                rw [← same]
                exact orderly.waiting errand (List.mem_of_find?_eq_some found)
  | edit | elsewhere => exact ⟨orderly.waiting, orderly.delivered⟩

theorem Orderly.run (orderly : pool.Orderly) (moves : List Move) : (pool.run moves).Orderly := by
  induction moves generalizing pool with
  | nil => exact orderly
  | cons move moves ih => exact ih (orderly.step move)

structure Awaits (pool : Pool) (errand : Errand) : Prop where
  found : pool.waiting.find? (·.id = errand.id) = some errand
  untold : pool.deliveries errand.id = []

private theorem deliveries_worked {outcome : Except Fault (Option Ref)} {world : World}
    (found : pool.waiting.find? (·.id = id) = some errand)
    (ran : errand.portal.runBegun errand.begun pool.world = (outcome, world)) (other : Nat) :
    (pool.step (.work id)).deliveries other =
      pool.deliveries other ++ if id = other then handed outcome else [] := by
  rw [step_worked found ran, deliveries, List.filter_append, List.map_append]
  by_cases same : id = other
  · simp [deliveries, same, List.filter_map, Function.comp_def]
  · simp [deliveries, same, List.filter_map, Function.comp_def]

private theorem find?_worked {outcome : Except Fault (Option Ref)} {world : World}
    (found : pool.waiting.find? (·.id = id) = some errand)
    (ran : errand.portal.runBegun errand.begun pool.world = (outcome, world)) (other : Nat) :
    (pool.step (.work id)).waiting.find? (·.id = other) =
      if id = other then none else pool.waiting.find? (·.id = other) := by
  rw [step_worked found ran, List.find?_filter]
  by_cases same : id = other
  · rw [if_pos same]
    apply List.find?_eq_none.mpr
    intro errand _
    simp [same]
  · rw [if_neg same]
    congr 1
    funext errand
    by_cases chosen : errand.id = other
    · simp [chosen, Ne.symm same]
    · simp [chosen]

theorem Orderly.awaits (orderly : pool.Orderly) (portal : Portal) (demand : Demand) :
    (pool.step (.begin portal demand)).Awaits
      ⟨pool.next, portal, portal.dispatcher, pool.world.context portal.dispatcher.context,
        demand⟩ := by
  constructor
  · have fresh : pool.waiting.find? (·.id = pool.next) = none := by
      apply List.find?_eq_none.mpr
      intro errand member same
      exact Nat.ne_of_lt (orderly.waiting errand member) (of_decide_eq_true same)
    change (pool.waiting ++ [_]).find? _ = _
    rw [List.find?_append, fresh, Option.none_or]
    exact List.find?_cons_of_pos (decide_eq_true rfl)
  · change (pool.delivered.filter (·.1 = pool.next)).map (·.2) = []
    rw [List.map_eq_nil_iff, List.filter_eq_nil_iff]
    intro told member same
    exact Nat.ne_of_lt (orderly.delivered told member) (of_decide_eq_true same)

theorem Awaits.step (awaits : pool.Awaits errand) (spared : move ≠ .work errand.id) :
    (pool.step move).Awaits errand := by
  cases move with
  | begin portal demand =>
      refine ⟨?_, awaits.untold⟩
      change (pool.waiting ++ [_]).find? _ = _
      rw [List.find?_append, awaits.found]
      rfl
  | work id =>
      have different : id ≠ errand.id := fun same => spared (same ▸ rfl)
      cases found : pool.waiting.find? (·.id = id) with
      | none =>
          rw [step_idle found]
          exact awaits
      | some other =>
          constructor
          · rw [find?_worked found rfl, if_neg different]
            exact awaits.found
          · rw [deliveries_worked found rfl, if_neg different, List.append_nil]
            exact awaits.untold
  | edit | elsewhere => exact ⟨awaits.found, awaits.untold⟩

theorem Awaits.run (awaits : pool.Awaits errand) (spared : .work errand.id ∉ moves) :
    (pool.run moves).Awaits errand := by
  induction moves generalizing pool with
  | nil => exact awaits
  | cons move moves ih =>
      have other : move ≠ .work errand.id := fun same => spared (same ▸ List.mem_cons_self)
      exact ih (awaits.step other) fun member => spared (List.mem_cons_of_mem move member)

structure Settled (pool : Pool) (id : Nat) (outcome : Except Fault (Option Ref)) : Prop where
  gone : pool.waiting.find? (·.id = id) = none
  old : id < pool.next
  told : pool.deliveries id = handed outcome

theorem Awaits.settles {outcome : Except Fault (Option Ref)} {world : World}
    (awaits : pool.Awaits errand) (old : errand.id < pool.next)
    (ran : errand.portal.runBegun errand.begun pool.world = (outcome, world)) :
    (pool.step (.work errand.id)).Settled errand.id outcome := by
  constructor
  · rw [find?_worked awaits.found ran, if_pos rfl]
  · rw [step_worked awaits.found ran]
    exact old
  · rw [deliveries_worked awaits.found ran, awaits.untold, if_pos rfl, List.nil_append]

theorem Settled.step {outcome : Except Fault (Option Ref)} (settled : pool.Settled id outcome)
    (move : Move) : (pool.step move).Settled id outcome := by
  cases move with
  | begin portal demand =>
      refine ⟨?_, Nat.lt_succ_of_lt settled.old, settled.told⟩
      change (pool.waiting ++ [_]).find? _ = _
      rw [List.find?_append, settled.gone, Option.none_or]
      have new : pool.next ≠ id := (Nat.ne_of_lt settled.old).symm
      simp [new]
  | work other =>
      cases found : pool.waiting.find? (·.id = other) with
      | none =>
          rw [step_idle found]
          exact settled
      | some errand =>
          have different : other ≠ id := by
            intro same
            subst other
            cases found.symm.trans settled.gone
          constructor
          · rw [find?_worked found rfl, if_neg different]
            exact settled.gone
          · rw [step_worked found rfl]
            exact settled.old
          · rw [deliveries_worked found rfl, if_neg different, List.append_nil]
            exact settled.told
  | edit | elsewhere => exact ⟨settled.gone, settled.old, settled.told⟩

theorem Settled.run {outcome : Except Fault (Option Ref)} (settled : pool.Settled id outcome)
    (moves : List Move) : (pool.run moves).Settled id outcome := by
  induction moves generalizing pool with
  | nil => exact settled
  | cons move moves ih => exact ih (settled.step move)

/-! ### Two runs -/

def Alike (left right : Pool) : Prop :=
  ∃ contexts, right = { left with world := left.world.withContexts contexts }

theorem Alike.refl (pool : Pool) : pool.Alike pool := ⟨pool.world.contexts, rfl⟩

theorem Alike.symm {left right : Pool} (alike : left.Alike right) : right.Alike left := by
  obtain ⟨contexts, rfl⟩ := alike
  exact ⟨left.world.contexts, rfl⟩

theorem Alike.trans {left middle right : Pool} (early : left.Alike middle)
    (late : middle.Alike right) : left.Alike right := by
  obtain ⟨_, rfl⟩ := early
  obtain ⟨contexts, rfl⟩ := late
  exact ⟨contexts, rfl⟩

private theorem alike_edit (pool : Pool) (id : ContextId) (change : Context → Context) :
    pool.Alike (pool.step (.edit id change)) := ⟨_, rfl⟩

def Aloof (pool : Pool) : Prop := ∀ errand ∈ pool.waiting, errand.begun.dispatcher.Aloof

theorem Aloof.step (aloof : pool.Aloof) (apart : move.Aloof) : (pool.step move).Aloof := by
  cases move with
  | begin portal demand =>
      intro errand member
      cases List.mem_append.mp member with
      | inl old => exact aloof errand old
      | inr new =>
          cases List.mem_singleton.mp new
          exact apart
  | work id =>
      cases found : pool.waiting.find? (·.id = id) with
      | none =>
          rw [step_idle found]
          exact aloof
      | some errand =>
          rw [step_worked found rfl]
          intro other member
          exact aloof other (List.mem_of_mem_filter member)
  | edit | elsewhere => exact aloof

/-- A move does the same to both pools when it captures the same context. -/
theorem Alike.step {left right : Pool} (alike : left.Alike right) (aloof : left.Aloof)
    (apart : move.Aloof) (captured : move.capture? left.world = move.capture? right.world) :
    (left.step move).Alike (right.step move) := by
  obtain ⟨contexts, rfl⟩ := alike
  cases move with
  | begin portal demand =>
      have same : left.world.context portal.dispatcher.context =
          (left.world.withContexts contexts).context portal.dispatcher.context :=
        Option.some.inj captured
      refine ⟨contexts, ?_⟩
      change Pool.mk _ (left.waiting ++ [⟨left.next, portal, ⟨portal.dispatcher,
        (left.world.withContexts contexts).context portal.dispatcher.context, demand⟩⟩]) _ _ = _
      rw [← same]
      rfl
  | work id =>
      cases found : left.waiting.find? (·.id = id) with
      | none =>
          have foundThere : ({ left with world := left.world.withContexts contexts } :
            Pool).waiting.find? (·.id = id) = none := found
          rw [step_idle found, step_idle foundThere]
          exact ⟨contexts, rfl⟩
      | some errand =>
          have foundThere : ({ left with world := left.world.withContexts contexts } :
            Pool).waiting.find? (·.id = id) = some errand := found
          have moved := errand.portal.runBegun_aloof
            (aloof errand (List.mem_of_find?_eq_some found)) left.world contexts
          rcases ran : errand.portal.runBegun errand.begun left.world with ⟨outcome, after⟩
          rw [ran] at moved
          rw [step_worked found ran, step_worked foundThere moved]
          exact ⟨contexts, rfl⟩
  | edit id change =>
      have here := left.alike_edit id change
      exact here.symm.trans ⟨_, rfl⟩
  | elsewhere action =>
      refine ⟨contexts, ?_⟩
      change { left with world := (action (left.world.withContexts contexts)).2 } = _
      rw [apart left.world contexts]
      rfl

theorem run_append (pool : Pool) (first second : List Move) :
    pool.run (first ++ second) = (pool.run first).run second := List.foldl_append

/-- The operation that a worker takes now was begun in this context. The worker does what a caller
that waits does in it; nothing that is plugged in is shown another context; shared contexts are left as
they are, unless what is plugged in changes them; and the callback is called this once, unless the work
is broken off and there is nothing to call it with. -/
structure Keeps (taken : Pool) (id : Nat) (portal : Portal) (context : Context) (demand : Demand)
    (outcome : Except Fault (Option Node)) : Prop where
  ran : portal.dispatcher.dispatchIn context demand taken.world =
    (outcome, (taken.step (.work id)).world)
  shown : portal.dispatcher.Shows context (demand.asking context taken.world)
    (taken.step (.work id)).world
  contexts : portal.dispatcher.Aloof → (taken.step (.work id)).world.contexts = taken.world.contexts
  untold : taken.deliveries id = []
  told : outcome ≠ .error .crash → ∀ later,
    ((taken.step (.work id)).run later).deliveries id =
      [outcome >>= portal.receive demand.operation]
  broken : outcome = .error .crash → ∀ later,
    ((taken.step (.work id)).run later).deliveries id = []

theorem Awaits.keeps {portal : Portal} {context : Context} {demand : Demand}
    (awaits : pool.Awaits ⟨id, portal, portal.dispatcher, context, demand⟩) (old : id < pool.next) :
    ∃ outcome, pool.Keeps id portal context demand outcome := by
  rcases ran : portal.dispatcher.dispatchIn context demand pool.world with ⟨outcome, after⟩
  have given : portal.runBegun ⟨portal.dispatcher, context, demand⟩ pool.world =
      (outcome >>= portal.receive demand.operation, after) := by
    unfold Portal.runBegun
    cases outcome with
    | error fault => exact bind_of_ran_error ran
    | ok result => exact bind_of_ran_ok ran
  have worked : (pool.step (.work id)).world = after := by
    rw [step_worked awaits.found given]
  refine ⟨outcome, ?_⟩
  constructor
  case ran => rw [ran, worked]
  case shown =>
    have shown := portal.dispatcher.dispatchIn_shows context demand pool.world
    rw [ran] at shown
    rw [worked]
    exact shown
  case contexts =>
    intro aloof
    have kept := (portal.dispatcher.dispatchIn_aloof aloof context demand).contexts pool.world
    rw [ran] at kept
    rw [worked]
    exact kept
  case untold => exact awaits.untold
  case told =>
    intro whole later
    rw [((awaits.settles old given).run later).told]
    refine handed_of_ne fun crashed => ?_
    cases outcome with
    | error fault => exact whole (congrArg Except.error (Except.error.inj crashed))
    | ok result => exact portal.receive_ne_crash demand.operation result crashed
  case broken =>
    rintro rfl later
    exact ((awaits.settles old given).run later).told

theorem Orderly.keeps (orderly : pool.Orderly) (portal : Portal) (demand : Demand)
    {between : List Move} (spared : .work pool.next ∉ between) :
    ∃ outcome, ((pool.step (.begin portal demand)).run between).Keeps pool.next portal
      (pool.world.context portal.dispatcher.context) demand outcome := by
  have awaits := (orderly.awaits portal demand).run spared
  have waiting := List.mem_of_find?_eq_some awaits.found
  exact awaits.keeps (((orderly.step (.begin portal demand)).run between).waiting _ waiting)

def start (world : World) : Pool where
  world := world

end Pool

/-! ### An edit between the beginning of a request and its work -/

def World.of (name : String) : World where
  contexts := #[({} : Context).withPrincipal (.user name [])]

end ObjectCourier
