import ObjectCourier.Proofs.Object.Planting
import ObjectCourier.Proofs.Status.LoadHistory

/-!
Loads that any number of workers begin, end and report, in any order. A step begins a load, ends one,
or makes a report that is due; whatever else happens in between leaves loads and counters alone. The
history of a run tells which loads stand: they have begun and are neither completed nor dropped. A
counter shows how many of its own loads stand.
-/

namespace ObjectCourier

/-! ### What begins and ends a load -/

namespace Store

variable {store : Store} {counter other : CounterId} {change : Nat → Nat}

private theorem outstanding_count_self (inside : counter.index < store.counters.size) :
    (store.count counter change).outstanding counter = change (store.outstanding counter) := by
  simp only [outstanding, count, Array.getElem?_modify, if_pos,
    Array.getElem?_eq_getElem inside, Option.map_some, Option.getD_some]

private theorem outstanding_count_of_ne (different : other ≠ counter) :
    (store.count counter change).outstanding other = store.outstanding other := by
  have apart : counter.index ≠ other.index := by
    intro same
    cases counter
    cases other
    cases same
    exact different rfl
  simp only [outstanding, count, Array.getElem?_modify, if_neg apart]

private theorem counters_size_count :
    (store.count counter change).counters.size = store.counters.size :=
  Array.size_modify

def countIf (store : Store) (counter : Option CounterId) (change : Nat → Nat) : Store :=
  match counter with
  | none => store
  | some id => store.count id change

private theorem counters_size_countIf {counter : Option CounterId} :
    (store.countIf counter change).counters.size = store.counters.size := by
  cases counter with
  | none => rfl
  | some id => exact counters_size_count

private theorem outstanding_countIf {counter : Option CounterId}
    (known : ∀ id, counter = some id → id.index < store.counters.size) (other : CounterId) :
    (store.countIf counter change).outstanding other =
      if counter = some other then change (store.outstanding other)
      else store.outstanding other := by
  cases counter with
  | none => rfl
  | some id =>
      by_cases same : id = other
      · subst id
        rw [if_pos rfl]
        exact outstanding_count_self (known other rfl)
      · rw [if_neg (fun equal => same (Option.some.inj equal))]
        exact outstanding_count_of_ne (fun equal => same equal.symm)

end Store

namespace World

def nextOpen (world : World) (property : String) (counter : Option CounterId) : OpenLoad :=
  ⟨⟨world.nextLoad⟩, property, counter⟩

def opened (world : World) (property : String) (counter : Option CounterId) : World :=
  { world.note [.loading property] with
    store := world.store.countIf counter (· + 1)
    openLoads := world.openLoads ++ [world.nextOpen property counter]
    nextLoad := world.nextLoad + 1 }

def closed (world : World) (load : OpenLoad) : World :=
  { world with
    store := world.store.countIf load.counter (· - 1)
    openLoads := world.openLoads.filter (·.id ≠ load.id) }

structure LeavesLoads (before after : World) : Prop where
  openLoads : after.openLoads = before.openLoads
  nextLoad : after.nextLoad = before.nextLoad
  grown : before.store.counters.size ≤ after.store.counters.size
  outstanding : ∀ counter, after.store.outstanding counter = before.store.outstanding counter

end World

/-- The report of a load, as it is made when the store is this one. -/
def OpenLoad.notice {α : Type} (load : OpenLoad) (outcome : Except Fault α) (store : Store) :
    Notice α where
  property := load.property
  outcome := outcome
  outstanding := load.counter.map store.outstanding

private theorem beginLoad_eq (property : String) (counter : Option CounterId) (world : World) :
    beginLoad property counter world =
      ((world.nextOpen property counter).id, world.opened property counter) := by
  cases counter <;> rfl

private theorem id_of_openLoad? {world : World} {id : LoadId} {load : OpenLoad}
    (found : world.openLoad? id = some load) : load.id = id := by
  have same := List.find?_some found
  exact of_decide_eq_true same

private theorem get_run (world : World) : (get : StateM World World) world = (world, world) := rfl

private theorem endLoad_open {world : World} {id : LoadId} {load : OpenLoad}
    (found : world.openLoad? id = some load) : endLoad id world = (some load, world.closed load) := by
  have same := id_of_openLoad? found
  subst id
  unfold endLoad
  rw [bind_of_ran (get_run world)]
  simp only [found]
  obtain ⟨id, property, counter⟩ := load
  cases counter <;> rfl

private theorem endLoad_ended {world : World} {id : LoadId} (ended : world.openLoad? id = none) :
    endLoad id world = (none, world) := by
  unfold endLoad
  rw [bind_of_ran (get_run world)]
  simp only [ended]
  rfl

private theorem endLoad_eq_some {world after : World} {id : LoadId} {load : OpenLoad}
    (ended : endLoad id world = (some load, after)) :
    world.openLoad? id = some load ∧ after = world.closed load := by
  cases found : world.openLoad? id with
  | none =>
      rw [endLoad_ended found] at ended
      cases ended
  | some other =>
      rw [endLoad_open found] at ended
      cases ended
      exact ⟨rfl, rfl⟩

private theorem completeLoad_open {α : Type} {world : World} {id : LoadId} {load : OpenLoad}
    (outcome : Except Fault α) (found : world.openLoad? id = some load) :
    completeLoad id outcome world =
      (some (load.notice outcome (world.closed load).store), world.closed load) := by
  unfold completeLoad
  rw [bind_of_ran (endLoad_open found)]
  rfl

/-! ### Runs -/

structure LoadState (α : Type) where
  world : World
  due : List (OpenLoad × Except Fault α) := []

namespace LoadState

variable {α : Type}

structure Idle (state : LoadState α) : Prop where
  openLoads : state.world.openLoads = []
  outstanding : ∀ counter, state.world.store.outstanding counter = 0
  due : state.due = []

/-- One worker does one thing. -/
inductive Step : LoadState α → List (LoadEvent α) → LoadState α → Prop where
  /-- A load is begun, under a counter that there is or without one. -/
  | begin {world after due counter id} (loader : Loader α)
      (known : ∀ id, counter = some id → id.index < world.store.counters.size)
      (ran : beginLoad loader.property counter world = (id, after)) :
      Step ⟨world, due⟩ [.begun ⟨id, loader.property, counter⟩] ⟨after, due⟩
  /-- A load is taken off its counter, and its report is due. -/
  | complete {world after due id load} (outcome : Except Fault α)
      (ran : endLoad id world = (some load, after)) :
      Step ⟨world, due⟩ [.completed id outcome] ⟨after, (load, outcome) :: due⟩
  | drop {world after due id load} (ran : endLoad id world = (some load, after)) :
      Step ⟨world, due⟩ [.dropped id] ⟨after, due⟩
  /-- A callback is called. What it does are further steps. -/
  | report {world load outcome early late} :
      Step ⟨world, early ++ (load, outcome) :: late⟩
        [.reported load.id (load.notice outcome world.store)] ⟨world, early ++ late⟩
  | elsewhere {world after due} (leaves : world.LeavesLoads after) : Step ⟨world, due⟩ [] ⟨after, due⟩

inductive Runs : LoadState α → List (LoadEvent α) → LoadState α → Prop where
  | refl (state) : Runs state [] state
  | tail {start state next history events} (run : Runs start history state)
      (step : Step state events next) : Runs start (history ++ events) next

structure Keeps (history : List (LoadEvent α)) (state : LoadState α) : Prop where
  sound : LoadEvent.Sound history
  standing : state.world.openLoads = LoadEvent.standingIn history
  early : ∀ load ∈ LoadEvent.begunIn history, load.id.index < state.world.nextLoad
  known : ∀ load ∈ LoadEvent.standingIn history, ∀ counter, load.counter = some counter →
    counter.index < state.world.store.counters.size
  counted : ∀ counter,
    state.world.store.outstanding counter = LoadEvent.standingUnder history counter
  due : ∀ load outcome, (load, outcome) ∈ state.due →
    .begun load ∈ history ∧ .completed load.id outcome ∈ history
  unreported : (state.due.map (·.1.id)).Nodup ∧
    ∀ id ∈ LoadEvent.reportedIn history, id ∉ state.due.map (·.1.id)

namespace Keeps

variable {state : LoadState α} {world after : World} {due : List (OpenLoad × Except Fault α)}
  {history : List (LoadEvent α)} {event : LoadEvent α} {load : OpenLoad} {id : LoadId}

theorem initial (idle : state.Idle) : state.Keeps [] where
  sound := .nil
  standing := idle.openLoads
  early := nofun
  known := nofun
  counted counter := idle.outstanding counter
  due load outcome member := by
    rw [idle.due] at member
    cases member
  unreported := by
    rw [idle.due]
    exact ⟨List.nodup_nil, nofun⟩

private theorem standing_distinct (keeps : state.Keeps history) :
    ((LoadEvent.standingIn history).map (·.id)).Nodup :=
  (List.filter_sublist.map _).nodup keeps.sound.begunIn_distinct

private theorem mem_standing (keeps : state.Keeps history)
    (found : state.world.openLoad? id = some load) : load ∈ LoadEvent.standingIn history := by
  rw [← keeps.standing]
  exact List.mem_of_find?_eq_some found

private theorem standing_perm (keeps : state.Keeps history)
    (standing : load ∈ LoadEvent.standingIn history) : (LoadEvent.standingIn history).Perm
      (load :: (LoadEvent.standingIn history).filter fun other => other.id ≠ load.id) := by
  have distinct := keeps.standing_distinct
  have erased := List.perm_cons_erase standing
  rw [(List.Nodup.of_map _ distinct).erase_eq_filter] at erased
  have same : ∀ other ∈ LoadEvent.standingIn history,
      (other != load) = decide (other.id ≠ load.id) := by
    intro other member
    by_cases equal : other = load
    · subst other
      simp
    · have apart : other.id ≠ load.id := fun sameId =>
        equal (List.inj_on_of_nodup_map distinct member standing sameId)
      simp [equal, apart]
  rw [List.filter_congr same] at erased
  exact erased

private theorem standingUnder_of_standing (keeps : state.Keeps history)
    (standing : load ∈ LoadEvent.standingIn history) (counter : CounterId) :
    LoadEvent.standingUnder history counter =
      (((LoadEvent.standingIn history).filter fun other => other.id ≠ load.id).countP fun other =>
        other.counter = some counter) + if load.counter = some counter then 1 else 0 := by
  have counted := (keeps.standing_perm standing).countP_eq fun other => other.counter = some counter
  rw [LoadEvent.standingUnder, counted, List.countP_cons]
  simp only [decide_eq_true_iff]

private theorem ended_of_due (keeps : state.Keeps history) {outcome : Except Fault α}
    (member : (load, outcome) ∈ state.due) : load.id ∈ LoadEvent.endedIn history :=
  LoadEvent.mem_endedIn.mpr (.inl ⟨outcome, (keeps.due load outcome member).2⟩)

theorem begin (keeps : Keeps history ⟨world, due⟩) {property : String} {counter : Option CounterId}
    (known : ∀ id, counter = some id → id.index < world.store.counters.size) :
    Keeps (history ++ [.begun (world.nextOpen property counter)])
      ⟨world.opened property counter, due⟩ := by
  have new : (world.nextOpen property counter).id ∉ (LoadEvent.begunIn history).map (·.id) := by
    intro member
    obtain ⟨load, begun, same⟩ := List.mem_map.mp member
    have early := keeps.early load begun
    rw [same] at early
    exact Nat.lt_irrefl _ early
  have unended : (world.nextOpen property counter).id ∉ LoadEvent.endedIn history :=
    fun ended => new (keeps.sound.endedIn_subset _ ended)
  have standing := LoadEvent.standingIn_begun unended
  constructor
  case sound => exact keeps.sound.snoc new
  case standing =>
    rw [standing]
    exact congrArg (· ++ [world.nextOpen property counter]) keeps.standing
  case early =>
    intro load begun
    rw [LoadEvent.begunIn_snoc] at begun
    change load.id.index < world.nextLoad + 1
    cases List.mem_append.mp begun with
    | inl old => exact Nat.lt_succ_of_lt (keeps.early load old)
    | inr last =>
        cases List.mem_singleton.mp last
        exact Nat.lt_succ_self _
  case known =>
    intro load stands id under
    rw [standing] at stands
    change id.index < (world.store.countIf counter (· + 1)).counters.size
    rw [Store.counters_size_countIf]
    cases List.mem_append.mp stands with
    | inl old => exact keeps.known load old id under
    | inr last =>
        cases List.mem_singleton.mp last
        exact known id under
  case counted =>
    intro id
    change (world.store.countIf counter (· + 1)).outstanding id = _
    have before : world.store.outstanding id = LoadEvent.standingUnder history id := keeps.counted id
    rw [Store.outstanding_countIf known, before, LoadEvent.standingUnder_begun unended]
    change _ = _ + if counter = some id then 1 else 0
    by_cases under : counter = some id
    · rw [if_pos under, if_pos under]
    · rw [if_neg under, if_neg under, Nat.add_zero]
  case due =>
    intro load outcome member
    have present := keeps.due load outcome member
    exact ⟨List.mem_append_left _ present.1, List.mem_append_left _ present.2⟩
  case unreported =>
    rw [LoadEvent.reportedIn_snoc]
    simp only [LoadEvent.reported?, Option.toList_none, List.append_nil]
    exact keeps.unreported

theorem ended (keeps : Keeps history ⟨world, due⟩) (found : world.openLoad? id = some load)
    (ends : event.ended? = some id) (follows : LoadEvent.Follows history event) :
    Keeps (history ++ [event]) ⟨world.closed load, due⟩ := by
  have same := id_of_openLoad? found
  subst id
  have stands := keeps.mem_standing found
  have standing : LoadEvent.standingIn (history ++ [event]) = _ := LoadEvent.standingIn_ended ends
  have begun : event.begun? = none := by
    cases event with
    | begun => cases ends
    | completed | dropped | reported => rfl
  have reported : event.reported? = none := by
    cases event with
    | reported => cases ends
    | begun | completed | dropped => rfl
  constructor
  case sound => exact keeps.sound.snoc follows
  case standing =>
    rw [standing]
    exact congrArg (List.filter fun other => other.id ≠ load.id) keeps.standing
  case early =>
    intro other member
    rw [LoadEvent.begunIn_snoc, begun, Option.toList_none, List.append_nil] at member
    exact keeps.early other member
  case known =>
    intro other member id under
    rw [standing] at member
    change id.index < (world.store.countIf load.counter (· - 1)).counters.size
    rw [Store.counters_size_countIf]
    exact keeps.known other (List.mem_of_mem_filter member) id under
  case counted =>
    intro counter
    change (world.store.countIf load.counter (· - 1)).outstanding counter = _
    have before : world.store.outstanding counter = LoadEvent.standingUnder history counter :=
      keeps.counted counter
    rw [Store.outstanding_countIf (keeps.known load stands), before,
      keeps.standingUnder_of_standing stands, LoadEvent.standingUnder, standing]
    by_cases under : load.counter = some counter
    · rw [if_pos under, if_pos under, Nat.add_sub_cancel]
    · rw [if_neg under, if_neg under, Nat.add_zero]
  case due =>
    intro other outcome member
    have present := keeps.due other outcome member
    exact ⟨List.mem_append_left _ present.1, List.mem_append_left _ present.2⟩
  case unreported =>
    rw [LoadEvent.reportedIn_snoc, reported, Option.toList_none, List.append_nil]
    exact keeps.unreported

private theorem complete (keeps : Keeps history ⟨world, due⟩)
    (found : world.openLoad? id = some load) (outcome : Except Fault α) :
    Keeps (history ++ [.completed id outcome]) ⟨world.closed load, (load, outcome) :: due⟩ := by
  have stands := keeps.mem_standing found
  have follows : LoadEvent.Follows history (.completed id outcome) :=
    ⟨load, stands, id_of_openLoad? found⟩
  have ended := keeps.ended found rfl follows
  have same := id_of_openLoad? found
  subst id
  have unended := (LoadEvent.mem_standingIn.mp stands).2
  have undue : load.id ∉ due.map (·.1.id) := by
    intro member
    obtain ⟨⟨other, earlier⟩, present, same⟩ := List.mem_map.mp member
    exact unended (same ▸ keeps.ended_of_due present)
  have unreported : load.id ∉ LoadEvent.reportedIn history := by
    intro member
    obtain ⟨event, present, reports⟩ := List.mem_filterMap.mp member
    cases event with
    | begun | completed | dropped => cases reports
    | reported other notice =>
        cases reports
        have completed := keeps.sound.completed_of_reported present
        exact unended (LoadEvent.mem_endedIn.mpr (.inl ⟨_, completed⟩))
  constructor
  case sound => exact ended.sound
  case standing => exact ended.standing
  case early => exact ended.early
  case known => exact ended.known
  case counted => exact ended.counted
  case due =>
    intro other reported member
    cases List.mem_cons.mp member with
    | inl new =>
        cases new
        have begun := (LoadEvent.mem_standingIn.mp stands).1
        exact ⟨List.mem_append_left _ begun, List.mem_append_right _ (List.mem_singleton_self _)⟩
    | inr old => exact ended.due other reported old
  case unreported =>
    constructor
    · exact List.nodup_cons.mpr ⟨undue, keeps.unreported.1⟩
    · intro id member
      rw [LoadEvent.reportedIn_snoc] at member
      simp only [LoadEvent.reported?, Option.toList_none, List.append_nil] at member
      intro same
      cases List.mem_cons.mp same with
      | inl new =>
          subst id
          exact unreported member
      | inr old => exact keeps.unreported.2 id member old

theorem report {early late : List (OpenLoad × Except Fault α)} {outcome : Except Fault α}
    (keeps : Keeps history ⟨world, early ++ (load, outcome) :: late⟩) :
    LoadEvent.Tells history load.id (load.notice outcome world.store) load ∧
      Keeps (history ++ [.reported load.id (load.notice outcome world.store)])
        ⟨world, early ++ late⟩ := by
  have member : (load, outcome) ∈ early ++ (load, outcome) :: late :=
    List.mem_append_right _ List.mem_cons_self
  obtain ⟨begun, completed⟩ := keeps.due load outcome member
  have ended := keeps.ended_of_due member
  have counted : ∀ counter, world.store.outstanding counter = LoadEvent.standingUnder history counter :=
    keeps.counted
  have distinct : ((early ++ (load, outcome) :: late).map (·.1.id)).Nodup := keeps.unreported.1
  rw [List.map_append, List.map_cons, List.nodup_middle, List.nodup_cons, ← List.map_append]
    at distinct
  have first : load.id ∉ LoadEvent.reportedIn history := fun reported =>
    keeps.unreported.2 load.id reported (List.mem_map.mpr ⟨_, member, rfl⟩)
  have tells : LoadEvent.Tells history load.id (load.notice outcome world.store) load := by
    constructor
    case same => rfl
    case begun => exact begun
    case completed => exact completed
    case first => exact first
    case property => rfl
    case outstanding => exact congrArg load.counter.map (funext counted)
    case uncounted => exact fun stands => (LoadEvent.mem_standingIn.mp stands).2 ended
  have standing := @LoadEvent.standingIn_reported α history load.id (load.notice outcome world.store)
  refine ⟨tells, ?_⟩
  constructor
  case sound => exact keeps.sound.snoc ⟨load, tells⟩
  case standing => exact keeps.standing.trans standing.symm
  case early =>
    intro other begun
    rw [LoadEvent.begunIn_snoc] at begun
    simp only [LoadEvent.begun?, Option.toList_none, List.append_nil] at begun
    exact keeps.early other begun
  case known =>
    rw [standing]
    exact keeps.known
  case counted =>
    intro counter
    rw [LoadEvent.standingUnder, standing]
    exact counted counter
  case due =>
    intro other told present
    have sub : (early ++ late).Sublist (early ++ (load, outcome) :: late) :=
      (List.sublist_cons_self _ _).append_left early
    have before := keeps.due other told (sub.subset present)
    exact ⟨List.mem_append_left _ before.1, List.mem_append_left _ before.2⟩
  case unreported =>
    refine ⟨distinct.2, ?_⟩
    intro id reported present
    rw [LoadEvent.reportedIn_snoc] at reported
    cases List.mem_append.mp reported with
    | inl old =>
        apply keeps.unreported.2 id old
        change id ∈ (early ++ (load, outcome) :: late).map (·.1.id)
        rw [List.map_append, List.map_cons]
        rw [List.map_append] at present
        exact List.mem_append.mpr ((List.mem_append.mp present).imp_right (List.mem_cons_of_mem _))
    | inr new =>
        cases List.mem_singleton.mp new
        exact distinct.1 present

theorem elsewhere (keeps : Keeps history ⟨world, due⟩) (leaves : world.LeavesLoads after) :
    Keeps history ⟨after, due⟩ where
  sound := keeps.sound
  standing := leaves.openLoads.trans keeps.standing
  early load begun := by
    change load.id.index < after.nextLoad
    rw [leaves.nextLoad]
    exact keeps.early load begun
  known load stands counter under :=
    Nat.lt_of_lt_of_le (keeps.known load stands counter under) leaves.grown
  counted counter := (leaves.outstanding counter).trans (keeps.counted counter)
  due := keeps.due
  unreported := keeps.unreported

/-- Every step leaves of the longer history what the longer history says. -/
theorem step {next : LoadState α} {events : List (LoadEvent α)} (keeps : state.Keeps history)
    (step : state.Step events next) : next.Keeps (history ++ events) := by
  cases step with
  | begin loader known ran =>
      rw [beginLoad_eq] at ran
      cases ran
      exact keeps.begin known
  | complete outcome ran =>
      obtain ⟨found, same⟩ := endLoad_eq_some ran
      subst same
      exact keeps.complete found outcome
  | drop ran =>
      obtain ⟨found, same⟩ := endLoad_eq_some ran
      subst same
      exact keeps.ended found rfl ⟨_, keeps.mem_standing found, id_of_openLoad? found⟩
  | report => exact keeps.report.2
  | elsewhere leaves =>
      rw [List.append_nil]
      exact keeps.elsewhere leaves

end Keeps

theorem Runs.keeps {start state : LoadState α} {history : List (LoadEvent α)} (idle : start.Idle)
    (run : start.Runs history state) : state.Keeps history := by
  induction run with
  | refl => exact .initial idle
  | tail _ step ih => exact ih.step step

theorem Runs.trans {start state next : LoadState α} {history events : List (LoadEvent α)}
    (run : start.Runs history state) (later : state.Runs events next) :
    start.Runs (history ++ events) next := by
  induction later with
  | refl =>
      rw [List.append_nil]
      exact run
  | tail _ step ih =>
      rw [← List.append_assoc]
      exact ih.tail step

theorem Step.runs {state next : LoadState α} {events : List (LoadEvent α)}
    (step : state.Step events next) : state.Runs events next :=
  (Runs.refl state).tail step

/-! ### Loaders -/

theorem Keeps.openLoad? {state : LoadState α} {history : List (LoadEvent α)} {load : OpenLoad}
    (keeps : state.Keeps history) (stands : load ∈ LoadEvent.standingIn history) :
    state.world.openLoad? load.id = some load := by
  have distinct := keeps.standing_distinct
  rw [World.openLoad?, keeps.standing]
  cases found : (LoadEvent.standingIn history).find? fun other => other.id = load.id with
  | none => exact absurd (decide_eq_true rfl) (List.find?_eq_none.mp found load stands)
  | some other =>
      have chosen := List.find?_some found
      have sameId : other.id = load.id := of_decide_eq_true chosen
      have member := List.mem_of_find?_eq_some found
      exact congrArg some (List.inj_on_of_nodup_map distinct member stands sameId)

section Loaders

variable {start : LoadState α} {history events : List (LoadEvent α)} {world between after : World}
  {due later : List (OpenLoad × Except Fault α)} {id : LoadId} {load : OpenLoad}
  {counter : Option CounterId} {outcome : Except Fault α}

private theorem completeLoad_runs (due : List (OpenLoad × Except Fault α))
    (outcome : Except Fault α) (found : world.openLoad? id = some load) :
    ∃ notice, completeLoad id outcome world = (some notice, world.closed load) ∧
      (⟨world, due⟩ : LoadState α).Runs [.completed id outcome, .reported id notice]
        ⟨world.closed load, due⟩ := by
  have same := id_of_openLoad? found
  subst id
  refine ⟨_, completeLoad_open outcome found, ?_⟩
  have completes : Step ⟨world, due⟩ _ _ := .complete outcome (endLoad_open found)
  have reports : Step ⟨world.closed load, [] ++ (load, outcome) :: due⟩ _ _ := .report
  exact completes.runs.tail reports

private theorem abandonLoad_runs (due : List (OpenLoad × Except Fault α))
    (found : world.openLoad? id = some load) :
    abandonLoad id world = ((), world.closed load) ∧
      (⟨world, due⟩ : LoadState α).Runs [.dropped id] ⟨world.closed load, due⟩ := by
  constructor
  · exact bind_of_ran (endLoad_open found)
  · exact (Step.drop (endLoad_open found)).runs

private theorem beginLoad_runs (loader : Loader α)
    (known : ∀ id, counter = some id → id.index < world.store.counters.size) :
    (⟨world, due⟩ : LoadState α).Runs [.begun (world.nextOpen loader.property counter)]
      ⟨world.opened loader.property counter, due⟩ :=
  (Step.begin loader known (beginLoad_eq loader.property counter world)).runs

private theorem load_eq (loader : Loader α) (counter : Option CounterId) (world : World) :
    loader.load counter world = loader.start (world.nextOpen loader.property counter).id
      (world.opened loader.property counter) :=
  bind_of_ran (beginLoad_eq loader.property counter world)

private theorem working_runs (idle : start.Idle) (run : start.Runs history ⟨world, due⟩)
    (loader : Loader α) (known : ∀ id, counter = some id → id.index < world.store.counters.size)
    (working : Runs ⟨world.opened loader.property counter, due⟩ events ⟨between, later⟩)
    (waits : (world.nextOpen loader.property counter).id ∉ LoadEvent.endedIn events) :
    start.Runs (history ++ [.begun (world.nextOpen loader.property counter)] ++ events)
        ⟨between, later⟩ ∧
      between.openLoad? (world.nextOpen loader.property counter).id =
        some (world.nextOpen loader.property counter) := by
  have begun := (run.trans (beginLoad_runs loader known)).trans working
  have keeps := begun.keeps idle
  have fresh : (world.nextOpen loader.property counter).id ∉ LoadEvent.endedIn history := by
    intro ended
    obtain ⟨other, earlier, same⟩ :=
      List.mem_map.mp ((run.keeps idle).sound.endedIn_subset _ ended)
    have early := (run.keeps idle).early other earlier
    rw [same] at early
    exact Nat.lt_irrefl _ early
  refine ⟨begun, keeps.openLoad? (LoadEvent.mem_standingIn.mpr ⟨?_, ?_⟩)⟩
  · exact List.mem_append_left _ (List.mem_append_right _ (List.mem_singleton_self _))
  · intro ended
    rw [LoadEvent.endedIn, List.filterMap_append, List.filterMap_append, List.append_assoc] at ended
    cases List.mem_append.mp ended with
    | inl old => exact fresh old
    | inr new => exact waits new

/-- A load that ends with the outcome of some work, which may itself begin and end other loads. -/
theorem running_runs (idle : start.Idle) (run : start.Runs history ⟨world, due⟩) (property : String)
    (work : Act α) (known : ∀ id, counter = some id → id.index < world.store.counters.size)
    (worked : work.run (world.opened property counter) = (outcome, between))
    (whole : outcome ≠ .error .crash)
    (working : Runs ⟨world.opened property counter, due⟩ events ⟨between, later⟩)
    (waits : (world.nextOpen property counter).id ∉ LoadEvent.endedIn events) :
    ∃ notice after, (Loader.running property work).load counter world = (some notice, after) ∧
      start.Runs (history ++ [.begun (world.nextOpen property counter)] ++ events ++
        [.completed (world.nextOpen property counter).id outcome,
          .reported (world.nextOpen property counter).id notice]) ⟨after, later⟩ := by
  obtain ⟨begun, found⟩ := working_runs idle run (.running property work) known working waits
  obtain ⟨notice, completed, ends⟩ := completeLoad_runs later outcome found
  refine ⟨notice, _, ?_, begun.trans ends⟩
  refine (load_eq (.running property work) counter world).trans ((bind_of_ran worked).trans ?_)
  split
  · contradiction
  · exact completed

/-- A load whose work is broken off is dropped. -/
theorem running_crashed_runs (idle : start.Idle) (run : start.Runs history ⟨world, due⟩)
    (property : String) (work : Act α)
    (known : ∀ id, counter = some id → id.index < world.store.counters.size)
    (worked : work.run (world.opened property counter) = (.error .crash, between))
    (working : Runs ⟨world.opened property counter, due⟩ events ⟨between, later⟩)
    (waits : (world.nextOpen property counter).id ∉ LoadEvent.endedIn events) :
    ∃ after, (Loader.running property work).load counter world = (none, after) ∧
      start.Runs (history ++ [.begun (world.nextOpen property counter)] ++ events ++
        [.dropped (world.nextOpen property counter).id]) ⟨after, later⟩ := by
  obtain ⟨begun, found⟩ := working_runs idle run (.running property work) known working waits
  obtain ⟨dropped, ends⟩ := abandonLoad_runs later found
  refine ⟨_, ?_, begun.trans ends⟩
  refine (load_eq (.running property work) counter world).trans ?_
  exact (bind_of_ran worked).trans (bind_of_ran dropped)

/-- A load that is completed before its beginning returns. -/
theorem immediate_runs (idle : start.Idle) (run : start.Runs history ⟨world, due⟩)
    (property : String) (outcome : Except Fault α)
    (known : ∀ id, counter = some id → id.index < world.store.counters.size) :
    ∃ notice after, (Loader.immediate property outcome).load counter world = (some notice, after) ∧
      start.Runs (history ++ [.begun (world.nextOpen property counter)] ++ [] ++
        [.completed (world.nextOpen property counter).id outcome,
          .reported (world.nextOpen property counter).id notice]) ⟨after, due⟩ := by
  obtain ⟨begun, found⟩ :=
    working_runs idle run (.immediate property outcome) known (.refl _) nofun
  obtain ⟨notice, completed, ends⟩ := completeLoad_runs due outcome found
  refine ⟨notice, _, ?_, begun.trans ends⟩
  exact (load_eq (.immediate property outcome) counter world).trans completed

end Loaders

private theorem leavesLoads_newCounter (world : World) :
    world.LeavesLoads { world with store := world.store.newCounter.2 } where
  openLoads := rfl
  nextLoad := rfl
  grown := (Store.extends_newCounter world.store).counters_size_le
  outstanding counter := by
    by_cases inside : counter.index < world.store.counters.size
    · exact (Store.extends_newCounter world.store).outstanding_eq inside
    · have planted : world.store.Planted world.store.newCounter.2 :=
        (Store.planted_newCounter rfl).1
      have above := Nat.not_lt.mp inside
      refine (planted.counters counter above).trans ?_
      rw [Store.outstanding, Array.getElem?_eq_none_iff.mpr above]
      rfl

/-! ### What counters show and callbacks are told -/

/-- What counters show after a history, and what callbacks have been told in it. -/
structure Accounts (history : List (LoadEvent α)) (state : LoadState α) : Prop where
  /-- A counter shows its loads that have begun and are neither completed nor dropped. -/
  counted : ∀ counter,
    state.world.store.outstanding counter = LoadEvent.standingUnder history counter
  /-- No load begins twice or ends twice, and only a load that has begun ends. -/
  sound : LoadEvent.Sound history
  /-- A counter is loading when it shows a number above zero. -/
  loading : ∀ counter, 0 < state.world.store.outstanding counter ↔
    ∃ load, .begun load ∈ history ∧ load.counter = some counter ∧
      (∀ outcome, .completed load.id outcome ∉ history) ∧ .dropped load.id ∉ history
  /-- What takes a load off its counter never finds it at zero. -/
  positive : ∀ id load after counter, endLoad id state.world = (some load, after) →
    load.counter = some counter →
    state.world.store.outstanding counter = after.store.outstanding counter + 1
  reportedOnce : (LoadEvent.reportedIn history).Nodup
  silent : ∀ id notice, .dropped id ∈ history → .reported id notice ∉ history
  told : ∀ before id notice later, history = before ++ .reported id notice :: later →
    ∃ load, LoadEvent.Tells before id notice load

namespace Keeps

variable {state : LoadState α} {history : List (LoadEvent α)}

theorem loading (keeps : state.Keeps history) (counter : CounterId) :
    0 < state.world.store.outstanding counter ↔
      ∃ load, .begun load ∈ history ∧ load.counter = some counter ∧
        (∀ outcome, .completed load.id outcome ∉ history) ∧ .dropped load.id ∉ history := by
  rw [keeps.counted, LoadEvent.standingUnder, List.countP_pos_iff]
  constructor
  · intro shown
    obtain ⟨load, stands, under⟩ := shown
    obtain ⟨begun, unended⟩ := LoadEvent.mem_standingIn.mp stands
    refine ⟨load, begun, of_decide_eq_true under, ?_, ?_⟩
    · intro outcome completed
      exact unended (LoadEvent.mem_endedIn.mpr (.inl ⟨outcome, completed⟩))
    · intro dropped
      exact unended (LoadEvent.mem_endedIn.mpr (.inr dropped))
  · intro shown
    obtain ⟨load, begun, under, uncompleted, undropped⟩ := shown
    refine ⟨load, LoadEvent.mem_standingIn.mpr ⟨begun, ?_⟩, decide_eq_true under⟩
    intro ended
    cases LoadEvent.mem_endedIn.mp ended with
    | inl completed =>
        obtain ⟨outcome, present⟩ := completed
        exact uncompleted outcome present
    | inr dropped => exact undropped dropped

theorem positive (keeps : state.Keeps history) {id : LoadId} {load : OpenLoad} {after : World}
    {counter : CounterId} (ran : endLoad id state.world = (some load, after))
    (under : load.counter = some counter) :
    state.world.store.outstanding counter = after.store.outstanding counter + 1 := by
  obtain ⟨found, same⟩ := endLoad_eq_some ran
  subst same
  have stands := keeps.mem_standing found
  have counted := keeps.standingUnder_of_standing stands counter
  rw [if_pos under, ← keeps.counted] at counted
  change _ = (state.world.store.countIf load.counter (· - 1)).outstanding counter + 1
  rw [Store.outstanding_countIf (keeps.known load stands), if_pos under]
  omega

end Keeps

/-- Whatever loads any workers begin, complete and drop, in any order, and whatever callbacks do. -/
theorem runs_account {start state : LoadState α} {history : List (LoadEvent α)} (idle : start.Idle)
    (run : start.Runs history state) : state.Accounts history := by
  have keeps := run.keeps idle
  constructor
  case counted => exact keeps.counted
  case sound => exact keeps.sound
  case loading => exact keeps.loading
  case positive =>
    intro id load after counter ran under
    exact keeps.positive ran under
  case reportedOnce => exact keeps.sound.reportedIn_distinct
  case silent =>
    intro id notice dropped
    exact keeps.sound.not_reported dropped
  case told =>
    intro before id notice later split
    exact keeps.sound.follows split

/-! ### Two loads that share a counter

One is completed. Before its callback runs, another worker begins a third load; the callback begins a
fourth and drops it. Then the second load fails. -/

namespace Shared

def counter : Option CounterId := some ⟨0⟩

def made : World := { store := (Store.newCounter {}).2 }

def begun : World := (made.opened "Total" counter).opened "Name" counter

def completed : World := begun.closed ⟨⟨0⟩, "Total", counter⟩

def third : World := completed.opened "Notes" counter

def fourth : World := third.opened "More" counter

def dropped : World := fourth.closed ⟨⟨3⟩, "More", counter⟩

def failed : World := dropped.closed ⟨⟨1⟩, "Name", counter⟩

def due : List (OpenLoad × Except Fault Nat) := [(⟨⟨0⟩, "Total", counter⟩, .ok 1)]

def history : List (LoadEvent Nat) :=
  [.begun ⟨⟨0⟩, "Total", counter⟩, .begun ⟨⟨1⟩, "Name", counter⟩, .completed ⟨0⟩ (.ok 1),
    .begun ⟨⟨2⟩, "Notes", counter⟩, .reported ⟨0⟩ ⟨"Total", .ok 1, some 2⟩,
    .begun ⟨⟨3⟩, "More", counter⟩, .dropped ⟨3⟩, .completed ⟨1⟩ (.error .objectPoisoned),
    .reported ⟨1⟩ ⟨"Name", .error .objectPoisoned, some 1⟩]

end Shared

theorem Shared.known (world : World) (one : world.store.counters.size = 1) :
    ∀ id, Shared.counter = some id → id.index < world.store.counters.size := by
  intro id same
  cases same
  rw [one]
  exact Nat.one_pos

theorem Shared.runs :
    (⟨{}, []⟩ : LoadState Nat).Runs Shared.history ⟨Shared.failed, []⟩ := by
  have makes : Step (⟨{}, []⟩ : LoadState Nat) [] ⟨Shared.made, []⟩ :=
    .elsewhere (leavesLoads_newCounter {})
  have begins : Runs (⟨Shared.made, []⟩ : LoadState Nat) _ ⟨Shared.begun, []⟩ :=
    (beginLoad_runs (.parking "Total") (Shared.known _ rfl)).trans
      (beginLoad_runs (.parking "Name") (Shared.known _ rfl))
  have completes : Step ⟨Shared.begun, []⟩ [.completed ⟨0⟩ (.ok 1)]
      ⟨Shared.completed, Shared.due⟩ := .complete (.ok 1) (endLoad_open rfl)
  have beginsThird : Runs ⟨Shared.completed, Shared.due⟩ _ ⟨Shared.third, Shared.due⟩ :=
    beginLoad_runs (.parking "Notes") (Shared.known Shared.completed rfl)
  have reports : Step ⟨Shared.third, [] ++ Shared.due⟩ _ ⟨Shared.third, [] ++ []⟩ := .report
  have beginsFourth : Runs (⟨Shared.third, []⟩ : LoadState Nat) _ ⟨Shared.fourth, []⟩ :=
    beginLoad_runs (.parking "More") (Shared.known Shared.third rfl)
  have drops : Step (⟨Shared.fourth, []⟩ : LoadState Nat) [.dropped ⟨3⟩] ⟨Shared.dropped, []⟩ :=
    .drop (endLoad_open rfl)
  have failing : Shared.dropped.openLoad? ⟨1⟩ = some ⟨⟨1⟩, "Name", Shared.counter⟩ := rfl
  have completesSecond : Step (⟨Shared.dropped, []⟩ : LoadState Nat)
      [.completed ⟨1⟩ (.error .objectPoisoned)] _ := .complete _ (endLoad_open failing)
  have reportsSecond : Step (⟨Shared.failed, [] ++ [(⟨⟨1⟩, "Name", Shared.counter⟩,
      .error .objectPoisoned)]⟩ : LoadState Nat) _ ⟨Shared.failed, [] ++ []⟩ := .report
  have toThird := ((makes.runs.trans begins).tail completes).trans beginsThird
  exact ((((toThird.tail reports).trans beginsFourth).tail drops).tail completesSecond).tail
    reportsSecond

theorem runs_account_shared :
    (⟨{}, []⟩ : LoadState Nat).Idle ∧
      (⟨{}, []⟩ : LoadState Nat).Runs Shared.history ⟨Shared.failed, []⟩ ∧
        (⟨Shared.failed, []⟩ : LoadState Nat).Accounts Shared.history :=
  ⟨⟨rfl, fun _ => rfl, rfl⟩, Shared.runs, runs_account ⟨rfl, fun _ => rfl, rfl⟩ Shared.runs⟩

end LoadState

end ObjectCourier
