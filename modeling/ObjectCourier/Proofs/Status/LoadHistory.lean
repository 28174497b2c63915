import Mathlib.Data.List.Nodup
import Mathlib.Data.List.Pairwise
import ObjectCourier.Load

/-!
Histories of loads: what has begun, what has been completed or dropped, and what has been reported. A
history is sound when each event may follow on those before it; then no load ends or is reported twice.
-/

namespace ObjectCourier

/-- What happens to loads. Loads of several kinds have outcomes of one type, which may be a sum. -/
inductive LoadEvent (α : Type) where
  | begun (load : OpenLoad)
  | completed (id : LoadId) (outcome : Except Fault α)
  | dropped (id : LoadId)
  /-- The callback of the load runs and is given this. -/
  | reported (id : LoadId) (notice : Notice α)

namespace LoadEvent

variable {α : Type}

def begun? : LoadEvent α → Option OpenLoad
  | begun load => some load
  | _ => none

def ended? : LoadEvent α → Option LoadId
  | completed id _ => some id
  | dropped id => some id
  | _ => none

def reported? : LoadEvent α → Option LoadId
  | reported id _ => some id
  | _ => none

def begunIn (history : List (LoadEvent α)) : List OpenLoad := history.filterMap begun?

def endedIn (history : List (LoadEvent α)) : List LoadId := history.filterMap ended?

def reportedIn (history : List (LoadEvent α)) : List LoadId := history.filterMap reported?

/-- The loads that have begun and are neither completed nor dropped. -/
def standingIn (history : List (LoadEvent α)) : List OpenLoad :=
  (begunIn history).filter fun load => load.id ∉ endedIn history

def standingUnder (history : List (LoadEvent α)) (counter : CounterId) : Nat :=
  (standingIn history).countP fun load => load.counter = some counter

structure Tells (before : List (LoadEvent α)) (id : LoadId) (notice : Notice α) (load : OpenLoad) :
    Prop where
  same : load.id = id
  begun : .begun load ∈ before
  completed : .completed id notice.outcome ∈ before
  first : id ∉ reportedIn before
  property : notice.property = load.property
  outstanding : notice.outstanding = load.counter.map (standingUnder before)
  uncounted : load ∉ standingIn before

/-- An event that may follow on these events. -/
def Follows (before : List (LoadEvent α)) : LoadEvent α → Prop
  | begun load => load.id ∉ (begunIn before).map (·.id)
  | completed id _ | dropped id => ∃ load ∈ standingIn before, load.id = id
  | reported id notice => ∃ load, Tells before id notice load

inductive Sound : List (LoadEvent α) → Prop where
  | nil : Sound []
  | snoc {before event} (sound : Sound before) (follows : Follows before event) :
      Sound (before ++ [event])

variable {history before later : List (LoadEvent α)} {event : LoadEvent α} {load : OpenLoad}
  {id : LoadId} {outcome : Except Fault α} {notice : Notice α}

private theorem mem_begunIn : load ∈ begunIn history ↔ .begun load ∈ history := by
  constructor
  · intro member
    obtain ⟨event, present, same⟩ := List.mem_filterMap.mp member
    cases event with
    | begun other =>
        cases same
        exact present
    | completed | dropped | reported => cases same
  · intro present
    exact List.mem_filterMap.mpr ⟨_, present, rfl⟩

theorem mem_endedIn :
    id ∈ endedIn history ↔ (∃ outcome, .completed id outcome ∈ history) ∨ .dropped id ∈ history := by
  constructor
  · intro member
    obtain ⟨event, present, same⟩ := List.mem_filterMap.mp member
    cases event with
    | begun | reported => cases same
    | completed other outcome =>
        cases same
        exact .inl ⟨outcome, present⟩
    | dropped other =>
        cases same
        exact .inr present
  · intro ended
    cases ended with
    | inl completed =>
        obtain ⟨outcome, present⟩ := completed
        exact List.mem_filterMap.mpr ⟨_, present, rfl⟩
    | inr dropped => exact List.mem_filterMap.mpr ⟨_, dropped, rfl⟩

theorem mem_standingIn :
    load ∈ standingIn history ↔ .begun load ∈ history ∧ load.id ∉ endedIn history := by
  rw [standingIn, List.mem_filter, mem_begunIn, decide_eq_true_iff]

theorem begunIn_snoc : begunIn (history ++ [event]) = begunIn history ++ event.begun?.toList := by
  rw [begunIn, List.filterMap_append]
  cases event <;> rfl

private theorem endedIn_snoc : endedIn
    (history ++ [event]) = endedIn history ++ event.ended?.toList := by
  rw [endedIn, List.filterMap_append]
  cases event <;> rfl

theorem reportedIn_snoc :
    reportedIn (history ++ [event]) = reportedIn history ++ event.reported?.toList := by
  rw [reportedIn, List.filterMap_append]
  cases event <;> rfl

theorem standingIn_begun (fresh : load.id ∉ endedIn history) :
    standingIn (history ++ [.begun load]) = standingIn history ++ [load] := by
  have ended : endedIn (history ++ [.begun load]) = endedIn history := by
    rw [endedIn_snoc]
    exact List.append_nil _
  rw [standingIn, begunIn_snoc, ended, List.filter_append]
  exact congrArg (standingIn history ++ ·) (List.filter_cons_of_pos (decide_eq_true fresh))

theorem standingUnder_begun (fresh : load.id ∉ endedIn history) (counter : CounterId) :
    standingUnder (history ++ [.begun load]) counter =
      standingUnder history counter + if load.counter = some counter then 1 else 0 := by
  rw [standingUnder, standingIn_begun fresh, List.countP_append, List.countP_singleton]
  simp only [decide_eq_true_iff, standingUnder]

theorem standingIn_ended (ends : event.ended? = some id) :
    standingIn (history ++ [event]) = (standingIn history).filter fun load => load.id ≠ id := by
  have begun : begunIn (history ++ [event]) = begunIn history := by
    rw [begunIn_snoc]
    cases event with
    | begun load => cases ends
    | completed | dropped | reported => exact List.append_nil _
  rw [standingIn, begun, endedIn_snoc, ends, standingIn, List.filter_filter]
  apply List.filter_congr
  intro load _
  by_cases same : load.id = id <;> simp [same]

theorem standingIn_reported :
    standingIn (history ++ [.reported id notice]) = standingIn history := by
  rw [standingIn, begunIn_snoc, endedIn_snoc]
  simp only [begun?, ended?, Option.toList_none, List.append_nil]
  rfl

namespace Sound

theorem follows (sound : Sound history) (split : history = before ++ event :: later) :
    Follows before event := by
  induction sound generalizing later with
  | nil =>
      cases List.append_ne_nil_of_right_ne_nil before (List.cons_ne_nil event later) split.symm
  | @snoc earlier last sound follows ih =>
      cases List.eq_nil_or_concat later with
      | inl empty =>
          subst later
          obtain ⟨same, last⟩ := List.append_inj' split rfl
          cases same
          cases last
          exact follows
      | inr longer =>
          obtain ⟨inner, final, same⟩ := longer
          rw [same, List.concat_eq_append, ← List.cons_append, ← List.append_assoc] at split
          exact ih (List.append_inj' split rfl).1

theorem endedIn_subset (sound : Sound history) :
    ∀ id ∈ endedIn history, id ∈ (begunIn history).map (·.id) := by
  induction sound with
  | nil =>
      intro id member
      cases member
  | @snoc before event sound follows ih =>
      intro id member
      rw [endedIn_snoc] at member
      rw [begunIn_snoc, List.map_append]
      apply List.mem_append_left
      cases List.mem_append.mp member with
      | inl old => exact ih id old
      | inr new =>
          cases event with
          | begun | reported => cases new
          | completed | dropped =>
              cases List.mem_singleton.mp new
              obtain ⟨load, standing, same⟩ := follows
              exact List.mem_map.mpr ⟨load, (List.mem_filter.mp standing).1, same⟩

theorem begunIn_distinct (sound : Sound history) : ((begunIn history).map (·.id)).Nodup := by
  induction sound with
  | nil => exact List.nodup_nil
  | @snoc before event sound follows ih =>
      rw [begunIn_snoc, List.map_append]
      cases event with
      | begun load => exact ih.append (List.nodup_singleton _) (List.disjoint_singleton.mpr follows)
      | completed | dropped | reported =>
          simp only [begun?, Option.toList_none, List.map_nil, List.append_nil]
          exact ih

private theorem endedIn_distinct (sound : Sound history) : (endedIn history).Nodup := by
  induction sound with
  | nil => exact List.nodup_nil
  | @snoc before event sound follows ih =>
      rw [endedIn_snoc]
      cases event with
      | begun | reported =>
          simp only [ended?, Option.toList_none, List.append_nil]
          exact ih
      | completed | dropped =>
          obtain ⟨load, standing, same⟩ := follows
          subst same
          exact ih.append (List.nodup_singleton _)
            (List.disjoint_singleton.mpr (mem_standingIn.mp standing).2)

/-- No load is reported twice. -/
theorem reportedIn_distinct (sound : Sound history) : (reportedIn history).Nodup := by
  induction sound with
  | nil => exact List.nodup_nil
  | @snoc before event sound follows ih =>
      rw [reportedIn_snoc]
      cases event with
      | begun | completed | dropped =>
          simp only [reported?, Option.toList_none, List.append_nil]
          exact ih
      | reported id notice =>
          obtain ⟨load, tells⟩ := follows
          exact ih.append (List.nodup_singleton _) (List.disjoint_singleton.mpr tells.first)

private theorem ended_apart (sound : Sound history) {first second : LoadEvent α}
    (present : first ∈ history)
    (alsoPresent : second ∈ history) (different : first ≠ second) (ends : first.ended? = some id) :
    second.ended? ≠ some id := by
  intro endsToo
  have apart := List.pairwise_filterMap.mp sound.endedIn_distinct
  have symmetric : Std.Symm fun first second : LoadEvent α =>
      ∀ id, first.ended? = some id → ∀ other, second.ended? = some other → id ≠ other :=
    ⟨fun _ _ apart id ends other endsOther same => apart other endsOther id ends same.symm⟩
  exact apart.forall present alsoPresent different id ends id endsToo rfl

/-- Only completed loads are reported. -/
theorem completed_of_reported (sound : Sound history) (reported : .reported id notice ∈ history) :
    .completed id notice.outcome ∈ history := by
  obtain ⟨before, later, split⟩ := List.append_of_mem reported
  obtain ⟨load, tells⟩ := sound.follows split
  rw [split]
  exact List.mem_append_left _ tells.completed

/-- A dropped load is not reported. -/
theorem not_reported (sound : Sound history) (dropped : .dropped id ∈ history) :
    .reported id notice ∉ history := by
  intro reported
  exact sound.ended_apart dropped (sound.completed_of_reported reported) nofun rfl rfl

end Sound

end LoadEvent

end ObjectCourier
