import Mathlib.Data.List.Forall2

/-!
Outcomes of steps in sequence. A sequence of steps that may fail succeeds exactly when every step
does, each on the results of the steps before it.
-/

namespace ObjectCourier

variable {α β ε : Type}

theorem bind_eq_ok {first : Except ε α} {next : α → Except ε β} {result : β} :
    (first >>= next) = .ok result ↔ ∃ value, first = .ok value ∧ next value = .ok result := by
  cases first with
  | error fault =>
      constructor
      · intro failed
        cases failed
      · rintro ⟨value, failed, _⟩
        cases failed
  | ok value =>
      constructor
      · intro found
        exact ⟨value, rfl, found⟩
      · rintro ⟨other, same, found⟩
        cases same
        exact found

theorem map_eq_ok {change : α → β} {outcome : Except ε α} {result : β} :
    outcome.map change = .ok result ↔ ∃ value, outcome = .ok value ∧ change value = result := by
  cases outcome with
  | error fault =>
      constructor
      · intro failed
        cases failed
      · rintro ⟨value, failed, _⟩
        cases failed
  | ok value =>
      constructor
      · intro found
        exact ⟨value, rfl, Except.ok.inj found⟩
      · rintro ⟨other, same, found⟩
        cases same
        exact congrArg Except.ok found

theorem mapError_eq_ok {ε' : Type} {change : ε → ε'} {outcome : Except ε α} {result : α} :
    outcome.mapError change = .ok result ↔ outcome = .ok result := by
  cases outcome with
  | error fault => exact ⟨nofun, nofun⟩
  | ok value => exact ⟨fun same => congrArg Except.ok (Except.ok.inj same), congrArg _⟩

theorem mapM_eq_ok {visit : α → Except ε β} {items : List α} {results : List β} :
    items.mapM visit = .ok results ↔
      List.Forall₂ (fun item result => visit item = .ok result) items results := by
  induction items generalizing results with
  | nil =>
      rw [List.mapM_nil, List.forall₂_nil_left_iff]
      constructor
      · intro same
        cases same
        rfl
      · rintro rfl
        rfl
  | cons first others ih =>
      rw [List.mapM_cons, List.forall₂_cons_left_iff, bind_eq_ok]
      constructor
      · rintro ⟨head, headFound, found⟩
        obtain ⟨tail, tailFound, same⟩ := bind_eq_ok.mp found
        cases same
        exact ⟨head, tail, headFound, ih.mp tailFound, rfl⟩
      · rintro ⟨head, tail, headFound, tailFound, rfl⟩
        exact ⟨head, headFound, bind_eq_ok.mpr ⟨tail, ih.mpr tailFound, rfl⟩⟩

theorem mapM_congr {visit other : α → Except ε β} {items : List α}
    (same : ∀ item ∈ items, visit item = other item) : items.mapM visit = items.mapM other := by
  induction items with
  | nil => rfl
  | cons first others ih =>
      rw [List.mapM_cons, List.mapM_cons, same first List.mem_cons_self,
        ih fun item later => same item (List.mem_cons_of_mem _ later)]

theorem ok_ne_error (value : α) (fault : ε) : (.ok value : Except ε α) ≠ .error fault := by
  rintro ⟨⟩

theorem exists_ok (value : α) : ∃ result, (.ok value : Except ε α) = .ok result := ⟨value, rfl⟩

theorem not_exists_ok (fault : ε) : ¬∃ result, (.error fault : Except ε α) = .ok result := by
  rintro ⟨result, failed⟩
  cases failed

theorem exists_bind_eq_ok {first : Except ε α} {next : α → Except ε β} :
    (∃ result, (first >>= next) = .ok result) ↔
      ∃ value, first = .ok value ∧ ∃ result, next value = .ok result := by
  simp only [bind_eq_ok]
  constructor
  · rintro ⟨result, value, found, last⟩
    exact ⟨value, found, result, last⟩
  · rintro ⟨value, found, result, last⟩
    exact ⟨result, value, found, last⟩

theorem exists_mapM_eq_ok {visit : α → Except ε β} {items : List α} :
    (∃ results, items.mapM visit = .ok results) ↔
      ∀ item ∈ items, ∃ result, visit item = .ok result := by
  induction items with
  | nil => simp [pure, Except.pure]
  | cons first others ih =>
      rw [List.mapM_cons, List.forall_mem_cons, ← ih, exists_bind_eq_ok]
      constructor
      · rintro ⟨head, found, all⟩
        obtain ⟨tail, rest, _⟩ := exists_bind_eq_ok.mp all
        exact ⟨⟨head, found⟩, tail, rest⟩
      · rintro ⟨⟨head, found⟩, tail, rest⟩
        exact ⟨head, found, exists_bind_eq_ok.mpr ⟨tail, rest, _, rfl⟩⟩

theorem forM_eq_ok {check : α → Except ε Unit} {items : List α}
    (each : ∀ item ∈ items, check item = .ok ()) : items.forM check = .ok () := by
  induction items with
  | nil => rfl
  | cons first others ih =>
      refine bind_eq_ok.mpr ⟨(), each first List.mem_cons_self, ?_⟩
      exact ih fun item later => each item (List.mem_cons_of_mem _ later)

theorem of_forM_eq_ok {check : α → Except ε Unit} {items : List α} (passed : items.forM check = .ok ())
    {item : α} (member : item ∈ items) : check item = .ok () := by
  induction items with
  | nil => cases member
  | cons first others ih =>
      obtain ⟨value, checked, rest⟩ := bind_eq_ok.mp passed
      rcases List.mem_cons.mp member with rfl | later
      · exact checked
      · exact ih rest later

theorem exists_of_forM_eq_error {check : α → Except ε Unit} {items : List α} {fault : ε}
    (failed : items.forM check = .error fault) :
    ∃ before item after, items = before ++ item :: after ∧
      (∀ other ∈ before, check other = .ok ()) ∧ check item = .error fault := by
  induction items with
  | nil => cases failed
  | cons first others ih =>
      have step : (first :: others).forM check = check first >>= fun _ => others.forM check := rfl
      rw [step] at failed
      cases checked : check first with
      | error other =>
          rw [checked] at failed
          cases failed
          exact ⟨[], first, others, rfl, nofun, checked⟩
      | ok value =>
          rw [checked] at failed
          obtain ⟨before, item, after, rfl, sound, here⟩ := ih failed
          refine ⟨first :: before, item, after, rfl, fun other member => ?_, here⟩
          rcases List.mem_cons.mp member with rfl | later
          · exact checked
          · exact sound other later

theorem exists_forall₂_of_mem {related : α → β → Prop} {items : List α}
    (each : ∀ item ∈ items, ∃ result, related item result) :
    ∃ results, List.Forall₂ related items results := by
  induction items with
  | nil => exact ⟨[], .nil⟩
  | cons first others ih =>
      obtain ⟨head, here⟩ := each first List.mem_cons_self
      obtain ⟨tail, there⟩ := ih fun item later => each item (List.mem_cons_of_mem _ later)
      exact ⟨head :: tail, .cons here there⟩

theorem exists_forall₂ {α β γ : Type} {first : α → β → Prop} {second : β → γ → Prop}
    {both : α → γ → Prop} {left : List α} {middle : List β} (alike : List.Forall₂ first left middle)
    (each : ∀ left middle, first left middle → ∃ right, second middle right ∧ both left right) :
    ∃ right, List.Forall₂ second middle right ∧ List.Forall₂ both left right := by
  induction alike with
  | nil => exact ⟨[], .nil, .nil⟩
  | cons head _ ih =>
      obtain ⟨item, found, both⟩ := each _ _ head
      obtain ⟨others, tail, bothTail⟩ := ih
      exact ⟨item :: others, .cons found tail, .cons both bothTail⟩

theorem exists_middle_of_forall₂ {α β γ : Type} {first : α → β → Prop} {second : β → γ → Prop}
    {left : List α} {right : List γ}
    (alike : List.Forall₂ (fun left right => ∃ middle, first left middle ∧ second middle right) left
      right) :
    ∃ middle, List.Forall₂ first left middle ∧ List.Forall₂ second middle right := by
  induction alike with
  | nil => exact ⟨[], .nil, .nil⟩
  | cons head _ ih =>
      obtain ⟨item, found, made⟩ := head
      obtain ⟨others, before, after⟩ := ih
      exact ⟨item :: others, .cons found before, .cons made after⟩

theorem exists_right_of_forall₂ {related : α → β → Prop} {left : List α} {right : List β}
    (alike : List.Forall₂ related left right) {item : α} (member : item ∈ left) :
    ∃ result ∈ right, related item result := by
  induction alike with
  | nil => cases member
  | cons head _ ih =>
      rcases List.mem_cons.mp member with rfl | later
      · exact ⟨_, List.mem_cons_self, head⟩
      · obtain ⟨result, present, both⟩ := ih later
        exact ⟨result, List.mem_cons_of_mem _ present, both⟩

theorem map_eq_of_forall₂ {γ : Type} {related : α → β → Prop} {first : α → γ} {second : β → γ}
    {left : List α} {right : List β} (alike : List.Forall₂ related left right)
    (same : ∀ left right, related left right → second right = first left) :
    right.map second = left.map first := by
  induction alike with
  | nil => rfl
  | cons head _ ih => rw [List.map_cons, List.map_cons, ih, same _ _ head]

theorem filterMap_eq_of_forall₂ {γ : Type} {related : α → β → Prop} {first : α → Option γ}
    {second : β → Option γ} {left : List α} {right : List β}
    (alike : List.Forall₂ related left right)
    (same : ∀ left right, related left right → second right = first left) :
    right.filterMap second = left.filterMap first := by
  induction alike with
  | nil => rfl
  | cons head _ ih => rw [List.filterMap_cons, List.filterMap_cons, ih, same _ _ head]

theorem eq_of_forall₂ {left right : List α}
    (alike : List.Forall₂ (fun left right => right = left) left right) : right = left := by
  have same := alike.flip
  rwa [List.forall₂_eq_eq_eq] at same

/-- The outcome may be a fault, but then it is one of these. -/
def FailsOnly (allowed : ε → Prop) (outcome : Except ε α) : Prop :=
  ∀ fault, outcome = .error fault → allowed fault

section FailsOnly

variable {allowed : ε → Prop}

theorem failsOnly_ok (value : α) : FailsOnly allowed (.ok value : Except ε α) := nofun

theorem failsOnly_error {fault : ε} (holds : allowed fault) :
    FailsOnly allowed (.error fault : Except ε α) := by
  rintro _ ⟨⟩
  exact holds

/-- A sequence of steps fails in a way in which one of its steps fails. -/
theorem FailsOnly.bind_of_ok {first : Except ε α} {next : α → Except ε β}
    (head : FailsOnly allowed first)
    (tail : ∀ value, first = .ok value → FailsOnly allowed (next value)) :
    FailsOnly allowed (first >>= next) := by
  cases first with
  | error fault => exact failsOnly_error (head fault rfl)
  | ok value => exact tail value rfl

theorem FailsOnly.bind {first : Except ε α} {next : α → Except ε β}
    (head : FailsOnly allowed first) (tail : ∀ value, FailsOnly allowed (next value)) :
    FailsOnly allowed (first >>= next) := head.bind_of_ok fun value _ => tail value

theorem FailsOnly.map {outcome : Except ε α} (only : FailsOnly allowed outcome) (change : α → β) :
    FailsOnly allowed (outcome.map change) := by
  cases outcome with
  | error fault => exact failsOnly_error (only fault rfl)
  | ok value => exact failsOnly_ok _

theorem FailsOnly.mono {permitted : ε → Prop} {outcome : Except ε α}
    (only : FailsOnly allowed outcome) (each : ∀ fault, allowed fault → permitted fault) :
    FailsOnly permitted outcome := fun fault failed => each fault (only fault failed)

theorem FailsOnly.mapError {ε' : Type} {permitted : ε' → Prop} {change : ε → ε'}
    {outcome : Except ε α} (only : FailsOnly allowed outcome)
    (each : ∀ fault, allowed fault → permitted (change fault)) :
    FailsOnly permitted (outcome.mapError change) := by
  cases outcome with
  | error fault => exact failsOnly_error (each fault (only fault rfl))
  | ok value => exact failsOnly_ok value

theorem failsOnly_mapM {visit : α → Except ε β} {items : List α}
    (each : ∀ item ∈ items, FailsOnly allowed (visit item)) :
    FailsOnly allowed (items.mapM visit) := by
  induction items with
  | nil =>
      rw [List.mapM_nil]
      exact failsOnly_ok []
  | cons first others ih =>
      rw [List.mapM_cons]
      exact (each first List.mem_cons_self).bind fun _ =>
        (ih fun item later => each item (List.mem_cons_of_mem _ later)).bind fun _ => failsOnly_ok _

theorem failsOnly_forM {check : α → Except ε Unit} {items : List α}
    (each : ∀ item, FailsOnly allowed (check item)) : FailsOnly allowed (items.forM check) := by
  induction items with
  | nil => exact failsOnly_ok ()
  | cons first others ih => exact (each first).bind fun _ => ih

end FailsOnly

variable {σ : Type}

theorem bind_of_ran {first : StateM σ α} {next : α → StateM σ β} {before between : σ} {value : α}
    (ran : first before = (value, between)) : (first >>= next) before = next value between := by
  change next (first before).1 (first before).2 = _
  rw [ran]

theorem bind_of_ran_ok {first : ExceptT ε (StateM σ) α} {next : α → ExceptT ε (StateM σ) β}
    {before between : σ} {value : α} (ran : first before = (.ok value, between)) :
    (first >>= next) before = next value between := by
  change (match first before with
    | (outcome, between) => ExceptT.bindCont next outcome between) = _
  rw [ran]
  rfl

theorem bind_of_ran_error {first : ExceptT ε (StateM σ) α} {next : α → ExceptT ε (StateM σ) β}
    {before between : σ} {fault : ε} (ran : first before = (.error fault, between)) :
    (first >>= next) before = (.error fault, between) := by
  change (match first before with
    | (outcome, between) => ExceptT.bindCont next outcome between) = _
  rw [ran]
  rfl

theorem failsOnly_bind_run {allowed : ε → Prop} {first : ExceptT ε (StateM σ) α}
    {next : α → ExceptT ε (StateM σ) β} {before : σ} (head : FailsOnly allowed (first before).1)
    (tail : ∀ value between, FailsOnly allowed (next value between).1) :
    FailsOnly allowed ((first >>= next) before).1 := by
  rcases ran : first before with ⟨outcome, between⟩
  cases outcome with
  | error fault =>
      rw [bind_of_ran_error ran]
      rw [ran] at head
      exact failsOnly_error (head fault rfl)
  | ok value =>
      rw [bind_of_ran_ok ran]
      exact tail value between

theorem exists_of_bind_ran {first : ExceptT ε (StateM σ) α} {next : α → ExceptT ε (StateM σ) β}
    {before after : σ} {result : β} (ran : (first >>= next) before = (.ok result, after)) :
    ∃ value between, first before = (.ok value, between) ∧ next value between = (.ok result, after) := by
  change (match first before with
    | (outcome, between) => ExceptT.bindCont next outcome between) = _ at ran
  match found : first before with
  | (.ok value, between) =>
      rw [found] at ran
      exact ⟨value, between, rfl, ran⟩
  | (.error fault, between) =>
      rw [found] at ran
      cases ran

theorem mapM_some_run {visit : α → ExceptT ε (StateM σ) β} (item : α) (before : σ) :
    (some item).mapM visit before = ((visit item before).1.map some, (visit item before).2) := by
  rcases ran : visit item before with ⟨outcome, after⟩
  cases outcome with
  | error fault => exact bind_of_ran_error ran
  | ok result => exact bind_of_ran_ok ran

theorem mapM_some_of_ran {visit : α → ExceptT ε (StateM σ) β} {item : α} {before after : σ}
    {result : β} (ran : visit item before = (.ok result, after)) :
    (some item).mapM visit before = (.ok (some result), after) :=
  (bind_of_ran_ok ran).trans rfl

theorem exists_of_mapM_some_ran {visit : α → ExceptT ε (StateM σ) β} {item : α} {before after : σ}
    {result : Option β} (ran : (some item).mapM visit before = (.ok result, after)) :
    ∃ value, visit item before = (.ok value, after) ∧ result = some value := by
  obtain ⟨value, between, found, same⟩ := exists_of_bind_ran ran
  cases same
  exact ⟨value, found, rfl⟩

end ObjectCourier
