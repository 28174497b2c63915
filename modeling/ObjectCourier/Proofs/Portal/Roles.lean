import ObjectCourier.Portal.Authorization

/-!
What registered rules come to. However rules are registered, a principal may run an operation on a
type exactly when every rule for just that type and operation permits it. So the order of the rules,
their repetitions and the rules for anything else do not matter, and one more rule only takes away.
-/

namespace ObjectCourier

private theorem Principal.isInRole_iff {principal : Principal} {role : String} :
    principal.isInRole role = true ↔ role ∈ principal.roles.names := by
  unfold isInRole Dictionary.contains Dictionary.get? Dictionary.names
  simp only [Option.isSome_map, List.find?_isSome, decide_eq_true_eq, List.mem_map]

/-- What the rule asks of a principal. -/
def RoleRule.Permits (principal : Principal) : RoleRule → Prop
  | isInRole roles => ∃ role ∈ roles, role ∈ principal.roles.names
  | isNotInRole roles => ∀ role ∈ roles, role ∉ principal.roles.names

private theorem RoleRule.allows_iff {principal : Principal} {rule : RoleRule} :
    rule.allows principal = true ↔ rule.Permits principal := by
  cases rule with
  | isInRole roles => simp [allows, Permits, Principal.isInRole_iff]
  | isNotInRole roles =>
      simp only [allows, Permits, Bool.not_eq_true', List.any_eq_false, Principal.isInRole_iff]

inductive Registration where
  | add (typeKey : String) (operation : Operation) (rule : RoleRule)
  | allow (type : ObjType) (operation : Operation) (roles : List String)
  | deny (type : ObjType) (operation : Operation) (roles : List String)

namespace Registration

def carryOut (rules : RoleRules) : Registration → RoleRules
  | add typeKey operation rule => rules.add typeKey operation rule
  | allow type operation roles => rules.allow type operation roles
  | deny type operation roles => rules.deny type operation roles

def pair : Registration → String × Operation
  | add typeKey operation _ => (typeKey, operation)
  | allow type operation _ | deny type operation _ => (type.key, operation)

def rule : Registration → RoleRule
  | add _ _ rule => rule
  | allow _ _ roles => .isInRole roles
  | deny _ _ roles => .isNotInRole roles

private theorem carryOut_eq (rules : RoleRules) (registration : Registration) :
    registration.carryOut rules =
      rules.add registration.pair.1 registration.pair.2 registration.rule := by
  cases registration <;> rfl

end Registration

namespace RoleRules

/-- The rules after all registrations. -/
def registered (registrations : List Registration) : RoleRules :=
  registrations.foldl Registration.carryOut {}

def group (rules : RoleRules) (pair : String × Operation) : List RoleRule :=
  ((rules.groups.find? (·.1 = pair)).map Prod.snd).getD []

private theorem authorizer_eq (rules : RoleRules) (operation : Operation) (typeKey : String)
    (principal : Principal) : rules.authorizer operation typeKey principal =
      (rules.group (typeKey, operation)).all (·.allows principal) := by
  unfold authorizer group
  cases rules.groups.find? (·.1 = (typeKey, operation)) <;> rfl

private theorem group_addToGroup (pair other : String × Operation) (rule : RoleRule)
    (groups : List ((String × Operation) × List RoleRule)) :
    group ⟨addToGroup pair rule groups⟩ other =
      group ⟨groups⟩ other ++ if pair = other then [rule] else [] := by
  induction groups with
  | nil => by_cases same : pair = other <;> simp [group, addToGroup, same]
  | cons first others ih =>
      obtain ⟨owner, rules⟩ := first
      unfold group at ih ⊢
      by_cases here : owner = pair
      · by_cases same : pair = other <;> simp [addToGroup, here, same]
      · by_cases found : owner = other
        · have apart : pair ≠ other := fun same => here (found.trans same.symm)
          simp [addToGroup, found, apart, apart.symm]
        · simp [addToGroup, here, found, ih]

private theorem group_carryOut (rules : RoleRules) (registration : Registration)
    (pair : String × Operation) : (registration.carryOut rules).group pair =
      rules.group pair ++ if registration.pair = pair then [registration.rule] else [] := by
  rw [registration.carryOut_eq]
  exact group_addToGroup registration.pair pair registration.rule rules.groups

private theorem group_foldl (registrations : List Registration) (rules : RoleRules)
    (pair : String × Operation) : (registrations.foldl Registration.carryOut rules).group pair =
      rules.group pair ++ (registrations.filter (·.pair = pair)).map Registration.rule := by
  induction registrations generalizing rules with
  | nil => simp
  | cons first others ih =>
      rw [List.foldl_cons, ih, group_carryOut]
      by_cases same : first.pair = pair <;> simp [same]

/-- The principal has what every rule asks that is registered for the pair. -/
theorem authorizer_registered_iff {registrations : List Registration} {operation : Operation}
    {typeKey : String} {principal : Principal} :
    (registered registrations).authorizer operation typeKey principal = true ↔
      ∀ registration ∈ registrations, registration.pair = (typeKey, operation) →
        registration.rule.Permits principal := by
  have rules : (registered registrations).group (typeKey, operation) =
      (registrations.filter (·.pair = (typeKey, operation))).map Registration.rule :=
    group_foldl registrations {} (typeKey, operation)
  rw [authorizer_eq, rules]
  simp only [List.all_eq_true, List.mem_map, List.mem_filter, decide_eq_true_eq,
    forall_exists_index, and_imp, RoleRule.allows_iff]
  constructor
  · intro each registration member same
    exact each registration.rule registration member same rfl
  · intro each rule registration member same equal
    rw [← equal]
    exact each registration member same

private theorem authorizer_congr {registrations others : List Registration} {operation : Operation}
    {typeKey : String} {principal : Principal}
    (alike : (∀ registration ∈ registrations, registration.pair = (typeKey, operation) →
        registration.rule.Permits principal) ↔
      ∀ registration ∈ others, registration.pair = (typeKey, operation) →
        registration.rule.Permits principal) :
    (registered others).authorizer operation typeKey principal =
      (registered registrations).authorizer operation typeKey principal := by
  rw [Bool.eq_iff_iff, authorizer_registered_iff, authorizer_registered_iff]
  exact alike.symm

private theorem forall_mem_insert_iff {early late : List Registration} {more : Registration}
    {holds : Registration → Prop} :
    (∀ registration ∈ early ++ more :: late, holds registration) ↔
      holds more ∧ ∀ registration ∈ early ++ late, holds registration := by
  have moved (registration : Registration) :
      registration ∈ early ++ more :: late ↔ registration ∈ more :: (early ++ late) :=
    List.perm_middle.mem_iff
  simp only [moved, List.forall_mem_cons]

/-- What the registered rules decide for one operation on one type. -/
structure Decides (registrations : List Registration) (operation : Operation) (typeKey : String)
    (principal : Principal) : Prop where
  conjunction : (registered registrations).authorizer operation typeKey principal = true ↔
    ∀ registration ∈ registrations, registration.pair = (typeKey, operation) →
      registration.rule.Permits principal
  /-- Neither the order matters nor what is registered for other pairs. -/
  arranged : ∀ others : List Registration,
    (registrations.filter (·.pair = (typeKey, operation))).Perm
      (others.filter (·.pair = (typeKey, operation))) →
    (registered others).authorizer operation typeKey principal =
      (registered registrations).authorizer operation typeKey principal
  repeated : ∀ early late again, registrations = early ++ late →
    (∃ earlier ∈ registrations, earlier.pair = again.pair ∧ earlier.rule = again.rule) →
    (registered (early ++ again :: late)).authorizer operation typeKey principal =
      (registered registrations).authorizer operation typeKey principal
  further : ∀ early late more, registrations = early ++ late →
    (registered (early ++ more :: late)).authorizer operation typeKey principal = true →
    (registered registrations).authorizer operation typeKey principal = true

/-- Whatever has been registered, the rules for an operation on a type are a conjunction. -/
theorem rules_conjoin (registrations : List Registration) (operation : Operation)
    (typeKey : String) (principal : Principal) :
    Decides registrations operation typeKey principal where
  conjunction := authorizer_registered_iff
  arranged := by
    intro others perm
    apply authorizer_congr
    have same (registration : Registration) := perm.mem_iff (a := registration)
    simp only [List.mem_filter, decide_eq_true_eq] at same
    constructor
    · intro each registration member pair
      exact each registration ((same registration).mpr ⟨member, pair⟩).1 pair
    · intro each registration member pair
      exact each registration ((same registration).mp ⟨member, pair⟩).1 pair
  repeated := by
    intro early late again split known
    apply authorizer_congr
    obtain ⟨earlier, member, samePair, sameRule⟩ := known
    subst split
    rw [forall_mem_insert_iff]
    constructor
    · intro each
      refine ⟨fun pair => ?_, each⟩
      rw [← sameRule]
      exact each earlier member (samePair.trans pair)
    · intro each
      exact each.2
  further := by
    intro early late more split allowed
    subst split
    rw [authorizer_registered_iff, forall_mem_insert_iff] at allowed
    exact authorizer_registered_iff.mpr allowed.2

/-- Two rules for one pair, and none for another. -/
example :
    let rules := registered [.add "demo::Order" .fetch (.isInRole ["Clerk"]),
      .add "demo::Order" .fetch (.isNotInRole ["Suspended"])]
    let decisions (operation : Operation) := [Principal.user "ann" ["Clerk"],
      .user "bob" ["Clerk", "Suspended"], .anonymous].map (rules.authorizer operation "demo::Order")
    decisions .fetch = [true, false, false] ∧ decisions .delete = [true, true, true] := by
  decide +kernel

end RoleRules

end ObjectCourier
