import ObjectCourier.Fault
import ObjectCourier.Portal.Context
import ObjectCourier.Schema.FieldType

/-!
Authorization. An authorizer decides whether a principal may run an operation on a type. The role
authorizer asks every rule that is registered for exactly that operation and type; without a rule
everything is allowed.
-/

namespace ObjectCourier

abbrev Authorizer := (operation : Operation) → (typeKey : String) → Principal → Bool

namespace Authorizer

def allowAll : Authorizer := fun _ _ _ => true

/-- Only authenticated principals may do anything. -/
def authenticated : Authorizer := fun _ _ principal => principal.authenticated

end Authorizer

inductive RoleRule where
  /-- The principal needs one of the roles. -/
  | isInRole (roles : List String)
  /-- The principal must have none of the roles. -/
  | isNotInRole (roles : List String)
  deriving DecidableEq, Repr

def RoleRule.allows (principal : Principal) : RoleRule → Bool
  | isInRole roles => roles.any principal.isInRole
  | isNotInRole roles => !roles.any principal.isInRole

structure RoleRules where
  groups : List ((String × Operation) × List RoleRule) := []

namespace RoleRules

/-- Add a rule to the group of its type and operation, which is begun if there is none. -/
def addToGroup (pair : String × Operation) (rule : RoleRule) :
    List ((String × Operation) × List RoleRule) → List ((String × Operation) × List RoleRule)
  | [] => [(pair, [rule])]
  | (other, rules) :: rest =>
      if other = pair then (other, rules ++ [rule]) :: rest
      else (other, rules) :: addToGroup pair rule rest

def add (rules : RoleRules) (typeKey : String) (operation : Operation) (rule : RoleRule) :
    RoleRules :=
  ⟨addToGroup (typeKey, operation) rule rules.groups⟩

def allow (rules : RoleRules) (type : ObjType) (operation : Operation) (roles : List String) :
    RoleRules :=
  rules.add type.key operation (.isInRole roles)

def deny (rules : RoleRules) (type : ObjType) (operation : Operation) (roles : List String) :
    RoleRules :=
  rules.add type.key operation (.isNotInRole roles)

/-- Every rule of the group must allow the principal. -/
def authorizer (rules : RoleRules) : Authorizer := fun operation typeKey principal =>
  match rules.groups.find? (·.1 = (typeKey, operation)) with
  | some (_, group) => group.all (·.allows principal)
  | none => true

end RoleRules

end ObjectCourier
