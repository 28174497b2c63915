import ObjectCourier.Event
import ObjectCourier.Object.Initial
import ObjectCourier.Portal.Context
import ObjectCourier.Portal.Criteria

/-!
The state that actions change: the objects, the shared contexts, the loads that have not ended, and
what is written down about the work: the log, the calls that cross the portal's borders, and the
journal that data access code keeps. An action that fails keeps what it has changed.
-/

namespace ObjectCourier

/-- The identity of a context that several dispatchers may share. -/
structure ContextId where
  index : Nat
  deriving DecidableEq, Repr, Inhabited

structure LoadId where
  index : Nat
  deriving DecidableEq, Repr, Inhabited

/-- A load whose end has not been reported. Its counter counts it until then. -/
structure OpenLoad where
  id : LoadId
  property : String
  counter : Option CounterId
  deriving DecidableEq, Repr

/-- A call to something that is plugged into the portal. -/
inductive Call where
  | consulted (operation : Operation) (typeKey : String) (principal : Principal)
  | sent (request : Bytes)
  | accessed (operation : Operation) (typeKey : String) (criteria : Option Criteria)
      (target : Option Ref) (context : Context)

namespace Call

def isConsulted : Call → Bool
  | consulted .. => true
  | _ => false

def isSent : Call → Bool
  | sent _ => true
  | _ => false

def isAccessed : Call → Bool
  | accessed .. => true
  | _ => false

end Call

/-- A line of the journal: what data access code was asked to do, and in which context. -/
structure JournalEntry where
  call : String
  context : Context

structure World where
  store : Store := {}
  contexts : Array Context := #[]
  openLoads : List OpenLoad := []
  nextLoad : Nat := 0
  log : List Event := []
  calls : List Call := []
  journal : List JournalEntry := []

instance : Inhabited World := ⟨{}⟩

/-- An action on the world that may fail. -/
abbrev Act := ExceptT Fault (StateM World)

namespace World

def note (world : World) (events : List Event) : World :=
  { world with log := world.log ++ events }

def context (world : World) (id : ContextId) : Context := world.contexts[id.index]?.getD {}

end World

def onStore {α : Type} (change : StateM Store α) : StateM World α := fun world =>
  let (result, store) := change world.store
  (result, { world with store := store })

/-- An outcome that is known already. -/
def Act.ofExcept {α : Type} (outcome : Except Fault α) : Act α := ExceptT.mk (pure outcome)

/-- Take the outcome of an action as a value. A crash is none, and goes on. -/
def Act.attempt {α : Type} (action : Act α) : Act (Except Fault α) :=
  ExceptT.mk do
    match ← action.run with
    | .error .crash => return .error .crash
    | outcome => return .ok outcome

def Act.onStore {α : Type} (change : StateM Store α) : Act α :=
  liftM (ObjectCourier.onStore change)

def fromStore {α : Type} (query : Store → Except Fault α) : Act α := do
  Act.ofExcept (query (← get).store)

def note (event : Event) : StateM World Unit := modify fun world => world.note [event]

def record (call : Call) : StateM World Unit :=
  modify fun world => { world with calls := world.calls ++ [call] }

def newContext (context : Context) : StateM World ContextId := fun world =>
  (⟨world.contexts.size⟩, { world with contexts := world.contexts.push context })

/-- Change a shared context. Requests that have begun keep the context they began with. -/
def editContext (id : ContextId) (change : Context → Context) : StateM World Unit :=
  modify fun world => { world with contexts := world.contexts.modify id.index change }

end ObjectCourier
