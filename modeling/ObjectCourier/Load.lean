import ObjectCourier.World

/-!
Loads of single properties. A load is counted from its beginning until it is completed or abandoned,
which happens at most once; a completion is reported after the load has been taken off the count. A
loader knows the property and how its loads are begun.
-/

namespace ObjectCourier

/-- The report of a completed load. -/
structure Notice (α : Type) where
  property : String
  outcome : Except Fault α
  /-- What the counter of the load shows when the report is made. -/
  outstanding : Option Nat

/-- Begin a load, under a counter if there is one. -/
def beginLoad (property : String) (counter : Option CounterId) : StateM World LoadId := do
  if let some id := counter then
    onStore (modify fun store => store.count id (· + 1))
  note (.loading property)
  let world ← get
  let load : OpenLoad := { id := ⟨world.nextLoad⟩, property := property, counter := counter }
  set { world with openLoads := world.openLoads ++ [load], nextLoad := world.nextLoad + 1 }
  return load.id

def World.openLoad? (world : World) (id : LoadId) : Option OpenLoad :=
  world.openLoads.find? (·.id = id)

/-- End a load: take it off its counter and forget it. An ended load cannot end again. -/
def endLoad (id : LoadId) : StateM World (Option OpenLoad) := do
  match (← get).openLoad? id with
  | none => return none
  | some load =>
      if let some counter := load.counter then
        onStore (modify fun store => store.count counter (· - 1))
      modify fun world => { world with openLoads := world.openLoads.filter (·.id ≠ id) }
      return some load

def completeLoad {α : Type} (id : LoadId) (outcome : Except Fault α) :
    StateM World (Option (Notice α)) := do
  match ← endLoad id with
  | none => return none
  | some load =>
      let store := (← get).store
      return some
        { property := load.property
          outcome := outcome
          outstanding := load.counter.map store.outstanding }

def abandonLoad (id : LoadId) : StateM World Unit := do
  let _ ← endLoad id

/-- Loads one property. What `start` does with a load that has begun, and the report if the load is
completed at once, is up to the loader. -/
structure Loader (α : Type) where
  property : String
  start : LoadId → StateM World (Option (Notice α))

namespace Loader

/-- Begin one load under the given counter. -/
def load {α : Type} (loader : Loader α) (counter : Option CounterId) :
    StateM World (Option (Notice α)) := do
  loader.start (← beginLoad loader.property counter)

def immediate {α : Type} (property : String) (outcome : Except Fault α) : Loader α where
  property := property
  start load := completeLoad load outcome

/-- Loads that are dropped as soon as they begin. -/
def dropping {α : Type} (property : String) : Loader α where
  property := property
  start load := do
    abandonLoad load
    return none

/-- Loads that somebody else will end. -/
def parking {α : Type} (property : String) : Loader α where
  property := property
  start _ := return none

/-- Loads that end with the outcome of an action. A crash leaves nothing to report. -/
def running {α : Type} (property : String) (work : Act α) : Loader α where
  property := property
  start load := do
    match ← work.run with
    | .error .crash =>
        abandonLoad load
        return none
    | outcome => completeLoad load outcome

end Loader

end ObjectCourier
