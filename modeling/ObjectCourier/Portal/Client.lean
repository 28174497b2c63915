import ObjectCourier.Load
import ObjectCourier.Portal.Dispatcher

/-!
The portal as seen by a caller that works with one type. Every operation can be asked for and waited
for, awaited without a thread, or begun and left to a worker.
-/

namespace ObjectCourier

structure Portal where
  type : ObjType
  dispatcher : Dispatcher

/-- How a caller waits for an operation. -/
inductive Waiting where
  | blocking
  | async
  | begun
  deriving DecidableEq, Repr, Inhabited

namespace Portal

/-- What an operation with criteria asks for. -/
def asking (portal : Portal) (operation : Operation) (criteria : Criteria) : Demand where
  operation := operation
  typeKey := portal.type.key
  criteria := some criteria

/-- What an operation on an object of the portal's type asks for. -/
def handing (portal : Portal) (operation : Operation) (object : Ref) : Demand where
  operation := operation
  typeKey := portal.type.key
  object := some ⟨portal.type, object⟩

/-- The outcome as the caller gets it: an object of the portal's type, or nothing after a delete. -/
def receive (portal : Portal) (operation : Operation) :
    Option Node → Except Fault (Option Ref)
  | none => if operation.returnsObject then .error (.noResult portal.type.key) else .ok none
  | some node =>
      if operation.returnsObject then (node.expect portal.type "result").map some else .ok none

def begin (portal : Portal) (demand : Demand) : StateM World BegunRequest :=
  portal.dispatcher.begin demand

def runBegun (portal : Portal) (begun : BegunRequest) : Act (Option Ref) := do
  Act.ofExcept (portal.receive begun.demand.operation (← begun.run))

def run (portal : Portal) (demand : Demand) : Act (Option Ref) := do
  Act.ofExcept (portal.receive demand.operation (← portal.dispatcher.dispatch demand))

def runAsync (portal : Portal) (demand : Demand) : Act (Option Ref) := do
  Act.ofExcept (portal.receive demand.operation (← portal.dispatcher.dispatchAsync demand))

/-- Run an operation in the way the caller waits for it. What happens between the beginning of an
operation and its worker is given as `meanwhile`. -/
def runAs (portal : Portal) (waiting : Waiting) (meanwhile : StateM World Unit)
    (demand : Demand) : Act (Option Ref) :=
  match waiting with
  | .blocking => portal.run demand
  | .async => portal.runAsync demand
  | .begun => do
      let begun ← portal.begin demand
      meanwhile
      portal.runBegun begun

end Portal

namespace Loader

/-- Loads a property by fetching or creating an object through a portal. -/
def ofPortal (property : String) (portal : Portal) (operation : Operation) (criteria : Criteria) :
    Loader (Option Ref) :=
  running property (portal.runAs .begun (pure ()) (portal.asking operation criteria))

end Loader

end ObjectCourier
