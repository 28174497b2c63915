import ObjectCourier.Object.Store

/-!
Status flags. An object that tracks status answers nine questions; a container answers them through
its value when the value was assigned as a tracked one, and from its own dirty flag otherwise.
-/

namespace ObjectCourier

structure Status where
  dirty : Bool := false
  selfDirty : Bool := false
  isNew : Bool := false
  deleted : Bool := false
  child : Bool := false
  valid : Bool := false
  selfValid : Bool := false
  busy : Bool := false
  savable : Bool := false
  deriving DecidableEq, Repr, Inhabited

namespace Status

/-- What can be saved on its own is changed, valid, idle and not part of another object. -/
def withSavable (status : Status) : Status :=
  { status with savable := status.dirty && status.valid && !status.busy && !status.child }

/-- A list is dirty or busy when an element is, and valid when every element is. -/
def ofElements (elements : List Status) : Status :=
  withSavable
    { dirty := elements.any (·.dirty)
      valid := elements.all (·.valid)
      selfValid := true
      busy := elements.any (·.busy) }

/-- The flags with their names, in the order in which they are shown. -/
def flags (status : Status) : List (String × Bool) :=
  [("is_dirty", status.dirty), ("is_self_dirty", status.selfDirty), ("is_new", status.isNew),
   ("is_deleted", status.deleted), ("is_child", status.child), ("is_valid", status.valid),
   ("is_self_valid", status.selfValid), ("is_busy", status.busy), ("is_savable", status.savable)]

def names (status : Status) : List String :=
  (status.flags.filter (·.2)).map (·.1)

end Status

namespace Container

/-- The status of the held value, when the value is tracked and has one. -/
def delegated {α : Type} (statusOf : α → Option Status) (container : Container α) :
    Option Status :=
  match container.held with
  | .tracked value => statusOf value
  | .plain _ | .empty => none

/-- The status of a field. Its value answers if it is tracked; savable it always is. -/
def status {α : Type} (statusOf : α → Option Status) (container : Container α) : Status :=
  match container.delegated statusOf with
  | some status => { status with savable := true }
  | none =>
      { dirty := container.dirty, selfDirty := container.dirty
        valid := true, selfValid := true, savable := true }

end Container

end ObjectCourier
