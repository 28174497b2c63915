import ObjectCourier.Business.Catalog
import ObjectCourier.Portal.Client
import ObjectCourier.Text.Notation

/-!
Descriptions of the library's values for people who look for faults. An object that cannot be read
is shown as locked.
-/

namespace ObjectCourier

open Text

/-- The description of a handle whose object cannot be read. -/
def Text.locked : String := tagged "Mobile" "<locked>"

def sortNames (names : List String) : List String := names.mergeSort fun left right => left ≤ right

def Registry.describe (registry : Registry) : String :=
  Text.record "TypeRegistry"
    [("types", list ((sortNames (registry.types.map ObjType.key)).map quoted)),
     ("extra_opaque", toString registry.marked.length)]

def Compressors.describeAll (compressors : Compressors) : String :=
  let entry (algorithm : Compressor) := (toString algorithm.id.toNat, algorithm.typeName)
  Text.record "CompressorRegistry" [("algorithms", map (compressors.algorithms.map entry))]

def Formatter.describe (formatter : Formatter) : String :=
  Text.record "GraphFormatter"
    [("registry", formatter.registry.describe),
     ("compressors", formatter.compressors.describeAll),
     ("compression_id", toString formatter.compressionId.toNat)]

def Host.describe (host : Host) : String :=
  let types := sortNames (host.handlers.map (·.type.key))
  Text.record "PortalHost"
    [("formatter", host.formatter.describe), ("types", list (types.map quoted))]

def Settings.describe (settings : Settings) : String :=
  Text.record "PortalConfig"
    [("location", settings.place.name), ("auto_clone_on_update", toString settings.autoClone),
     ("compression_id", toString settings.compressionId.toNat)]

def Dispatcher.describe (dispatcher : Dispatcher) : String :=
  Text.record "Dispatcher"
    [("config", dispatcher.settings.describe), ("formatter", dispatcher.formatter.describe),
     ("has_host", toString dispatcher.host.isSome),
     ("has_transport", toString dispatcher.transport.isSome)]

def Portal.describe (portal : Portal) : String :=
  Text.record "DataPortal"
    [("type", quoted portal.type.typeName), ("dispatcher", portal.dispatcher.describe)]

def RefId.describe (id : RefId) : String :=
  tagged "ReferenceId" (toString id.number.toNat)

def Loader.describe {α : Type} (loader : Loader α) : String :=
  outline "AsyncLoader" [("property", quoted loader.property)]

def OpenLoad.describe (load : OpenLoad) : String :=
  outline "Completion" [("property", quoted load.property)]

namespace Store

/-- A handle whose content is described by a function, unless it cannot be read. -/
def describeHandle (store : Store) (type : ObjType) (ref : Ref)
    (content : type.Data Carrier.live → String) : String :=
  match store.read type ref with
  | .ok data => tagged "Mobile" (content data)
  | .error _ => Text.locked

def describePart (store : Store) (ref : Ref) : String :=
  store.describeHandle (.record .part) ref fun (serial, _) =>
    let serial : IntKind.i64.Value := serial
    Text.record "Part" [("serial", toString serial.val)]

/-- A part while someone holds it for a change: nobody can read it meanwhile. A poisoned part cannot
be held so. -/
def describeHeldPart (store : Store) (ref : Ref) : Except Fault String :=
  (store.read (.record .part) ref).map fun _ => Text.locked

def describeParts (store : Store) (ref : Ref) : String :=
  store.describeHandle (.list .part) ref fun items =>
    Text.list (List.map (α := Ref) store.describePart items)

end Store

def Held.describe {α : Type} (value : α → String) : Held α → String
  | empty => "Empty"
  | plain held => tagged "Plain" (value held)
  | tracked held => tagged "Tracked" (value held)

def Container.describe {α : Type} (value : α → String) (container : Container α) : String :=
  Text.record "FieldData"
    [("name", quoted container.name), ("value", container.held.describe value),
     ("is_dirty", toString container.dirty),
     ("is_serializable", toString container.serializable)]

/-- The label of a node and its bag of parts. -/
def Business.NodeData.describe (store : Store) (data : Business.NodeData) : String :=
  let (label, _, _, _, _, _, _, bag, _) := data
  Container.describe (α := String) quoted label ++ " "
    ++ Container.describe (α := Ref) store.describeParts bag

end ObjectCourier
