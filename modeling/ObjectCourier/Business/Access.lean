import ObjectCourier.Portal.Host

/-!
What the data access code of the business types shares: reading parameters, keeping the journal, and
the texts that make an operation fail on purpose.
-/

namespace ObjectCourier.Business

def parameter (criteria : Criteria) (type : FieldType) (index : Nat) : Act (type.Val Embedded) :=
  Act.ofExcept (criteria.get type index)

def textParameter (criteria : Criteria) (index : Nat) : Act String :=
  parameter criteria .text index

def enterJournal (call : String) (context : Context) : StateM World Unit :=
  modify fun world =>
    { world with journal := world.journal ++ [{ call := call, context := context }] }

/-- The fault that a kind and a text ask for. -/
def requestedFault (kind text : String) : Fault :=
  match kind with
  | "InvalidArgument" => .invalidArgument text
  | "Argument" => .argument text
  | "CorruptGraph" => .corruptGraph text
  | "Serialization" => .serialization text
  | "Compression" => .compression text
  | "Format" => .format text
  | "Internal" => .internal text
  | "NotAuthorized" => .notAuthorized .execute text
  | "TypeMismatch" => .typeMismatch text "x" "y"
  | "RemoteExecution" => .execution .delete text [⟨"Outer", text⟩, ⟨"Inner", "deep"⟩]
  | "Bare" => .execution .create text []
  | _ => .application text

/-- The kind and the text behind a leading `err:`. -/
def faultRequest? (text : String) : Option (String × String) :=
  match text.toList with
  | 'e' :: 'r' :: 'r' :: ':' :: rest =>
      let kind := rest.takeWhile (· ≠ ':')
      match rest.drop kind.length with
      | _ :: message => some (String.ofList kind, String.ofList message)
      | [] => none
  | _ => none

def failIfAsked (text : String) : Act Unit :=
  match faultRequest? text with
  | some (kind, message) => throw (requestedFault kind message)
  | none => pure ()

def update (type : ObjType) (ref : Ref)
    (change : type.Data Carrier.live → type.Data Carrier.live) : Act Unit := do
  let _ ← fromStore fun store => store.read type ref
  Act.onStore (modify fun store => store.modify type ref change)

/-- A named container that holds a value and is dirty. -/
def filled {α : Type} (tracks : Bool) (name : String) (value : α) : Container α :=
  { name := name, held := .wrap tracks value, dirty := true, serializable := true }

def vacant {α : Type} (name : String) : Container α :=
  { name := name, held := .empty, dirty := false, serializable := true }

end ObjectCourier.Business
