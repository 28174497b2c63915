import ObjectCourier.Portal.Dictionary

/-!
The context of a request: who asks, with which values, in which culture, and on which side of the
portal the code runs. A request carries the context as it was when the request began.
-/

namespace ObjectCourier

/-- The identity a request runs as. -/
structure Principal where
  name : String := ""
  roles : NameSet := .empty
  authenticated : Bool := false
  deriving DecidableEq

namespace Principal

/-- Nobody in particular, with no roles. -/
def anonymous : Principal := {}

instance : Inhabited Principal := ⟨anonymous⟩

def user (name : String) (roles : List String) : Principal where
  name := name
  roles := .ofList roles
  authenticated := true

def isInRole (principal : Principal) (role : String) : Bool := principal.roles.contains role

end Principal

/-- The side of the portal that code runs on. -/
inductive Location where
  | client
  | server
  deriving DecidableEq, Repr, Inhabited

structure Context where
  principal : Principal := {}
  /-- The values that flow from the caller to data access code. -/
  values : Dictionary String := .empty
  culture : Option String := none
  location : Location := .client
  deriving DecidableEq

namespace Context

instance : Inhabited Context := ⟨{}⟩

def withPrincipal (context : Context) (principal : Principal) : Context :=
  { context with principal := principal }

def withCulture (context : Context) (culture : String) : Context :=
  { context with culture := some culture }

def setValue (context : Context) (name value : String) : Context :=
  { context with values := context.values.insert name value }

def value? (context : Context) (name : String) : Option String := context.values.get? name

/-- The context as data access code sees it. -/
def enterServer (context : Context) : Context := { context with location := .server }

end Context

namespace Codec

def principal : Codec Principal where
  encode value :=
    text.encode value.name ++ nameSet.encode value.roles ++ bool.encode value.authenticated
  decode := do
    let name ← text.decode
    let roles ← nameSet.decode
    let authenticated ← bool.decode
    return { name := name, roles := roles, authenticated := authenticated }

def location : Codec Location where
  encode
    | .client => [0]
    | .server => [1]
  decode := do
    match ← Varint.decode 4 with
    | 0 => return .client
    | 1 => return .server
    | _ => throw .unknownCase

def context : Codec Context where
  encode value :=
    principal.encode value.principal ++ (dictionary text).encode value.values
      ++ (option text).encode value.culture ++ location.encode value.location
  decode := do
    let who ← principal.decode
    let values ← (dictionary text).decode
    let culture ← (option text).decode
    let side ← location.decode
    return { principal := who, values := values, culture := culture, location := side }

end Codec

end ObjectCourier
