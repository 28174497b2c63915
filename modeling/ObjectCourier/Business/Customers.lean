import ObjectCourier.Business.Access
import ObjectCourier.Load

/-!
Data access for customers. A customer is named by its criteria; some names make the access fail or
leave the customer busy.
-/

namespace ObjectCourier.Business

abbrev CustomerData : Type := (ObjType.record .customer).Data Carrier.live

/-- A new customer with an empty list of contacts. Its name and contacts are dirty. -/
def newCustomer (name : String) (balance : Binary64) (isNew : Bool) :
    StateM Store CustomerData := do
  let contacts ← (ObjType.list .contact).create
  let loads ← Store.newCounter
  return (filled false "Name" name, balance, filled true "Contacts" contacts.ref,
    (none : Option Ref), isNew, loads, ())

/-- The name of a customer, which is empty when it has none. -/
def CustomerData.name (data : CustomerData) : String :=
  let (name, _) := data
  (Container.value? (α := String) name).getD ""

def CustomerData.loads (data : CustomerData) : CounterId :=
  let (_, _, _, _, _, loads, _) := data
  loads

def CustomerData.cleanName (data : CustomerData) : CustomerData :=
  let (name, rest) := data
  (Container.clean (α := String) name, rest)

/-- A saved customer has a clean name, is no longer new and has one more on its balance. -/
def CustomerData.saved (data : CustomerData) : CustomerData :=
  let (name, balance, contacts, primary, _, rest) := data
  (Container.clean (α := String) name, Binary64.succ balance, contacts, primary, false, rest)

def CustomerData.withoutBalance (data : CustomerData) : CustomerData :=
  let (name, _, rest) := data
  (name, (⟨0⟩ : Binary64), rest)

def usualBalance : Binary64 := ⟨0x4045400000000000⟩

def fetchCustomer (criteria : Criteria) : Act CustomerData := do
  let name ← textParameter criteria 0
  failIfAsked name
  if name = "missing" then throw (.application "no customer named missing")
  let balance : Binary64 ←
    if 2 ≤ criteria.values.length then parameter criteria .float64 1 else pure usualBalance
  let data ← Act.onStore (newCustomer name balance false)
  if name = "busy" then
    let _ ← beginLoad "Total" data.loads
    return data
  else return data.cleanName

def customerAccess : DataAccess (.record .customer) where
  create criteria context := do
    enterJournal "Customer.create" context
    let name ← textParameter criteria 0
    Act.onStore (newCustomer name ⟨0⟩ true)
  fetch criteria context := do
    enterJournal "Customer.fetch" context
    fetchCustomer criteria
  update target context := do
    enterJournal "Customer.update" context
    update (.record .customer) target CustomerData.saved
    let data ← fromStore fun store => store.read (.record .customer) target
    failIfAsked (CustomerData.name data)
  delete criteria context := do
    enterJournal "Customer.delete" context
    failIfAsked (← textParameter criteria 0)
  execute target context := do
    enterJournal "Customer.execute" context
    update (.record .customer) target CustomerData.withoutBalance

end ObjectCourier.Business
