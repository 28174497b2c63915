/-!
Named entries in the order of their first insertion. A name that is put again keeps its place and
takes the new value. Reading takes the first entry of a name.
-/

namespace ObjectCourier

abbrev Entries (α : Type) := List (String × α)

namespace Entries

variable {α : Type}

/-- Replace the entry of the name, or add one at the end. -/
def put (name : String) (value : α) : Entries α → Entries α
  | [] => [(name, value)]
  | (other, old) :: rest =>
      if other = name then (other, value) :: rest else (other, old) :: put name value rest

def get? (name : String) : Entries α → Option α
  | [] => none
  | (other, value) :: rest => if other = name then some value else get? name rest

def names (entries : Entries α) : List String := entries.map Prod.fst

@[simp] theorem get?_put_self (name : String) (value : α) (entries : Entries α) :
    (entries.put name value).get? name = some value := by
  induction entries with
  | nil => simp [put, get?]
  | cons entry rest ih =>
      by_cases same : entry.1 = name <;> simp [put, get?, same, ih]

theorem get?_put_of_ne {name other : String} (different : other ≠ name) (value : α)
    (entries : Entries α) : (entries.put name value).get? other = entries.get? other := by
  induction entries with
  | nil => simp [put, get?, different.symm]
  | cons entry rest ih =>
      by_cases same : entry.1 = name
      · simp [put, get?, same, different.symm]
      · by_cases here : entry.1 = other <;> simp [put, get?, same, here, different, ih]

theorem mem_of_get? {name : String} {value : α} {entries : Entries α}
    (found : entries.get? name = some value) : (name, value) ∈ entries := by
  induction entries with
  | nil => cases found
  | cons entry others ih =>
      unfold get? at found
      by_cases same : entry.1 = name
      · rw [if_pos same] at found
        cases found
        subst same
        exact List.mem_cons_self
      · rw [if_neg same] at found
        exact List.mem_cons_of_mem _ (ih found)

end Entries

end ObjectCourier
