import ObjectCourier.Codec.Varint

/-!
Finite maps from names, kept in the order of the names. There is one entry for each name, so two
dictionaries with the same entries are the same.
-/

namespace ObjectCourier

/-- Entries in strictly ascending order of their names. -/
structure Dictionary (α : Type) where
  entries : List (String × α)
  sorted : entries.Pairwise fun left right => left.1 < right.1

namespace Dictionary

variable {α : Type}

def empty : Dictionary α where
  entries := []
  sorted := List.Pairwise.nil

instance : Inhabited (Dictionary α) := ⟨empty⟩

/-- Put an entry into its place, replacing the one of the same name. -/
def insertEntry (name : String) (value : α) : List (String × α) → List (String × α)
  | [] => [(name, value)]
  | (other, old) :: rest =>
      if name < other then (name, value) :: (other, old) :: rest
      else if name = other then (name, value) :: rest
      else (other, old) :: insertEntry name value rest

theorem mem_insertEntry {name : String} {value : α} {entries : List (String × α)}
    {entry : String × α} (member : entry ∈ insertEntry name value entries) :
    entry.1 = name ∨ entry ∈ entries := by
  induction entries with
  | nil =>
      simp only [insertEntry, List.mem_singleton] at member
      exact Or.inl (by rw [member])
  | cons first rest ih =>
      obtain ⟨other, old⟩ := first
      simp only [insertEntry] at member
      split at member
      · rcases List.mem_cons.mp member with here | there
        · exact Or.inl (by rw [here])
        · exact Or.inr there
      · split at member
        · rcases List.mem_cons.mp member with here | there
          · exact Or.inl (by rw [here])
          · exact Or.inr (List.mem_cons_of_mem _ there)
        · rcases List.mem_cons.mp member with here | there
          · exact Or.inr (by rw [here]; exact List.mem_cons_self)
          · exact (ih there).imp id (List.mem_cons_of_mem _)

theorem insertEntry_sorted (name : String) (value : α) {entries : List (String × α)}
    (sorted : entries.Pairwise fun left right => left.1 < right.1) :
    (insertEntry name value entries).Pairwise fun left right => left.1 < right.1 := by
  induction entries with
  | nil => simp [insertEntry]
  | cons first rest ih =>
      obtain ⟨other, old⟩ := first
      obtain ⟨above, restSorted⟩ := List.pairwise_cons.mp sorted
      simp only [insertEntry]
      split
      · rename_i below
        refine List.pairwise_cons.mpr ⟨fun entry member => ?_, sorted⟩
        rcases List.mem_cons.mp member with here | there
        · rw [here]
          exact below
        · exact String.lt_trans below (above entry there)
      · rename_i notBelow
        split
        · rename_i same
          subst same
          exact List.pairwise_cons.mpr ⟨above, restSorted⟩
        · rename_i different
          refine List.pairwise_cons.mpr ⟨fun entry member => ?_, ih restSorted⟩
          rcases mem_insertEntry member with here | there
          · rw [here]
            refine Decidable.byContradiction fun notAbove => different ?_
            exact String.le_antisymm (String.not_lt.mp notAbove) (String.not_lt.mp notBelow)
          · exact above entry there

def insert (dictionary : Dictionary α) (name : String) (value : α) : Dictionary α where
  entries := insertEntry name value dictionary.entries
  sorted := insertEntry_sorted name value dictionary.sorted

/-- The later of two entries of one name wins. -/
def ofList (entries : List (String × α)) : Dictionary α :=
  entries.foldl (fun dictionary entry => dictionary.insert entry.1 entry.2) empty

def get? (dictionary : Dictionary α) (name : String) : Option α :=
  (dictionary.entries.find? (·.1 = name)).map (·.2)

def contains (dictionary : Dictionary α) (name : String) : Bool :=
  (dictionary.get? name).isSome

def names (dictionary : Dictionary α) : List String := dictionary.entries.map (·.1)

instance [DecidableEq α] : DecidableEq (Dictionary α) := fun left right =>
  decidable_of_iff (left.entries = right.entries) <| by
    cases left
    cases right
    simp

end Dictionary

abbrev NameSet := Dictionary Unit

namespace NameSet

def ofList (names : List String) : NameSet := Dictionary.ofList (names.map fun name => (name, ()))

end NameSet

namespace Codec

/-- A dictionary is the list of its entries. Entries are accepted in any order. -/
def dictionary {α : Type} (value : Codec α) : Codec (Dictionary α) :=
  (list (pair text value)).map Dictionary.ofList Dictionary.entries

def nameSet : Codec NameSet :=
  (list text).map NameSet.ofList Dictionary.names

end Codec

end ObjectCourier
