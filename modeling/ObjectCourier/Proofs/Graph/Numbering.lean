import Mathlib.Data.List.Basic
import ObjectCourier.Graph.RefTable
import ObjectCourier.Proofs.Graph.Walk

/-!
The ids of a walk. The objects of a walk are numbered #1, #2, … in the order in which they were
entered, and the table of a writing pass gives out just these numbers.
-/

namespace ObjectCourier

def RefId.nth (position : Nat) : RefId := ⟨UInt32.ofNat (position + 1)⟩

/-- How many objects one pass can number. -/
def RefId.limit : Nat := 0xfffffffe

namespace RefId

theorem toNat_nth {position : Nat} (small : position < limit) :
    (nth position).number.toNat = position + 1 :=
  UInt32.toNat_ofNat_of_lt' (by
    change _ < 0x100000000
    unfold limit at small
    omega)

theorem nth_injective {left right : Nat} (leftSmall : left < limit) (rightSmall : right < limit)
    (same : nth left = nth right) : left = right := by
  have numbers := congrArg (fun id => id.number.toNat) same
  simp only [toNat_nth leftSmall, toNat_nth rightSmall] at numbers
  omega

theorem compare_nth {left right : Nat} (before : left < right) (small : right < limit) :
    compare (nth left) (nth right) = .lt := by
  change compare (nth left).number (nth right).number = .lt
  rw [Std.compare_eq_lt, UInt32.lt_iff_toNat_lt, toNat_nth small,
    toNat_nth (Nat.lt_trans before small)]
  omega

end RefId

/-- The id of an object in a walk. -/
def numberOf (order : List Node) (ref : Ref) : RefId := .nth ((places order).idxOf ref)

def Numbers (number : Ref → RefId) (order : List Node) : Prop :=
  ∀ ref ∈ places order, number ref = numberOf order ref

theorem numbers_numberOf (order : List Node) : Numbers (numberOf order) order := fun _ _ => rfl

private theorem numberOf_append {order : List Node} {ref : Ref} (member : ref ∈ places order)
    (more : List Node) : numberOf (order ++ more) ref = numberOf order ref := by
  unfold numberOf
  rw [places_append, List.idxOf_append_of_mem member]

theorem Numbers.of_append {number : Ref → RefId} {order more : List Node}
    (numbers : Numbers number (order ++ more)) : Numbers number order := by
  intro ref member
  rw [numbers ref (by rw [places_append]; exact List.mem_append_left _ member),
    numberOf_append member]

theorem numberOf_next {order : List Node} {node : Node} (fresh : node.ref ∉ places order) :
    numberOf (order ++ [node]) node.ref = .nth order.length := by
  unfold numberOf
  rw [places_append, List.idxOf_append, if_neg fresh, places_singleton, List.idxOf_cons_self,
    Nat.zero_add]
  exact congrArg RefId.nth (List.length_map _)

theorem numberOf_getElem {order : List Node} (distinct : (places order).Nodup) {position : Nat}
    (inside : position < order.length) : numberOf order order[position].ref = .nth position := by
  have within : position < (places order).length := by rwa [places, List.length_map]
  have here : (places order)[position] = order[position].ref := List.getElem_map _
  rw [numberOf, ← here, distinct.idxOf_getElem position within]

/-- The ids of a walk are #1, #2, … in its order. -/
theorem numbers_eq {order : List Node} (distinct : (places order).Nodup) :
    order.map (fun node => numberOf order node.ref) = (List.range order.length).map RefId.nth := by
  refine List.ext_getElem (by simp) fun position inside _ => ?_
  have within : position < order.length := by simpa using inside
  simp only [List.getElem_map, List.getElem_range]
  exact numberOf_getElem distinct within

theorem numbers_nodup {order : List Node} (distinct : (places order).Nodup)
    (small : order.length ≤ RefId.limit) :
    (order.map fun node => numberOf order node.ref).Nodup := by
  rw [numbers_eq distinct]
  refine List.Nodup.map_on ?_ List.nodup_range
  intro left leftInside right rightInside same
  rw [List.mem_range] at leftInside rightInside
  exact RefId.nth_injective (by omega) (by omega) same

theorem position_lt {order : List Node} {ref : Ref} (member : ref ∈ places order) :
    (places order).idxOf ref < order.length := by
  have inside := List.idxOf_lt_length_of_mem member
  rwa [places, List.length_map] at inside

/-- Different objects of a walk have different ids. -/
theorem numberOf_injective {order : List Node} (small : order.length ≤ RefId.limit) {left right : Ref}
    (leftMember : left ∈ places order) (rightMember : right ∈ places order)
    (same : numberOf order left = numberOf order right) : left = right := by
  have leftInside := position_lt leftMember
  have rightInside := position_lt rightMember
  have positions := RefId.nth_injective (by omega) (by omega) same
  exact (List.idxOf_inj leftMember).mp positions

structure RefTable.Tracks (table : RefTable) (seen : List Node) : Prop where
  lookup : ∀ ref, table.lookup ref = if ref ∈ places seen then some (numberOf seen ref) else none
  next : table.next = UInt32.ofNat (seen.length + 1)
  bound : seen.length ≤ RefId.limit

namespace RefTable

theorem tracks_empty : ({} : RefTable).Tracks [] where
  lookup _ := rfl
  next := rfl
  bound := Nat.zero_le _

theorem lookup_bind (table : RefTable) (id : RefId) (node : Node) (ref : Ref) :
    (table.bind id node).lookup ref = if node.ref = ref then some id else table.lookup ref := by
  unfold lookup bind
  rw [Std.TreeMap.getElem?_insert]
  simp only [Std.LawfulEqCmp.compare_eq_iff_eq]

/-- The next object gets the next id, as long as there is one. -/
theorem Tracks.assign {table : RefTable} {seen : List Node} (tracks : table.Tracks seen)
    {node : Node} (fresh : node.ref ∉ places seen) :
    if seen.length = RefId.limit then table.assign node = .error .idsExhausted
    else ∃ after, table.assign node = .ok (.nth seen.length, after) ∧ after.Tracks (seen ++ [node]) := by
  have bound := tracks.bound
  have missing : table.lookup node.ref = none := by rw [tracks.lookup, if_neg fresh]
  have following : table.next + 1 = UInt32.ofNat (seen.length + 2) := by
    rw [tracks.next, ← UInt32.ofNat_one, ← UInt32.ofNat_add]
  unfold RefTable.assign
  simp only [missing]
  split_ifs with full last last
  · rfl
  · exfalso
    apply last
    rw [following, full]
    rfl
  · exfalso
    have zero := congrArg UInt32.toNat (following.symm.trans last)
    rw [UInt32.toNat_ofNat_of_lt'] at zero
    · cases zero
    · change _ < 0x100000000
      unfold RefId.limit at *
      omega
  · refine ⟨_, congrArg Except.ok (Prod.ext (congrArg RefId.mk tracks.next) rfl), ?_, ?_, ?_⟩
    · intro ref
      change (table.bind _ node).lookup ref = _
      rw [lookup_bind, places_append, places_singleton]
      by_cases same : node.ref = ref
      · subst same
        rw [if_pos rfl, if_pos (List.mem_append_right _ (List.mem_singleton_self _)),
          numberOf_next fresh, tracks.next]
        rfl
      · rw [if_neg same, tracks.lookup]
        by_cases member : ref ∈ places seen
        · rw [if_pos member, if_pos (List.mem_append_left _ member), numberOf_append member]
        · rw [if_neg member, if_neg]
          rintro inBoth
          rcases List.mem_append.mp inBoth with earlier | here
          · exact member earlier
          · exact same (List.mem_singleton.mp here).symm
    · rw [List.length_append]
      exact following
    · rw [List.length_append, List.length_singleton]
      omega

end RefTable

end ObjectCourier
