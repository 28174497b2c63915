import ObjectCourier.Graph.Reader
import ObjectCourier.Proofs.Graph.Records
import ObjectCourier.Proofs.Graph.Writing
import ObjectCourier.Proofs.Outcome

/-!
Payloads that are accepted as a whole. The payload of a walk is: its ids are distinct, its root has a
record, and every slot names a record, because a walk has seen all children of what it has entered.
-/

namespace ObjectCourier

namespace Payload

private theorem repeatedId?_eq_none {seen : Std.TreeSet RefId} {records : List Record}
    (distinct : (records.map fun record => record.id).Nodup)
    (fresh : ∀ record ∈ records, record.id ∉ seen) : repeatedId? seen records = none := by
  induction records generalizing seen with
  | nil => rfl
  | cons first others ih =>
      rw [List.map_cons, List.nodup_cons] at distinct
      have unseen : ¬seen.contains first.id = true := by
        rw [Std.TreeSet.contains_iff_mem]
        exact fresh first List.mem_cons_self
      rw [repeatedId?, if_neg unseen]
      refine ih distinct.2 fun record later inside => ?_
      rw [Std.TreeSet.mem_insert] at inside
      rcases inside with same | earlier
      · have equal := Std.LawfulEqOrd.eq_of_compare same
        exact distinct.1 (equal ▸ List.mem_map_of_mem later)
      · exact fresh record (List.mem_cons_of_mem _ later) earlier

theorem mem_ids {ids : List RefId} {id : RefId} :
    (Std.TreeSet.ofList ids).contains id = true ↔ id ∈ ids := by
  rw [Std.TreeSet.contains_ofList, List.contains_iff_mem]

/-- A payload with distinct ids, a record for its root and for the target of every slot is valid. -/
theorem validate_of_closed {payload : Payload}
    (distinct : (payload.records.map fun record => record.id).Nodup)
    (root : payload.root ∈ payload.records.map fun record => record.id)
    (closed : ∀ record ∈ payload.records, ∀ entry ∈ record.children,
      entry.2.target ∈ payload.records.map fun record => record.id) :
    payload.validate = .ok () := by
  have fresh : repeatedId? {} payload.records = none :=
    repeatedId?_eq_none distinct fun record _ => Std.TreeSet.not_mem_emptyc
  have present := mem_ids.mpr root
  unfold validate
  rw [fresh]
  simp only [present]
  refine forM_eq_ok fun record member => ?_
  have none : danglingSlot? (.ofList (payload.records.map fun record => record.id)) record =
      none := by
    refine List.find?_eq_none.mpr fun entry inside => ?_
    rw [mem_ids.mpr (closed record member entry inside)]
    exact Bool.not_eq_true _ ▸ rfl
  rw [none]
  rfl

end Payload

namespace Store

variable {store : Store} {policy : Policy} {order : List Node} {root : Node}

theorem describe_id (number : Ref → RefId) (node : Node) :
    (store.describe policy number node).id = number node.ref :=
  Script.fill_id _ _ _

theorem describe_typeKey (number : Ref → RefId) (node : Node) :
    (store.describe policy number node).typeKey = node.typeKey :=
  Script.typeKey_fill _ _ _

theorem mem_children_describe {number : Ref → RefId} {node : Node}
    (describable : store.Describable policy node) {entry : String × ChildSlot}
    (member : entry ∈ (store.describe policy number node).children) :
    ∃ slot ∈ store.slots policy node, entry = (slot.name, Script.numbered number slot) := by
  rcases Script.mem_children_fill member with ⟨slot, present, same⟩ | impossible
  · rw [slots_script describable] at present
    exact ⟨slot, present, same⟩
  · cases impossible

theorem ids_payloadOf (store : Store) (policy : Policy) (order : List Node) :
    ((store.payloadOf policy order).records.map fun record => record.id) =
      order.map fun node => numberOf order node.ref := by
  simp only [payloadOf, List.map_map]
  exact List.map_congr_left fun node _ => describe_id _ node

variable (store policy) in
private theorem mem_ids_payloadOf {ref : Ref} (member : ref ∈ places order) :
    numberOf order ref ∈ (store.payloadOf policy order).records.map fun record => record.id := by
  obtain ⟨node, present, rfl⟩ := List.mem_map.mp member
  rw [ids_payloadOf]
  exact List.mem_map_of_mem present

theorem Walkable.children_seen (walkable : store.Walkable policy [] [root] order) {node : Node}
    (member : node ∈ order) {slot : Slot} (present : slot ∈ store.slots policy node) :
    slot.child.ref ∈ places order := by
  rcases walkable.visits.closed node member with none | covered
  · cases none
  · exact covered slot.child (List.mem_map_of_mem present)

theorem Walkable.nodup (walkable : store.Walkable policy [] [root] order) :
    (places order).Nodup :=
  walkable.visits.nodup List.nodup_nil

theorem Walkable.small (walkable : store.Walkable policy [] [root] order) :
    order.length ≤ RefId.limit :=
  walkable.bound

theorem Walkable.first (walkable : store.Walkable policy [] [root] order) :
    order[0]? = some root := by
  obtain ⟨inner, rfl, _⟩ := walkable.below List.not_mem_nil
  rfl

theorem Walkable.root_mem (walkable : store.Walkable policy [] [root] order) : root ∈ order :=
  List.mem_of_getElem? walkable.first

theorem Walkable.number_root (walkable : store.Walkable policy [] [root] order) :
    numberOf order root.ref = .nth 0 := by
  obtain ⟨inside, same⟩ := List.getElem?_eq_some_iff.mp walkable.first
  rw [← same]
  exact numberOf_getElem walkable.nodup inside

/-- The payload of a walk is valid. -/
theorem Walkable.validate (walkable : store.Walkable policy [] [root] order) :
    (store.payloadOf policy order).validate = .ok () := by
  have distinct := walkable.nodup
  apply Payload.validate_of_closed
  · rw [ids_payloadOf]
    exact numbers_nodup distinct walkable.small
  · have first := mem_ids_payloadOf store policy (mem_places walkable.root_mem)
    rw [walkable.number_root] at first
    exact first
  · intro record member entry inside
    obtain ⟨node, present, rfl⟩ := List.mem_map.mp member
    obtain ⟨slot, slotPresent, rfl⟩ :=
      mem_children_describe (walkable.describable node present) inside
    exact mem_ids_payloadOf store policy (walkable.children_seen present slotPresent)

end Store

end ObjectCourier
