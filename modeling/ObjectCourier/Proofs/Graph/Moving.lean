import ObjectCourier.Proofs.Graph.Validity

/-!
Objects at other places. If every object of a walk has a counterpart whose script is the same but for
the places of the children, then the counterparts are walked in the same order and their payload is
the same.
-/

namespace ObjectCourier

def Slot.moved (place : Ref → Ref) (slot : Slot) : Slot :=
  { slot with child := slot.child.moved place }

def WriteStep.moved (place : Ref → Ref) : WriteStep → WriteStep
  | .value name wire => .value name wire
  | .slot given => .slot (given.moved place)

namespace Script

def moved (place : Ref → Ref) (script : Script) : Script :=
  script.map fun step => step.map (WriteStep.moved place)

variable {place : Ref → Ref}

theorem moved_append (first second : Script) :
    moved place (first ++ second) = moved place first ++ moved place second := List.map_append

theorem Sound.moved {script : Script} (sound : script.Sound) : (script.moved place).Sound := by
  intro step member
  obtain ⟨origin, present, rfl⟩ := List.mem_map.mp member
  obtain ⟨done, rfl⟩ := sound origin present
  exact ⟨done.moved place, rfl⟩

theorem slots_moved (script : Script) :
    (script.moved place).slots = script.slots.map (Slot.moved place) := by
  induction script with
  | nil => rfl
  | cons step others ih =>
      match step with
      | .error fault | .ok (.value name wire) => exact ih
      | .ok (.slot given) => exact congrArg (List.cons _) ih

private theorem fill_moved {number renumber : Ref → RefId} {script : Script}
    (same : ∀ slot ∈ script.slots, renumber (place slot.child.ref) = number slot.child.ref)
    (record : Record) : (script.moved place).fill renumber record = script.fill number record := by
  induction script generalizing record with
  | nil => rfl
  | cons step others ih =>
      match step with
      | .error fault => exact ih same record
      | .ok (.value name wire) => exact ih same (record.addValue name wire)
      | .ok (.slot given) =>
          have first := same given List.mem_cons_self
          have rest := ih (fun slot later => same slot (List.mem_cons_of_mem _ later))
            (record.addChild given.name (number given.child.ref) given.dirty)
          refine Eq.trans ?_ rest
          rw [← first]
          rfl

end Script

private theorem numberOf_moved {order : List Node} {place : Ref → Ref}
    (distinct : (places order).Nodup)
    (apart : ∀ left ∈ places order, ∀ right ∈ places order, place left = place right → left = right)
    {ref : Ref} (member : ref ∈ places order) :
    numberOf (order.map (Node.moved place)) (place ref) = numberOf order ref := by
  obtain ⟨node, present, rfl⟩ := List.mem_map.mp member
  obtain ⟨position, inside, rfl⟩ := List.getElem_of_mem present
  have distinctMoved : (places (order.map (Node.moved place))).Nodup := by
    rw [places_moved]
    exact List.Nodup.map_on (fun left inLeft right inRight => apart left inLeft right inRight)
      distinct
  have within : position < (order.map (Node.moved place)).length := by rwa [List.length_map]
  have here : (order.map (Node.moved place))[position].ref = place order[position].ref := by
    rw [List.getElem_map]
    rfl
  rw [numberOf_getElem distinct inside, ← here, numberOf_getElem distinctMoved within]

namespace Store

variable {source target : Store} {policy : Policy} {order : List Node} {root : Node}
  {place : Ref → Ref}

theorem slots_moved {node : Node} (describable : source.Describable policy node)
    (same : target.script policy (node.moved place) = (source.script policy node).moved place) :
    target.slots policy (node.moved place) =
      (source.slots policy node).map (Slot.moved place) := by
  have sound : (target.script policy (node.moved place)).Sound := by
    rw [same]
    exact Script.Sound.moved describable
  rw [← slots_script sound, same, Script.slots_moved, slots_script describable]

/-- The counterparts of a walk can be walked as well. -/
theorem Walkable.moved (walkable : source.Walkable policy [] [root] order)
    (apart : ∀ left ∈ places order, ∀ right ∈ places order, place left = place right → left = right)
    (same : ∀ node ∈ order,
      target.script policy (node.moved place) = (source.script policy node).moved place) :
    target.Walkable policy [] [root.moved place] (order.map (Node.moved place)) where
  visits := by
    refine walkable.visits.moved place apart fun node member => ?_
    unfold walked
    rw [slots_moved (walkable.describable node member) (same node member), List.map_map,
      List.map_map]
    rfl
  describable := by
    intro other member
    obtain ⟨node, present, rfl⟩ := List.mem_map.mp member
    unfold Describable
    rw [same node present]
    exact Script.Sound.moved (walkable.describable node present)
  bound := by
    rw [List.nil_append, List.length_map]
    exact walkable.small

private theorem payloadOf_moved (walkable : source.Walkable policy [] [root] order)
    (apart : ∀ left ∈ places order, ∀ right ∈ places order, place left = place right → left = right)
    (same : ∀ node ∈ order,
      target.script policy (node.moved place) = (source.script policy node).moved place) :
    target.payloadOf policy (order.map (Node.moved place)) = source.payloadOf policy order := by
  have number : ∀ ref ∈ places order,
      numberOf (order.map (Node.moved place)) (place ref) = numberOf order ref :=
    fun ref member => numberOf_moved walkable.nodup apart member
  have records : (order.map (Node.moved place)).map
      (target.describe policy (numberOf (order.map (Node.moved place)))) =
        order.map (source.describe policy (numberOf order)) := by
    rw [List.map_map]
    refine List.map_congr_left fun node member => ?_
    have id : numberOf (order.map (Node.moved place)) (node.moved place).ref =
        numberOf order node.ref := number node.ref (mem_places member)
    change target.describe policy _ (node.moved place) = _
    unfold describe
    rw [same node member, id]
    refine Script.fill_moved (fun slot inSlots => ?_) _
    rw [slots_script (walkable.describable node member)] at inSlots
    exact number slot.child.ref (walkable.children_seen member inSlots)
  unfold payloadOf
  rw [records]

/-- Writing the counterparts gives the same payload. -/
theorem serialize_moved {payload : Payload}
    (written : (source.serialize policy root).1 = .ok payload)
    (apart : ∀ order, source.Walkable policy [] [root] order →
      ∀ left ∈ places order, ∀ right ∈ places order, place left = place right → left = right)
    (same : ∀ order, source.Walkable policy [] [root] order → ∀ node ∈ order,
      target.script policy (node.moved place) = (source.script policy node).moved place) :
    (target.serialize policy (root.moved place)).1 = .ok payload := by
  obtain ⟨capable, order, walkable, rfl⟩ := serialize_eq_ok.mp written
  have scripts := same order walkable
  refine serialize_eq_ok.mpr ⟨capable, order.map (Node.moved place),
    walkable.moved (apart order walkable) scripts, ?_⟩
  exact (payloadOf_moved walkable (apart order walkable) scripts).symm

end Store

end ObjectCourier
