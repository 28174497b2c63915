import Mathlib.Data.List.Nodup
import ObjectCourier.Object.Store

/-!
Depth-first walks. A walk enters every node it meets for the first time, and all children of a node
before the next pending node; a node whose place was seen before is passed over. The nodes of a
finished walk, in the order in which they were entered, are exactly those that can be reached.
-/

namespace ObjectCourier

def places (nodes : List Node) : List Ref := nodes.map Node.ref

@[simp] theorem places_append (left right : List Node) :
    places (left ++ right) = places left ++ places right := List.map_append

@[simp] theorem places_singleton (node : Node) : places [node] = [node.ref] := rfl

theorem mem_places {nodes : List Node} {node : Node} (member : node ∈ nodes) :
    node.ref ∈ places nodes := List.mem_map_of_mem member

def Node.moved (place : Ref → Ref) (node : Node) : Node :=
  { type := node.type, ref := place node.ref }

theorem places_moved (place : Ref → Ref) (nodes : List Node) :
    places (nodes.map (Node.moved place)) = (places nodes).map place := by
  simp only [places, List.map_map]
  rfl

/-- From the nodes seen before, the pending nodes are walked to the nodes seen in the end. -/
inductive Visits (children : Node → List Node) :
    (seen pending final : List Node) → Prop where
  | done {seen : List Node} : Visits children seen [] seen
  | again {seen others final : List Node} {node : Node} (known : node.ref ∈ places seen)
      (rest : Visits children seen others final) : Visits children seen (node :: others) final
  | enter {seen others middle final : List Node} {node : Node} (fresh : node.ref ∉ places seen)
      (below : Visits children (seen ++ [node]) (children node) middle)
      (rest : Visits children middle others final) : Visits children seen (node :: others) final

inductive Reaches (children : Node → List Node) (root : Node) : Node → Prop where
  | here : Reaches children root root
  | step {parent child : Node} (reached : Reaches children root parent)
      (member : child ∈ children parent) : Reaches children root child

theorem Reaches.through {children : Node → List Node} {parent child node : Node}
    (reaches : Reaches children child node) (member : child ∈ children parent) :
    Reaches children parent node := by
  induction reaches with
  | here => exact .step .here member
  | step _ further ih => exact .step ih further

namespace Visits

variable {children : Node → List Node} {seen pending final : List Node}

theorem extends_seen (visits : Visits children seen pending final) :
    ∃ entered, final = seen ++ entered := by
  induction visits with
  | done => exact ⟨[], (List.append_nil _).symm⟩
  | again known rest ih => exact ih
  | @enter seen others middle final node fresh below rest ihBelow ihRest =>
      obtain ⟨inner, rfl⟩ := ihBelow
      obtain ⟨outer, rfl⟩ := ihRest
      exact ⟨[node] ++ inner ++ outer, by simp only [List.append_assoc]⟩

private theorem mem_of_seen (visits : Visits children seen pending final) {node : Node}
    (member : node ∈ seen) : node ∈ final := by
  obtain ⟨entered, rfl⟩ := visits.extends_seen
  exact List.mem_append_left _ member

private theorem place_of_seen (visits : Visits children seen pending final) {ref : Ref}
    (member : ref ∈ places seen) : ref ∈ places final := by
  obtain ⟨entered, rfl⟩ := visits.extends_seen
  rw [places_append]
  exact List.mem_append_left _ member

theorem nodup (visits : Visits children seen pending final) (distinct : (places seen).Nodup) :
    (places final).Nodup := by
  induction visits with
  | done => exact distinct
  | again known rest ih => exact ih distinct
  | enter fresh below rest ihBelow ihRest =>
      refine ihRest (ihBelow ?_)
      rw [places_append, places_singleton]
      exact List.nodup_append.mpr ⟨distinct, List.nodup_singleton _, fun left inSeen right inNew =>
        fun same => fresh (List.mem_singleton.mp inNew ▸ same ▸ inSeen)⟩

private theorem place_of_pending (visits : Visits children seen pending final) :
    ∀ node ∈ pending, node.ref ∈ places final := by
  induction visits with
  | done =>
      intro node member
      cases member
  | again known rest ih =>
      intro node member
      rcases List.mem_cons.mp member with rfl | later
      · exact rest.place_of_seen known
      · exact ih node later
  | enter fresh below rest ihBelow ihRest =>
      intro node member
      rcases List.mem_cons.mp member with rfl | later
      · exact rest.place_of_seen (below.place_of_seen
          (mem_places (List.mem_append_right _ (List.mem_singleton_self _))))
      · exact ihRest node later

/-- A node is seen before, or it is entered and all its children are seen in the end. -/
theorem closed (visits : Visits children seen pending final) :
    ∀ node ∈ final, node ∈ seen ∨ ∀ child ∈ children node, child.ref ∈ places final := by
  induction visits with
  | done => exact fun node member => .inl member
  | again known rest ih => exact ih
  | enter fresh below rest ihBelow ihRest =>
      intro node member
      rcases ihRest node member with inMiddle | covered
      · rcases ihBelow node inMiddle with inSeen | covered
        · rcases List.mem_append.mp inSeen with earlier | here
          · exact .inl earlier
          · rw [List.mem_singleton.mp here]
            exact .inr fun child member =>
              rest.place_of_seen (below.place_of_pending child member)
        · exact .inr fun child member => rest.place_of_seen (covered child member)
      · exact .inr covered

/-- Only what can be reached from a pending node is entered. -/
theorem reached (visits : Visits children seen pending final) :
    ∀ node ∈ final, node ∈ seen ∨ ∃ start ∈ pending, Reaches children start node := by
  induction visits with
  | done => exact fun node member => .inl member
  | again known rest ih =>
      intro node member
      apply (ih node member).imp id
      rintro ⟨start, later, reaches⟩
      exact ⟨start, List.mem_cons_of_mem _ later, reaches⟩
  | enter fresh below rest ihBelow ihRest =>
      intro node member
      rcases ihRest node member with inMiddle | ⟨start, later, reaches⟩
      · rcases ihBelow node inMiddle with inSeen | ⟨start, child, reaches⟩
        · rcases List.mem_append.mp inSeen with earlier | here
          · exact .inl earlier
          · rw [List.mem_singleton.mp here]
            exact .inr ⟨_, List.mem_cons_self, .here⟩
        · exact .inr ⟨_, List.mem_cons_self, reaches.through child⟩
      · exact .inr ⟨start, List.mem_cons_of_mem _ later, reaches⟩

/-- The walk of several pending nodes goes through the walk of the first ones. -/
theorem split {first second : List Node} (visits : Visits children seen (first ++ second) final) :
    ∃ middle, Visits children seen first middle ∧ Visits children middle second final := by
  induction first generalizing seen with
  | nil => exact ⟨seen, .done, visits⟩
  | cons node others ih =>
      cases visits with
      | again known rest =>
          obtain ⟨middle, early, late⟩ := ih rest
          exact ⟨middle, .again known early, late⟩
      | enter fresh below rest =>
          obtain ⟨middle, early, late⟩ := ih rest
          exact ⟨middle, .enter fresh below early, late⟩

theorem append {first second middle : List Node} (early : Visits children seen first middle)
    (late : Visits children middle second final) :
    Visits children seen (first ++ second) final := by
  induction early with
  | done => exact late
  | again known rest ih => exact .again known (ih late)
  | enter fresh below rest _ ihRest => exact .enter fresh below (ihRest late)

/-- There is only one walk. -/
theorem unique {other : List Node} (visits : Visits children seen pending final)
    (another : Visits children seen pending other) : final = other := by
  induction visits generalizing other with
  | done =>
      cases another
      rfl
  | again known rest ih =>
      cases another with
      | again _ otherRest => exact ih otherRest
      | enter fresh _ _ => exact absurd known fresh
  | enter fresh below rest ihBelow ihRest =>
      cases another with
      | again known _ => exact absurd known fresh
      | enter _ otherBelow otherRest =>
          cases ihBelow otherBelow
          exact ihRest otherRest

/-- A walk is the same walk after the objects have moved, if they stay apart and keep their
children. -/
theorem moved {others : Node → List Node} (place : Ref → Ref)
    (visits : Visits children seen pending final)
    (apart : ∀ left ∈ places final, ∀ right ∈ places final, place left = place right → left = right)
    (same : ∀ node ∈ final, others (node.moved place) = (children node).map (Node.moved place)) :
    Visits others (seen.map (Node.moved place)) (pending.map (Node.moved place))
      (final.map (Node.moved place)) := by
  induction visits with
  | done => exact .done
  | again known rest ih =>
      refine .again ?_ (ih apart same)
      rw [places_moved]
      exact List.mem_map_of_mem known
  | @enter seen pending middle final node fresh below rest ihBelow ihRest =>
      have inMiddle : node ∈ middle :=
        below.mem_of_seen (List.mem_append_right _ (List.mem_singleton_self _))
      have inFinal := rest.mem_of_seen inMiddle
      refine .enter ?_ ?_ (ihRest apart same)
      · rw [places_moved]
        intro known
        obtain ⟨ref, earlier, samePlace⟩ := List.mem_map.mp known
        have seenThen : ref ∈ places final := rest.place_of_seen (below.place_of_seen (by
          rw [places_append]
          exact List.mem_append_left _ earlier))
        exact fresh (apart ref seenThen node.ref (mem_places inFinal) samePlace ▸ earlier)
      · have nested := ihBelow
          (fun left inLeft right inRight => apart left (rest.place_of_seen inLeft) right
            (rest.place_of_seen inRight))
          fun other member => same other (rest.mem_of_seen member)
        rw [List.map_append] at nested
        rw [same node inFinal]
        exact nested

end Visits

end ObjectCourier
