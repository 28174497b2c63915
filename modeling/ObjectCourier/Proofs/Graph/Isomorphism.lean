import ObjectCourier.Proofs.Graph.Copying

/-!
Graphs that are the same but for the places of their objects. Objects and counters correspond one to
one, and objects that correspond have the same content but for their places. Isomorphic graphs are
written as the same payload.
-/

namespace ObjectCourier

/-- Handles lead to objects of the graph and to those in their new places, counters stand for
counters of the same count, and memos are kept. -/
def Carrier.Relation.renamed (left right : Store) (reached : Node → Prop) (place : Ref → Ref)
    (count : CounterId → CounterId) : Carrier.Relation Carrier.live Carrier.live where
  handle type ref other := reached ⟨type, ref⟩ ∧ other = place ref
  loads counter other := other = count counter ∧ right.outstanding other = left.outstanding counter
  memo memo other := other = memo

/-- A one-to-one correspondence of the objects of a graph, which no handle leaves, with objects of
another store. -/
structure Store.Isomorphism (left right : Store) where
  /-- The objects of the graph. -/
  reached : Node → Prop
  place : Ref → Ref
  count : CounterId → CounterId
  place_injective : Function.Injective place
  count_injective : Function.Injective count
  objects : ∀ node, reached node → ∃ data copy, left.data? node.type node.ref = some data ∧
    right.data? node.type (place node.ref) = some copy ∧
      right.isPoisoned (place node.ref) = left.isPoisoned node.ref ∧
        node.type.shape.Matches (.renamed left right reached place count) data copy

/-- The graph below the node is the same as the one below the other node, up to places. -/
def Store.Isomorphic (left right : Store) (root other : Node) : Prop :=
  ∃ isomorphism : left.Isomorphism right,
    isomorphism.reached root ∧ other = root.moved isomorphism.place

theorem Store.Isomorphic.exists_place {left right : Store} {root other : Node}
    (isomorphic : left.Isomorphic right root other) : ∃ ref, other = ⟨root.type, ref⟩ := by
  obtain ⟨isomorphism, -, same⟩ := isomorphic
  exact ⟨_, same⟩

/-- A graph that leads nowhere else is isomorphic to itself. -/
theorem Store.ClosedFrom.isomorphic {store : Store} {start : Nat} (closed : store.ClosedFrom start)
    {root : Node} (leads : store.Leads root) (above : start ≤ root.ref.index) :
    store.Isomorphic store root root := by
  refine ⟨{ reached := fun node => store.Leads node ∧ start ≤ node.ref.index
            place := id, count := id
            place_injective := Function.injective_id, count_injective := Function.injective_id
            objects := ?_ }, ⟨leads, above⟩, rfl⟩
  rintro node ⟨leads, above⟩
  obtain ⟨data, found⟩ := leads_iff.mp leads
  refine ⟨data, data, found, found, rfl, ?_⟩
  apply Shape.matches_self
  · exact fun _ => ⟨rfl, rfl⟩
  · exact fun _ => rfl
  · exact fun child member => ⟨closed.handles found above child member, rfl⟩

theorem FieldType.Matches.toWire {Source Target : ObjType → Type}
    {object : (type : ObjType) → Source type → Except Fault Bytes}
    {other : (type : ObjType) → Target type → Except Fault Bytes}
    {same : (type : ObjType) → Source type → Target type → Prop} {type : FieldType}
    {left : type.Val Source} {right : type.Val Target} {wire : WireValue}
    (alike : type.Matches same left right)
    (objects : ∀ type left right body, same type left right → object type left = .ok body →
      other type right = .ok body)
    (written : type.toWire object left = .ok wire) : type.toWire other right = .ok wire := by
  induction type generalizing wire with
  | int kind | float32 | float64 | bool | text =>
      have same : left = right := alike
      exact same ▸ written
  | option type ih =>
      match left, right, alike with
      | none, none, _ => exact written
      | some _, some _, alike => exact ih alike written
  | vector type ih =>
      obtain ⟨wires, items, ended⟩ := bind_eq_ok.mp written
      have pairs : List.Forall₂ (type.Matches same) left right := alike
      have each : ∀ left right wire, type.Matches same left right →
          type.toWire object left = .ok wire → type.toWire other right = .ok wire :=
        fun _ _ _ => ih
      refine bind_eq_ok.mpr ⟨wires, mapM_eq_ok.mpr ?_, ended⟩
      exact forall₂_comp pairs.flip (mapM_eq_ok.mp items) fun _ _ _ => each _ _ _
  | handle type =>
      obtain ⟨body, embedded, ended⟩ := bind_eq_ok.mp written
      exact bind_eq_ok.mpr ⟨body, objects type left right body alike embedded, ended⟩

namespace Store.Isomorphism

variable {left right : Store} (isomorphism : left.Isomorphism right) {policy : Policy}
  {typeKey : String}

def relation : Carrier.Relation Carrier.live Carrier.live :=
  .renamed left right isomorphism.reached isomorphism.place isomorphism.count

/-- Trees below objects that correspond are the same. -/
theorem unfolds {depth : Nat} {type : ObjType} {ref : Ref} {tree : Tree depth type}
    (reached : isomorphism.reached ⟨type, ref⟩) (unfolds : left.Unfolds depth type ref tree) :
    right.Unfolds depth type (isomorphism.place ref) tree := by
  induction depth generalizing type ref with
  | zero => exact tree.elim
  | succ depth ih =>
      obtain ⟨intact, data, found, matching⟩ := unfolds
      obtain ⟨other, copy, otherFound, copied, poisoned, alike⟩ := isomorphism.objects _ reached
      cases otherFound.symm.trans found
      refine ⟨poisoned.trans intact, copy, copied, Shape.Matches.comp alike.flip matching ?_⟩
      constructor
      · rintro type _ ref tree ⟨below, rfl⟩ unfolds
        exact ih below unfolds
      · exact fun _ _ _ _ _ => trivial
      · exact fun _ _ _ _ _ => trivial

theorem blob {type : ObjType} {ref : Ref} {body : Bytes} (reached : isomorphism.reached ⟨type, ref⟩)
    (written : left.blob type ref = .ok body) :
    right.blob type (isomorphism.place ref) = .ok body := by
  obtain ⟨depth, tree, unfolds, rfl, fits⟩ := blob_eq_ok written
  exact (isomorphism.unfolds reached unfolds).blob_eq fits

private theorem rewrites_of_type {name : String} {permitted : Bool} {type : FieldType}
    {value other : type.Val Carrier.live.Handle}
    (alike : type.Matches isomorphism.relation.handle value other) :
    type.Rewrites left right isomorphism.place policy typeKey name permitted value other := by
  cases walked : type.isWalked policy typeKey name permitted value with
  | true =>
      have held := walked
      unfold FieldType.isWalked at held
      cases holds : type.liveNode? value with
      | none =>
          rw [holds] at held
          cases held
      | some node =>
          obtain ⟨ref, found, -, same⟩ := alike.liveNode? holds
          cases same
          exact .inl ⟨node, walked, holds, found⟩
  | false =>
      refine .inr ⟨walked, ?_, fun wire => alike.toWire ?_⟩
      · cases holds : type.liveNode? value with
        | some node =>
            obtain ⟨ref, found, -⟩ := alike.liveNode? holds
            rw [found]
            rfl
        | none =>
            cases found : type.liveNode? other with
            | none => rfl
            | some node =>
                obtain ⟨_, back, -⟩ := (FieldType.Matches.flip alike).liveNode? found
                cases back.symm.trans holds
      · rintro type ref _ body ⟨reached, rfl⟩ written
        exact isomorphism.blob reached written

private theorem rewrites_of_form {name : String} {form : Form} {value other : form.Val Carrier.live}
    (alike : form.Matches isomorphism.relation value other) :
    form.Rewrites left right isomorphism.place policy typeKey name value other := by
  cases form with
  | bare type => exact isomorphism.rewrites_of_type alike
  | container type =>
      refine ⟨Container.Matches.name alike, Container.Matches.dirty alike,
        Container.Matches.serializable alike, ?_, ?_⟩
      · match value, other, Container.Matches.held alike with
        | ⟨_, .empty, _, _⟩, ⟨_, .empty, _, _⟩, _ => exact fun _ => rfl
        | ⟨_, .plain _, _, _⟩, ⟨_, .plain _, _, _⟩, _
        | ⟨_, .tracked _, _, _⟩, ⟨_, .tracked _, _, _⟩, _ => exact nofun
      · match value, other, Container.Matches.held alike with
        | ⟨_, .empty, _, _⟩, ⟨_, .empty, _, _⟩, _ => exact nofun
        | ⟨_, .plain _, _, _⟩, ⟨_, .plain held, _, _⟩, same
        | ⟨_, .tracked _, _, _⟩, ⟨_, .tracked held, _, _⟩, same =>
            rintro _ ⟨⟩
            exact ⟨held, rfl, isomorphism.rewrites_of_type same⟩
  | aside _ | loads | memo => trivial

private theorem rewrites_of_members {members : List Member}
    {value other : Members Carrier.live members}
    (alike : Members.Matches isomorphism.relation members value other) :
    Members.Rewrites left right isomorphism.place policy typeKey members value other := by
  induction members with
  | nil => trivial
  | cons member others ih => exact ⟨isomorphism.rewrites_of_form alike.1, ih alike.2⟩

private theorem rewrites_of_shape {shape : Shape} {value other : shape.Data Carrier.live}
    (alike : shape.Matches isomorphism.relation value other) :
    shape.Rewrites left right isomorphism.place policy typeKey value other := by
  cases shape with
  | fields members => exact isomorphism.rewrites_of_members alike
  | elements type =>
      apply (List.map_id other).symm.trans
      exact map_eq_of_forall₂ alike fun _ _ both => both.2

theorem script {node : Node} (reached : isomorphism.reached node)
    (describable : left.Describable policy node) :
    right.script policy (node.moved isomorphism.place) =
      (left.script policy node).moved isomorphism.place := by
  obtain ⟨data, copy, found, copied, poisoned, alike⟩ := isomorphism.objects _ reached
  obtain ⟨_, -, intact, -⟩ := data_of_sound describable
  exact script_moved describable found copied (poisoned.trans intact)
    (isomorphism.rewrites_of_shape alike)

end Store.Isomorphism

namespace Store

variable {left right : Store} {policy : Policy} {root other : Node}

/-- What holds of the root and is handed on through slots holds of the whole walk. -/
theorem Walkable.forall_of_slots {store : Store} {order : List Node}
    (walkable : store.Walkable policy [] [root] order) (good : Node → Prop) (start : good root)
    (step : ∀ node, good node → ∀ slot ∈ store.slots policy node, good slot.child) :
    ∀ node ∈ order, good node := by
  intro node member
  rcases walkable.visits.reached node member with none | ⟨origin, here, reaches⟩
  · cases none
  · clear member
    induction reaches with
    | here => exact List.mem_singleton.mp here ▸ start
    | step _ below ih =>
        obtain ⟨slot, present, rfl⟩ := List.mem_map.mp below
        exact step _ ih slot present

/-- Isomorphic graphs have the same payload. -/
theorem Isomorphic.serialize {payload : Payload} (isomorphic : left.Isomorphic right root other)
    (written : (left.serialize policy root).1 = .ok payload) :
    (right.serialize policy other).1 = .ok payload := by
  obtain ⟨isomorphism, start, rfl⟩ := isomorphic
  refine serialize_moved written (fun _ _ _ _ _ _ same => isomorphism.place_injective same) ?_
  intro order walkable node member
  refine isomorphism.script ?_ (walkable.describable node member)
  refine walkable.forall_of_slots isomorphism.reached start (fun node reached => ?_) node member
  refine forall_slots_of_handles isomorphism.reached fun other found => ?_
  obtain ⟨data, _, here, -, -, alike⟩ := isomorphism.objects node reached
  cases here.symm.trans found
  exact Shape.handles_of_matches (fun type (ref : Carrier.live.Handle type) =>
    isomorphism.reached ⟨type, ref⟩) alike.flip fun _ _ _ both => both.1

theorem Isomorphic.resolves (isomorphic : left.Isomorphic right root other) {order : List Node}
    (walkable : right.Walkable policy [] [other] order) : right.Resolves policy order := by
  obtain ⟨isomorphism, start, rfl⟩ := isomorphic
  let arrived (node : Node) : Prop :=
    ∃ origin, isomorphism.reached origin ∧ node = origin.moved isomorphism.place
  have below : ∀ node, arrived node → ∀ slot ∈ right.slots policy node, arrived slot.child := by
    rintro _ ⟨node, reached, rfl⟩
    refine forall_slots_of_handles arrived fun other found => ?_
    obtain ⟨_, copy, -, copied, -, alike⟩ := isomorphism.objects node reached
    have here : right.data? (node.moved isomorphism.place).type (node.moved isomorphism.place).ref =
        some copy := copied
    cases here.symm.trans found
    refine Shape.handles_of_matches (fun type (ref : Carrier.live.Handle type) =>
      arrived ⟨type, ref⟩) alike ?_
    rintro type origin _ ⟨reached, rfl⟩
    exact ⟨⟨type, origin⟩, reached, rfl⟩
  have entered := walkable.forall_of_slots arrived ⟨root, start, rfl⟩ below
  intro node member slot present
  obtain ⟨child, reached, same⟩ := below node (entered node member) slot present
  obtain ⟨_, copy, -, copied, -⟩ := isomorphism.objects child reached
  rw [same]
  exact leads_iff.mpr ⟨copy, copied⟩

end Store

end ObjectCourier
