import ObjectCourier.Business.Catalog
import ObjectCourier.Proofs.Object.Confinement
import ObjectCourier.Proofs.Portal.Access

/-!
Data access code that works on what it can reach. Each thing that such code does takes a few steps on
what it holds, and what it holds grows on the way; so the code of a sequence reaches no further than
its parts do. The business application is made of code of this kind.
-/

namespace ObjectCourier

/-- The data access code of an operation works on what it can reach from its target, and on new objects
only when it has none, whether it succeeds or fails, and wherever it fails. -/
def Handler.Confined (handler : Handler) (operation : Operation) : Prop :=
  ∀ criteria target context (world : World), world.store.Reworked (.only target)
    (handler.work operation criteria target context world).2.store

/-- So does the handler, which hands its target over or does nothing. -/
theorem Handler.Confined.run {handler : Handler} {operation : Operation}
    (confined : handler.Confined operation) (criteria : Option Criteria) (object : Option Node)
    (context : Context) (world : World) :
    world.store.Reworked (.only (operation.target object))
      (handler.run operation criteria object context world).2.store := by
  rcases handler.run_cases operation criteria object context world with ⟨fault, refused⟩ | called
  · rw [refused]
    exact ⟨_, .refl⟩
  · rw [called]
    exact confined _ _ _ (world.calling _)

/-- The action works on what it can reach from what is held. When it succeeds, this is true of the
result and of what is held then. -/
def Act.Reaches {α : Type} (action : Act α) (grasp : Grasp) (gains : α → Grasp → Prop) : Prop :=
  ∀ world : World, ∃ held,
    Relation.ReflTransGen Store.Touches (world.store, grasp) ((action world).2.store, held) ∧
      ∀ result, (action world).1 = .ok result → gains result held

namespace Act.Reaches

variable {α β : Type} {grasp : Grasp}

theorem bind {first : Act α} {next : α → Act β} {gains : α → Grasp → Prop}
    {ends : β → Grasp → Prop} (head : first.Reaches grasp gains)
    (tail : ∀ value held, gains value held → (next value).Reaches held ends) :
    (first >>= next).Reaches grasp ends := by
  intro world
  obtain ⟨held, touches, gained⟩ := head world
  rcases ran : first world with ⟨outcome, between⟩
  rw [ran] at touches gained
  cases outcome with
  | error fault =>
      rw [bind_of_ran_error ran]
      exact ⟨held, touches, nofun⟩
  | ok value =>
      obtain ⟨last, further, ended⟩ := tail value held (gained value rfl) between
      rw [bind_of_ran_ok ran]
      exact ⟨last, touches.trans further, ended⟩

private theorem weaken {action : Act α} {gains ends : α → Grasp → Prop}
    (reaches : action.Reaches grasp gains)
    (implies : ∀ result held, gains result held → ends result held) : action.Reaches grasp ends := by
  intro world
  obtain ⟨held, touches, gained⟩ := reaches world
  exact ⟨held, touches, fun result ended => implies result held (gained result ended)⟩

theorem still {action : Act α} {gains : α → Grasp → Prop}
    (unchanged : ∀ world, (action world).2.store = world.store)
    (gained : ∀ result, gains result grasp) : action.Reaches grasp gains := by
  intro world
  rw [unchanged]
  exact ⟨grasp, .refl, fun result _ => gained result⟩

end Act.Reaches

private theorem Handler.confined_of_reaches {handler : Handler} {operation : Operation}
    (targets : operation.targetsObject = true)
    (reaches : ∀ target context,
      (handler.access.update target context).Reaches (.only target) (fun _ _ => True) ∧
        (handler.access.execute target context).Reaches (.only target) (fun _ _ => True)) :
    handler.Confined operation := by
  intro criteria target context world
  rcases target with - | target
  · cases operation with
    | create | fetch | delete => cases targets
    | update | execute => exact ⟨_, .refl⟩
  have handing {action : Act Unit} (reached : action.Reaches (.only target) fun _ _ => True) :
      (do action; return some ⟨handler.type, target⟩ : Act (Option Node)).Reaches (.only target)
        fun _ _ => True :=
    reached.bind fun _ _ _ => .still (fun _ => rfl) fun _ => trivial
  obtain ⟨updated, executed⟩ := reaches target context
  cases operation with
  | create | fetch | delete => cases targets
  | update =>
      obtain ⟨held, touches, -⟩ := handing updated world
      exact ⟨held, touches⟩
  | execute =>
      obtain ⟨held, touches, -⟩ := handing executed world
      exact ⟨held, touches⟩

structure Grasp.Admits (grasp : Grasp) {type : ObjType}
    (change : type.Data Carrier.live → type.Data Carrier.live) : Prop where
  children : ∀ data, ∀ child ∈ type.shape.handles (change data),
    child ∈ type.shape.handles data ∨ child.2 ∈ grasp.refs
  counters : ∀ data, type.shape.counters (change data) = type.shape.counters data

namespace Grasp

variable {grasp larger : Grasp} {type : ObjType}
  {change : type.Data Carrier.live → type.Data Carrier.live}

private theorem subset_taking (grasp : Grasp) (cell : Cell) :
    grasp.refs ⊆ (grasp.taking cell).refs :=
  List.subset_append_right _ _

private theorem admits_of_eq
    (children : ∀ data, type.shape.handles (change data) = type.shape.handles data)
    (counters : ∀ data, type.shape.counters (change data) = type.shape.counters data) :
    grasp.Admits change where
  children data _ member := .inl (children data ▸ member)
  counters := counters

theorem Admits.mono (admits : grasp.Admits change) (within : grasp.refs ⊆ larger.refs) :
    larger.Admits change where
  children data child member := (admits.children data child member).imp_right (@within _)
  counters := admits.counters

private theorem Admits.covers (admits : grasp.Admits change) (data : type.Data Carrier.live)
    (poisoned : Bool) :
    (grasp.taking ⟨type, data, poisoned⟩).Covers ⟨type, change data, poisoned⟩ where
  children child member := by
    obtain ⟨handle, present, rfl⟩ := List.mem_map.mp member
    rcases admits.children data handle present with before | held
    · exact List.mem_append_left _ (List.mem_map_of_mem (List.mem_map_of_mem before))
    · exact grasp.subset_taking _ held
  counters counter member := by
    have before : counter ∈ type.shape.counters data := admits.counters data ▸ member
    exact List.mem_append_left _ before

end Grasp

private theorem Store.modify_of_cell? {store : Store} {type : ObjType} {ref : Ref}
    {change : type.Data Carrier.live → type.Data Carrier.live} {data : type.Data Carrier.live}
    {poisoned : Bool} (present : store.cell? ref = some ⟨type, data, poisoned⟩) :
    store.modify type ref change = store.replace ref ⟨type, change data, poisoned⟩ := by
  have inside := (Array.getElem?_eq_some_iff.mp present).1
  have here : store.cells[ref.index]? = some ⟨type, data, poisoned⟩ := present
  unfold modify replace
  congr 1
  apply Array.ext_getElem?
  intro index
  rw [Array.getElem?_modify, Array.getElem?_setIfInBounds]
  by_cases same : ref.index = index
  · rw [if_pos same, if_pos same, if_pos inside, ← same, here, Option.map_some, dif_pos rfl]
  · rw [if_neg same, if_neg same]

private theorem Store.modify_of_other {store : Store} {type : ObjType} {ref : Ref}
    {change : type.Data Carrier.live → type.Data Carrier.live}
    (other : ∀ cell, store.cell? ref = some cell → cell.type ≠ type) :
    store.modify type ref change = store := by
  have unchanged : store.cells.modify ref.index (fun cell =>
      if same : cell.type = type then { cell with data := same ▸ change (same ▸ cell.data) }
      else cell) = store.cells := by
    apply Array.ext_getElem?
    intro index
    rw [Array.getElem?_modify]
    split
    · rename_i same
      subst same
      cases found : store.cells[ref.index]? with
      | none => rfl
      | some cell => rw [Option.map_some, dif_neg (other cell found)]
    · rfl
  unfold modify
  rw [unchanged]

section Objects

variable {grasp : Grasp} {type : ObjType} {ref : Ref}

private theorem Store.data?_of_read {store : Store} {data : type.Data Carrier.live}
    (read : store.read type ref = .ok data) : store.data? type ref = some data := by
  unfold Store.read at read
  split at read
  · cases read
  · split at read
    · rename_i found
      cases read
      exact found
    · cases read

private theorem Act.reaches_read (held : ref ∈ grasp.refs) :
    Act.Reaches (fromStore fun store => store.read type ref) grasp fun data larger =>
      larger = grasp.taking { type := type, data := data } := by
  intro world
  change ∃ larger, Relation.ReflTransGen Store.Touches (world.store, grasp) (world.store, larger) ∧
    ∀ data, world.store.read type ref = .ok data → larger = grasp.taking { type := type, data := data }
  cases found : world.store.data? type ref with
  | none =>
      refine ⟨grasp, .refl, fun data read => ?_⟩
      cases found.symm.trans (Store.data?_of_read read)
  | some data =>
      obtain ⟨poisoned, present⟩ := Store.data?_eq_some.mp found
      refine ⟨_, .single (.read held present), fun other read => ?_⟩
      cases found.symm.trans (Store.data?_of_read read)
      rfl

private theorem Act.reaches_modify {change : type.Data Carrier.live → type.Data Carrier.live}
    (held : ref ∈ grasp.refs) (admits : grasp.Admits change) :
    Act.Reaches (Act.onStore (modify fun store => store.modify type ref change)) grasp
      fun _ larger => grasp.refs ⊆ larger.refs := by
  intro world
  change ∃ larger, Relation.ReflTransGen Store.Touches (world.store, grasp)
    (world.store.modify type ref change, larger) ∧ ∀ result, _ → grasp.refs ⊆ larger.refs
  cases found : world.store.data? type ref with
  | none =>
      -- Without such an object nothing is changed, and no step is taken.
      rw [Store.modify_of_other]
      · exact ⟨grasp, .refl, fun _ _ => List.Subset.refl _⟩
      · rintro ⟨type, data, poisoned⟩ present rfl
        cases found.symm.trans (Store.data?_eq_some.mpr ⟨poisoned, present⟩)
  | some data =>
      -- A change reads the object first, so that what it keeps is held when it is put back.
      obtain ⟨poisoned, present⟩ := Store.data?_eq_some.mp found
      have taken := Relation.ReflTransGen.single (Store.Touches.read held present)
      have reached := grasp.subset_taking ⟨type, data, poisoned⟩
      rw [Store.modify_of_cell? present]
      exact ⟨_, taken.tail (.replace (reached held) (admits.covers data poisoned)),
        fun _ _ => reached⟩

private theorem Business.update_reaches {change : type.Data Carrier.live → type.Data Carrier.live}
    (held : ref ∈ grasp.refs) (admits : grasp.Admits change) :
    (update type ref change).Reaches grasp fun _ larger => grasp.refs ⊆ larger.refs := by
  refine (Act.reaches_read held).bind ?_
  rintro data _ rfl
  have reached := grasp.subset_taking { type := type, data := data }
  refine (Act.reaches_modify (reached held) (admits.mono reached)).weaken ?_
  exact fun _ _ within => List.Subset.trans reached within

end Objects

namespace Business

private theorem enterJournal_reaches {grasp : Grasp} (call : String) (context : Context) :
    Act.Reaches (liftM (enterJournal call context)) grasp fun _ held => held = grasp :=
  .still (fun _ => rfl) fun _ => rfl

private theorem failIfAsked_reaches {grasp : Grasp} (text : String) :
    (failIfAsked text).Reaches grasp fun _ held => held = grasp := by
  refine .still (fun world => ?_) fun _ => rfl
  unfold failIfAsked
  cases faultRequest? text <;> rfl

end Business

def FieldType.Plain (type : FieldType) : Prop :=
  ∀ value : type.Val Carrier.live.Handle, type.handles value = []

namespace FieldType.Plain

variable {type : FieldType}

theorem text : FieldType.text.Plain := fun _ => rfl

theorem int (kind : IntKind) : (FieldType.int kind).Plain := fun _ => rfl

theorem option (plain : type.Plain) : (FieldType.option type).Plain
  | none => rfl
  | some inner => plain inner

theorem vector (plain : type.Plain) : (FieldType.vector type).Plain := by
  intro items
  exact List.flatMap_eq_nil_iff.mpr fun item _ => plain item

theorem container (plain : type.Plain) (field : (Form.container type).Val Carrier.live) :
    (Form.container type).handles field = [] := by
  rcases field with ⟨name, held, dirty, serializable⟩
  cases held with
  | empty => rfl
  | plain value | tracked value => exact plain value

end FieldType.Plain

namespace Business

private theorem customers_reach (target : Ref) (context : Context) :
    (customerAccess.update target context).Reaches (.only target) (fun _ _ => True) ∧
      (customerAccess.execute target context).Reaches (.only target) (fun _ _ => True) := by
  constructor
  · refine (enterJournal_reaches _ _).bind ?_
    rintro _ _ rfl
    refine (update_reaches List.mem_cons_self ?_).bind ?_
    · exact Grasp.admits_of_eq (fun _ => rfl) (fun _ => rfl)
    · intro _ held within
      refine (Act.reaches_read (within List.mem_cons_self)).bind ?_
      rintro data _ rfl
      exact (failIfAsked_reaches _).weaken fun _ _ _ => trivial
  · refine (enterJournal_reaches _ _).bind ?_
    rintro _ _ rfl
    refine (update_reaches List.mem_cons_self ?_).weaken fun _ _ _ => trivial
    exact Grasp.admits_of_eq (fun _ => rfl) (fun _ => rfl)

private theorem setLabel_handles (text : String) (data : NodeData) :
    (ObjType.record .node).shape.handles (data.setLabel text) =
      (ObjType.record .node).shape.handles data := by
  rcases data with ⟨label, rest⟩
  have plain := FieldType.Plain.container .text
  exact congrArg (· ++ _) ((plain _).trans (plain label).symm)

private theorem setScore_handles (score : Option IntKind.i64.Value) (data : NodeData) :
    (ObjType.record .node).shape.handles (data.setScore score) =
      (ObjType.record .node).shape.handles data := by
  rcases data with ⟨label, before, rest⟩
  have plain := (FieldType.Plain.int .i64).option.container
  exact congrArg (_ ++ ·) (congrArg (· ++ _) ((plain _).trans (plain before).symm))

private theorem mapMarks_handles (change : List String → List String) (data : NodeData) :
    (ObjType.record .node).shape.handles (data.mapMarks change) =
      (ObjType.record .node).shape.handles data := by
  rcases data with ⟨label, score, weights, left, right, maybe, kids, bag, parts, blob, boxed, marks, rest⟩
  have plain := FieldType.Plain.text.vector
  iterate 11 refine congrArg (_ ++ ·) ?_
  exact congrArg (· ++ _) ((plain _).trans (plain marks).symm)

private theorem kids_mem (data : NodeData) :
    ⟨.list .node, data.kids⟩ ∈ (ObjType.record .node).shape.handles data := by
  rcases data with ⟨label, score, weights, left, right, maybe, kids, rest⟩
  iterate 6 refine List.mem_append_right _ ?_
  exact List.mem_append_left _ (List.mem_singleton_self _)

private theorem push_admitted {grasp : Grasp} {node : Ref} (held : node ∈ grasp.refs) :
    @Grasp.Admits grasp (.list .node) fun items => List.append (α := Ref) items [node] := by
  refine ⟨fun items child member => ?_, fun _ => rfl⟩
  obtain ⟨item, present, rfl⟩ := List.mem_map.mp member
  rcases List.mem_append.mp present with before | last
  · exact .inl (List.mem_map_of_mem before)
  · rw [List.mem_singleton.mp last]
    exact .inr held

private theorem nodes_reach (target : Ref) (context : Context) :
    (nodeAccess.update target context).Reaches (.only target) (fun _ _ => True) ∧
      (nodeAccess.execute target context).Reaches (.only target) (fun _ _ => True) := by
  constructor
  · refine (enterJournal_reaches _ _).bind ?_
    rintro _ _ rfl
    refine (Act.reaches_read List.mem_cons_self).bind ?_
    rintro data _ rfl
    refine (failIfAsked_reaches _).bind ?_
    rintro _ _ rfl
    have held := Grasp.subset_taking (.only target) ⟨.record .node, data, false⟩
    refine (update_reaches (held List.mem_cons_self) ?_).weaken fun _ _ _ => trivial
    refine Grasp.admits_of_eq (fun before => ?_) fun _ => rfl
    exact (mapMarks_handles _ _).trans (setLabel_handles _ before)
  · refine (enterJournal_reaches _ _).bind ?_
    rintro _ _ rfl
    refine (Act.reaches_read List.mem_cons_self).bind ?_
    rintro (data : NodeData) _ rfl
    have held := Grasp.subset_taking (.only target) ⟨.record .node, data, false⟩
    have kids : data.kids ∈ (Grasp.taking (.only target) ⟨.record .node, data, false⟩).refs :=
      List.mem_append_left _ (List.mem_map_of_mem (List.mem_map_of_mem (kids_mem data)))
    -- The list of children is held since the node was read, and the node is put into it.
    refine (update_reaches kids ?_).bind ?_
    · exact push_admitted (held List.mem_cons_self)
    · intro _ larger within
      refine (Act.reaches_read (within kids)).bind ?_
      rintro items _ rfl
      have still := larger.subset_taking ⟨.list .node, items, false⟩
      refine (update_reaches (still (within (held List.mem_cons_self))) ?_).weaken
        fun _ _ _ => trivial
      exact Grasp.admits_of_eq (setScore_handles _) fun _ => rfl

/-- All data access code of the application works on what it can reach. -/
theorem handler?_confined {type : ObjType} {handler : Handler} (found : handler? type = some handler)
    {operation : Operation} (targets : operation.targetsObject = true) :
    handler.Confined operation := by
  have unsupported {fault : Fault} {target : Ref} :
      (throw fault : Act Unit).Reaches (.only target) fun _ _ => True :=
    .still (fun _ => rfl) fun _ => trivial
  apply Handler.confined_of_reaches targets
  intro target context
  cases type with
  | list element => cases found
  | record type =>
      cases type with
      | customer => cases found; exact customers_reach target context
      | node => cases found; exact nodes_reach target context
      | link | part | gadget => cases found; exact ⟨unsupported, unsupported⟩
      | contact | marker | scalars => cases found

end Business

end ObjectCourier
