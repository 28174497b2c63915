import ObjectCourier.Proofs.Graph.Cycles

/-!
Objects unrolled. The tree below an object has a node for every occurrence of an object, so an object
that is shared is met as often as it occurs. Planting the tree adds one object for each occurrence,
side by side, in the order in which the occurrences are left.
-/

namespace ObjectCourier

structure Carrier.Visitor.Gathers {m : Type → Type} [Monad m] {σ : Type} (running : Running m σ)
    {source target : Carrier} (visitor : Carrier.Visitor m source target)
    (gathered : σ → σ → List ((type : ObjType) × target.Handle type) → Prop) : Prop where
  nothing : ∀ state, gathered state state []
  append : ∀ {first between last front back}, gathered first between front →
    gathered between last back → gathered first last (front ++ back)
  handle : ∀ {type value before result after},
    running.runs (visitor.handle type value) before result after →
      gathered before after [⟨type, result⟩]
  loads : ∀ {value before result after}, running.runs (visitor.loads value) before result after →
    gathered before after []
  memo : ∀ {value before result after}, running.runs (visitor.memo value) before result after →
    gathered before after []

section Gathering

variable {m : Type → Type} [Monad m] [LawfulMonad m] {σ : Type} {running : Running m σ}
  {source target : Carrier} {visitor : Carrier.Visitor m source target}
  {gathered : σ → σ → List ((type : ObjType) × target.Handle type) → Prop}
  (gathers : visitor.Gathers running gathered)

include gathers

theorem Carrier.Visitor.Gathers.mapM {α β : Type} {visit : α → m β}
    (handles : β → List ((type : ObjType) × target.Handle type))
    (visits : ∀ {item before result after}, running.runs (visit item) before result after →
      gathered before after (handles result))
    {items : List α} {before after : σ} {results : List β}
    (ran : running.runs (items.mapM visit) before results after) :
    gathered before after (results.flatMap handles) := by
  induction items generalizing before results with
  | nil =>
      rw [List.mapM_nil] at ran
      obtain ⟨rfl, rfl⟩ := running.runs_pure ran
      exact gathers.nothing _
  | cons first others ih =>
      rw [List.mapM_cons] at ran
      obtain ⟨head, between, ranHead, ran⟩ := running.runs_bind ran
      obtain ⟨tail, last, ranTail, ran⟩ := running.runs_bind ran
      obtain ⟨rfl, rfl⟩ := running.runs_pure ran
      rw [List.flatMap_cons]
      exact gathers.append (visits ranHead) (ih ranTail)

private theorem FieldType.gathers_traverse {type : FieldType} {value : type.Val source.Handle}
    {result : type.Val target.Handle} {before after : σ}
    (ran : running.runs (type.traverse visitor.handle value) before result after) :
    gathered before after (type.handles result) := by
  induction type generalizing before after with
  | int kind | float32 | float64 | bool | text =>
      obtain ⟨rfl, rfl⟩ := running.runs_pure ran
      exact gathers.nothing _
  | option type ih =>
      match value with
      | none =>
          obtain ⟨rfl, rfl⟩ := running.runs_pure ran
          exact gathers.nothing _
      | some inner =>
          obtain ⟨changed, between, ranInner, ran⟩ := running.runs_bind ran
          obtain ⟨rfl, rfl⟩ := running.runs_pure ran
          exact ih ranInner
  | vector type ih => exact gathers.mapM type.handles ih ran
  | handle type => exact gathers.handle ran

private theorem Form.gathers_traverse {form : Form} {value : form.Val source}
    {result : form.Val target}
    {before after : σ} (ran : running.runs (form.traverse visitor value) before result after) :
    gathered before after (form.handles result) := by
  cases form with
  | bare type | aside type => exact FieldType.gathers_traverse gathers ran
  | container type =>
      obtain ⟨held, between, ranHeld, ran⟩ := running.runs_bind ran
      obtain ⟨rfl, rfl⟩ := running.runs_pure ran
      match value with
      | ⟨_, .empty, _, _⟩ =>
          obtain ⟨rfl, rfl⟩ := running.runs_pure ranHeld
          exact gathers.nothing _
      | ⟨_, .plain _, _, _⟩ | ⟨_, .tracked _, _, _⟩ =>
          obtain ⟨changed, last, ranValue, ran⟩ := running.runs_bind ranHeld
          obtain ⟨rfl, rfl⟩ := running.runs_pure ran
          exact FieldType.gathers_traverse gathers ranValue
  | loads => exact gathers.loads ran
  | memo => exact gathers.memo ran

private theorem Members.gathers_traverse {members : List Member} {value : Members source members}
    {result : Members target members} {before after : σ}
    (ran : running.runs (Members.traverse visitor members value) before result after) :
    gathered before after (Members.handles members result) := by
  induction members generalizing before with
  | nil =>
      obtain ⟨rfl, rfl⟩ := running.runs_pure ran
      exact gathers.nothing _
  | cons member others ih =>
      obtain ⟨first, rest⟩ := value
      obtain ⟨changed, between, ranFirst, ran⟩ := running.runs_bind ran
      obtain ⟨remaining, last, ranRest, ran⟩ := running.runs_bind ran
      obtain ⟨rfl, rfl⟩ := running.runs_pure ran
      exact gathers.append (Form.gathers_traverse gathers ranFirst) (ih ranRest)

private theorem Shape.gathers_traverse {shape : Shape} {value : shape.Data source}
    {result : shape.Data target} {before after : σ}
    (ran : running.runs (shape.traverse visitor value) before result after) :
    gathered before after (shape.handles result) := by
  cases shape with
  | fields members => exact Members.gathers_traverse gathers ran
  | elements type =>
      have handles : (elements type).handles result =
          List.flatMap (fun item : target.Handle type => [⟨type, item⟩]) result := List.map_eq_flatMap
      rw [handles]
      exact gathers.mapM _ gathers.handle ran

end Gathering

namespace Store

/-- The objects that are met below the nodes, each after those that it leads to and once for each of
its occurrences. -/
inductive Unrolls (store : Store) : (nodes occurrences : List Node) → Prop where
  | done : Unrolls store [] []
  | next {node : Node} {others inner outer : List Node}
      (below : Unrolls store (store.held node) inner) (rest : Unrolls store others outer) :
      Unrolls store (node :: others) (inner ++ node :: outer)

namespace Unrolls

variable {store : Store} {nodes others occurrences : List Node}

theorem append {more : List Node} (front : store.Unrolls nodes occurrences)
    (back : store.Unrolls others more) :
    store.Unrolls (nodes ++ others) (occurrences ++ more) := by
  induction front with
  | done => exact back
  | next below rest _ ih =>
      rw [List.append_assoc]
      exact .next below ih

theorem unique {more : List Node} (unrolls : store.Unrolls nodes occurrences)
    (another : store.Unrolls nodes more) : occurrences = more := by
  induction unrolls generalizing more with
  | done =>
      cases another
      rfl
  | next below rest ihBelow ihRest =>
      cases another with
      | next otherBelow otherRest => rw [ihBelow otherBelow, ihRest otherRest]

theorem grow {after : Store} (extension : store.Extends after)
    (unrolls : store.Unrolls nodes occurrences)
    (inside : ∀ node ∈ occurrences, node.ref.index < store.cells.size) :
    after.Unrolls nodes occurrences := by
  induction unrolls with
  | done => exact .done
  | @next node others inner outer below rest ihBelow ihRest =>
      have here := inside node (List.mem_append_right _ List.mem_cons_self)
      have same : after.held node = store.held node := by
        unfold held
        rw [extension.cell?_eq here]
      refine .next ?_ (ihRest fun node member =>
        inside node (List.mem_append_right _ (List.mem_cons_of_mem _ member)))
      rw [same]
      exact ihBelow fun node member => inside node (List.mem_append_left _ member)

end Unrolls

inductive Twins (source target : Store) : Node → Node → Prop where
  | both {depth : Nat} {type : ObjType} {tree : Tree depth type} {ref place : Ref}
      (unfolds : source.Unfolds depth type ref tree) (another : target.Unfolds depth type place tree) :
      Twins source target ⟨type, ref⟩ ⟨type, place⟩

def twinning (source target : Store) : Carrier.Relation Carrier.live Carrier.live where
  handle type left right := source.Twins target ⟨type, left⟩ ⟨type, right⟩
  loads _ _ := True
  memo _ _ := True

namespace Twins

variable {source target : Store} {node copy : Node}

theorem contents {type : ObjType} {ref place : Ref}
    (twins : source.Twins target ⟨type, ref⟩ ⟨type, place⟩) : ∃ data copy,
      source.data? type ref = some data ∧ target.data? type place = some copy ∧
        type.shape.Matches (source.twinning target) data copy := by
  cases twins with
  | @both depth type tree ref place unfolds another =>
      match depth with
      | 0 => exact tree.elim
      | depth + 1 =>
          obtain ⟨-, data, found, alike⟩ := unfolds
          obtain ⟨-, copy, present, otherAlike⟩ := another
          refine ⟨data, copy, found, present, ?_⟩
          exact Shape.Matches.comp alike otherAlike.flip
            { handle := fun _ _ _ _ near far => .both near far
              loads := fun _ _ _ _ _ => trivial
              memo := fun _ _ _ _ _ => trivial }

theorem held (twins : source.Twins target node copy) :
    List.Forall₂ (source.Twins target) (source.held node) (target.held copy) := by
  have same : copy.type = node.type := by
    cases twins
    rfl
  obtain ⟨type, ref⟩ := node
  obtain ⟨_, place⟩ := copy
  cases same
  obtain ⟨data, otherData, found, otherFound, matching⟩ := twins.contents
  rw [@held_eq source ⟨type, ref⟩ data found, @held_eq target ⟨type, place⟩ otherData otherFound]
  apply List.rel_map _ (Shape.handles_paired matching)
  rintro _ _ ⟨related⟩
  exact related

end Twins

theorem Unrolls.twins {source target : Store} {nodes copies occurrences : List Node}
    (unrolls : source.Unrolls nodes occurrences)
    (twins : List.Forall₂ (source.Twins target) nodes copies) :
    ∃ others, target.Unrolls copies others ∧
      List.Forall₂ (source.Twins target) occurrences others := by
  induction unrolls generalizing copies with
  | done =>
      cases twins
      exact ⟨[], .done, .nil⟩
  | next below rest ihBelow ihRest =>
      cases twins with
      | cons first further =>
          obtain ⟨inner, unrollsInner, twinsInner⟩ := ihBelow first.held
          obtain ⟨outer, unrollsOuter, twinsOuter⟩ := ihRest further
          exact ⟨_, .next unrollsInner unrollsOuter, List.rel_append twinsInner (.cons first twinsOuter)⟩

structure Laid (before after : Store) (nodes copies : List Node) : Prop where
  grown : before.Extends after
  unrolls : after.Unrolls nodes copies
  places : copies.map (fun copy => copy.ref.index) = List.range' before.cells.size copies.length
  size : after.cells.size = before.cells.size + copies.length

namespace Laid

variable {before between after : Store} {nodes others copies more : List Node}

theorem inside (laid : before.Laid after nodes copies) :
    ∀ node ∈ copies, node.ref.index < after.cells.size := by
  intro node member
  have place : node.ref.index ∈ List.range' before.cells.size copies.length := by
    rw [← laid.places]
    exact List.mem_map_of_mem member
  have within := (List.mem_range'_1.mp place).2
  rw [laid.size]
  exact within

theorem nothing (grown : before.Extends after) (same : after.cells = before.cells) :
    before.Laid after [] [] where
  grown := grown
  unrolls := .done
  places := rfl
  size := congrArg Array.size same

theorem append (front : before.Laid between nodes copies) (back : between.Laid after others more) :
    before.Laid after (nodes ++ others) (copies ++ more) where
  grown := front.grown.trans back.grown
  unrolls := (front.unrolls.grow back.grown front.inside).append back.unrolls
  places := by
    rw [List.map_append, front.places, back.places, front.size, List.length_append,
      List.range'_append_1]
  size := by
    rw [back.size, front.size, List.length_append, Nat.add_assoc]

theorem top (laid : before.Laid between nodes copies) {cell : Cell} (children : cell.children = nodes) :
    before.Laid (between.add [cell]) [⟨cell.type, ⟨between.cells.size⟩⟩]
      (copies ++ [⟨cell.type, ⟨between.cells.size⟩⟩]) := by
  have extension := extends_add between [cell]
  have present : (between.add [cell]).cell? ⟨between.cells.size⟩ = some cell :=
    @cell?_add_of_getElem? between [cell] 0 _ rfl
  have held : (between.add [cell]).held ⟨cell.type, ⟨between.cells.size⟩⟩ = nodes := by
    unfold Store.held
    rw [present]
    exact children
  refine ⟨laid.grown.trans extension, .next ?_ .done, ?_, ?_⟩
  · rw [held]
    exact laid.unrolls.grow extension laid.inside
  · rw [List.map_append, laid.places, List.length_append]
    change _ ++ [between.cells.size] = List.range' _ (copies.length + 1)
    rw [List.range'_concat, Nat.one_mul, laid.size]
  · rw [List.length_append, ← Nat.add_assoc, ← laid.size]
    exact Array.size_append

end Laid

end Store

private theorem Tree.plant_laid {depth : Nat} {type : ObjType} {tree : Tree depth type}
    {before after : Store} {ref : Ref} (ran : tree.plant depth type before = (ref, after)) :
    ∃ copies, before.Laid after [⟨type, ref⟩] copies := by
  induction depth generalizing type before after ref with
  | zero => exact tree.elim
  | succ depth ih =>
      obtain ⟨data, between, traversed, added⟩ := (Running.state Store).runs_bind ran
      have gathers : (Carrier.Visitor.planting (plant depth)).Gathers (Running.state Store)
          (fun before after handles => ∃ copies, before.Laid after
            (handles.map fun child => ⟨child.1, child.2⟩) copies) :=
        { nothing := fun store => ⟨[], .nothing (.refl store) rfl⟩
          append := by
            rintro first between last front back ⟨copies, laid⟩ ⟨more, further⟩
            rw [List.map_append]
            exact ⟨copies ++ more, laid.append further⟩
          handle := ih
          loads := by
            intro _ before _ after ran
            cases ran
            exact ⟨[], .nothing (Store.extends_newCounter before) rfl⟩
          memo := by
            intro _ before _ after ran
            cases ran
            exact ⟨[], .nothing (.refl before) rfl⟩ }
      obtain ⟨copies, laid⟩ := Shape.gathers_traverse gathers traversed
      cases (Store.alloc_eq between type data).symm.trans added
      exact ⟨_, laid.top rfl⟩

namespace Store

variable {store : Store} {type : ObjType} {ref : Ref}

/-- New objects stand for the occurrences below the root, one for each: behind those that were there
and in the order of the occurrences. Each has the same tree as the object that it stands for. -/
structure Replanted (source before after : Store) (root copy : Node) (occurrences : List Node) :
    Prop where
  root : source.Twins after root copy
  copies : ∃ copies, before.Laid after [copy] copies ∧
    List.Forall₂ (source.Twins after) occurrences copies

/-- Where there is a tree there are occurrences: those of the tree when it is planted. -/
theorem Unfolds.unrolls {depth : Nat} {tree : Tree depth type}
    (unfolds : store.Unfolds depth type ref tree) :
    ∃ occurrences, store.Unrolls [⟨type, ref⟩] occurrences := by
  rcases planted : tree.plant depth type store with ⟨place, after⟩
  obtain ⟨-, -, another⟩ := Tree.plant_spec planted
  obtain ⟨copies, laid⟩ := Tree.plant_laid planted
  have twins : after.Twins store ⟨type, place⟩ ⟨type, ref⟩ := .both another unfolds
  obtain ⟨occurrences, unrolls, -⟩ := laid.unrolls.twins (.cons twins .nil)
  exact ⟨occurrences, unrolls⟩

theorem replanted_of_plant {copy : Embedded type} {occurrences : List Node}
    (unfolds : store.Unfolds copy.depth type ref copy.tree)
    (unrolls : store.Unrolls [⟨type, ref⟩] occurrences) {before after : Store} {place : Ref}
    (planted : copy.plant before = (place, after)) :
    store.Replanted before after ⟨type, ref⟩ ⟨type, place⟩ occurrences := by
  obtain ⟨-, -, another⟩ := Embedded.plant_spec planted
  obtain ⟨copies, laid⟩ := Tree.plant_laid planted
  have twins : store.Twins after ⟨type, ref⟩ ⟨type, place⟩ := .both unfolds another
  obtain ⟨others, unrollsOthers, paired⟩ := unrolls.twins (.cons twins .nil)
  have same : others = copies := unrollsOthers.unique laid.unrolls
  exact ⟨twins, copies, laid, same ▸ paired⟩

end Store

end ObjectCourier
