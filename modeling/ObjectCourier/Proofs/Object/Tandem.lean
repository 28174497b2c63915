import ObjectCourier.Proofs.Object.Planting

/-!
Two runs side by side. A traversal visits contents that match in the same order, so what two visits
of matching parts establish, two traversals of matching contents establish as a whole. Two stores to
which matching contents are planted stay abreast: they gain the same number of objects and counters,
and what is equally far behind the two beginnings has matching content.
-/

namespace ObjectCourier

/-- What two runs keep up between their states, and how the first state changes meanwhile. -/
structure Tandem (σ τ : Type) where
  grows : σ → σ → Prop
  keeps : σ → τ → Prop
  same_grows : ∀ state, grows state state
  grows_trans : ∀ {first second third}, grows first second → grows second third → grows first third

variable {σ τ α β α' β' : Type} {tandem : Tandem σ τ}

structure Tandem.Runs (tandem : Tandem σ τ) (same : σ → α → β → Prop) (first : StateM σ α)
    (second : StateM τ β) (left : σ) (right : τ) : Prop where
  grown : tandem.grows left (first left).2
  kept : tandem.keeps (first left).2 (second right).2
  same : same (first left).2 (first left).1 (second right).1

namespace Tandem.Runs

theorem pure {same : σ → α → β → Prop} {value : α} {other : β} {left : σ} {right : τ}
    (kept : tandem.keeps left right) (holds : same left value other) :
    tandem.Runs same (Pure.pure value) (Pure.pure other) left right where
  grown := tandem.same_grows left
  kept := kept
  same := holds

theorem bind {same : σ → α → β → Prop} {next : σ → α' → β' → Prop} {first : StateM σ α}
    {second : StateM τ β} {further : α → StateM σ α'} {onward : β → StateM τ β'} {left : σ}
    {right : τ}
    (runs : tandem.Runs same first second left right)
    (continues : ∀ {value other between beside}, tandem.grows left between →
      tandem.keeps between beside → same between value other →
        tandem.Runs next (further value) (onward other) between beside) :
    tandem.Runs next (first >>= further) (second >>= onward) left right := by
  have after := continues runs.grown runs.kept runs.same
  exact ⟨tandem.grows_trans runs.grown after.grown, after.kept, after.same⟩

theorem mapM (before : α → β → Prop) (same : σ → α' → β' → Prop) {visit : α → StateM σ α'}
    {attend : β → StateM τ β'}
    (stays : ∀ {early late value other}, tandem.grows early late → same early value other →
      same late value other)
    (visits : ∀ {item other left right}, before item other → tandem.keeps left right →
      tandem.Runs same (visit item) (attend other) left right)
    {items : List α} {others : List β} (alike : List.Forall₂ before items others) {left : σ}
    {right : τ} (kept : tandem.keeps left right) :
    tandem.Runs (fun state => List.Forall₂ (same state)) (items.mapM visit) (others.mapM attend) left
      right := by
  induction alike generalizing left right with
  | nil =>
      rw [List.mapM_nil, List.mapM_nil]
      exact .pure kept .nil
  | cons head _ ih =>
      rw [List.mapM_cons, List.mapM_cons]
      refine (visits head kept).bind fun _ kept headSame => ?_
      refine (ih kept).bind fun later kept tailSame => ?_
      exact .pure kept (.cons (stays later headSame) tailSame)

end Tandem.Runs

section Values

variable {Source Other Target Copy : ObjType → Type}
  (before : (type : ObjType) → Source type → Other type → Prop)
  (same : σ → (type : ObjType) → Target type → Copy type → Prop)
  {visit : (type : ObjType) → Source type → StateM σ (Target type)}
  {attend : (type : ObjType) → Other type → StateM τ (Copy type)}

theorem FieldType.runs_traverse
    (stays : ∀ {early late type value other}, tandem.grows early late → same early type value other →
      same late type value other)
    (visits : ∀ {type value other left right}, before type value other → tandem.keeps left right →
      tandem.Runs (fun state => same state type) (visit type value) (attend type other) left right)
    {type : FieldType} {value : type.Val Source} {other : type.Val Other}
    (alike : type.Matches before value other) {left : σ} {right : τ}
    (kept : tandem.keeps left right) :
    tandem.Runs (fun state => type.Matches (same state)) (type.traverse visit value)
      (type.traverse attend other) left right := by
  induction type generalizing left right with
  | int kind | float32 | float64 | bool | text => exact .pure kept alike
  | option type ih =>
      match value, other, alike with
      | none, none, _ => exact .pure kept trivial
      | some _, some _, alike => exact (ih alike kept).bind fun _ kept same => .pure kept same
  | vector type ih =>
      exact Tandem.Runs.mapM (type.Matches before) (fun state => type.Matches (same state))
        (fun later alike => alike.imp fun _ _ _ => stays later) (fun alike kept => ih alike kept)
        alike kept
  | handle type => exact visits alike kept

end Values

structure Tandem.Visits {source other target copy : Carrier} (tandem : Tandem σ τ)
    (before : Carrier.Relation source other) (relation : σ → Carrier.Relation target copy)
    (visitor : Carrier.Visitor (StateM σ) source target)
    (attendant : Carrier.Visitor (StateM τ) other copy) : Prop where
  stays : ∀ {early late}, tandem.grows early late → (relation early).Implies (relation late)
  handle : ∀ {type value twin left right}, before.handle type value twin → tandem.keeps left right →
    tandem.Runs (fun state => (relation state).handle type) (visitor.handle type value)
      (attendant.handle type twin) left right
  loads : ∀ {value twin left right}, before.loads value twin → tandem.keeps left right →
    tandem.Runs (fun state => (relation state).loads) (visitor.loads value) (attendant.loads twin)
      left right
  memo : ∀ {value twin left right}, before.memo value twin → tandem.keeps left right →
    tandem.Runs (fun state => (relation state).memo) (visitor.memo value) (attendant.memo twin) left
      right

section Contents

variable {source other target copy : Carrier} {before : Carrier.Relation source other}
  {relation : σ → Carrier.Relation target copy}
  {visitor : Carrier.Visitor (StateM σ) source target}
  {attendant : Carrier.Visitor (StateM τ) other copy}
  (visits : tandem.Visits before relation visitor attendant)

include visits

private theorem FieldType.runs_of_visits {type : FieldType} {value : type.Val source.Handle}
    {twin : type.Val other.Handle} (alike : type.Matches before.handle value twin) {left : σ}
    {right : τ} (kept : tandem.keeps left right) :
    tandem.Runs (fun state => type.Matches (relation state).handle)
      (type.traverse visitor.handle value) (type.traverse attendant.handle twin) left right :=
  FieldType.runs_traverse before.handle (fun state => (relation state).handle)
    (fun later => (visits.stays later).handle _ _ _) visits.handle alike kept

theorem Container.runs_traverse {type : FieldType} {value : Container (type.Val source.Handle)}
    {twin : Container (type.Val other.Handle)}
    (alike : value.Matches (type.Matches before.handle) twin) {left : σ} {right : τ}
    (kept : tandem.keeps left right) :
    tandem.Runs (fun state value twin => value.Matches (type.Matches (relation state).handle) twin)
      (value.traverse (type.traverse visitor.handle))
      (twin.traverse (type.traverse attendant.handle)) left right := by
  have held : tandem.Runs
      (fun state value twin => value.Matches (type.Matches (relation state).handle) twin)
      (value.held.traverse (type.traverse visitor.handle))
      (twin.held.traverse (type.traverse attendant.handle)) left right := by
    match value, twin, alike.held with
    | ⟨_, .empty, _, _⟩, ⟨_, .empty, _, _⟩, _ => exact .pure kept trivial
    | ⟨_, .plain _, _, _⟩, ⟨_, .plain _, _, _⟩, alike
    | ⟨_, .tracked _, _, _⟩, ⟨_, .tracked _, _, _⟩, alike =>
        exact (FieldType.runs_of_visits visits alike kept).bind fun _ kept same => .pure kept same
  refine held.bind fun _ kept same => .pure kept ?_
  exact ⟨alike.name, same, alike.dirty, alike.serializable⟩

theorem Form.runs_traverse {form : Form} {value : form.Val source} {twin : form.Val other}
    (alike : form.Matches before value twin) {left : σ} {right : τ}
    (kept : tandem.keeps left right) :
    tandem.Runs (fun state => form.Matches (relation state)) (form.traverse visitor value)
      (form.traverse attendant twin) left right := by
  cases form with
  | bare type | aside type => exact FieldType.runs_of_visits visits alike kept
  | container type => exact Container.runs_traverse visits alike kept
  | loads => exact visits.loads alike kept
  | memo => exact visits.memo alike kept

theorem Members.runs_traverse {members : List Member} {value : Members source members}
    {twin : Members other members} (alike : Members.Matches before members value twin) {left : σ}
    {right : τ} (kept : tandem.keeps left right) :
    tandem.Runs (fun state => Members.Matches (relation state) members)
      (Members.traverse visitor members value) (Members.traverse attendant members twin) left
      right := by
  induction members generalizing left right with
  | nil => exact .pure kept trivial
  | cons member others ih =>
      obtain ⟨first, rest⟩ := value
      obtain ⟨firstTwin, restTwin⟩ := twin
      refine (Form.runs_traverse visits alike.1 kept).bind fun _ kept head => ?_
      refine (ih alike.2 kept).bind fun later kept tail => ?_
      exact .pure kept ⟨head.imp (visits.stays later), tail⟩

theorem Shape.runs_traverse {shape : Shape} {value : shape.Data source} {twin : shape.Data other}
    (alike : shape.Matches before value twin) {left : σ} {right : τ}
    (kept : tandem.keeps left right) :
    tandem.Runs (fun state => shape.Matches (relation state)) (shape.traverse visitor value)
      (shape.traverse attendant twin) left right := by
  cases shape with
  | fields members => exact Members.runs_traverse visits alike kept
  | elements type =>
      exact Tandem.Runs.mapM (before.handle type) (fun state => (relation state).handle type)
        (fun later => (visits.stays later).handle _ _ _) visits.handle alike kept

end Contents

/-- The places are equally far behind the objects that two stores began with. -/
def Ref.Level (start other : Store) (left right : Ref) : Prop :=
  ∃ offset, left = ⟨start.cells.size + offset⟩ ∧ right = ⟨other.cells.size + offset⟩

def CounterId.Level (start other : Store) (left right : CounterId) : Prop :=
  ∃ offset, left = ⟨start.counters.size + offset⟩ ∧ right = ⟨other.counters.size + offset⟩

def Carrier.Relation.level (start other state : Store) :
    Carrier.Relation Carrier.live Carrier.live where
  handle type left right := Ref.Level start other left right ∧ state.Leads ⟨type, left⟩
  loads left right := CounterId.Level start other left right ∧ left.index < state.counters.size
  memo left right := right = left

namespace Store

structure Abreast (start other left right : Store) : Prop where
  cells : Ref.Level start other ⟨left.cells.size⟩ ⟨right.cells.size⟩
  counters : CounterId.Level start other ⟨left.counters.size⟩ ⟨right.counters.size⟩
  objects : ∀ ref copy cell, Ref.Level start other ref copy → left.cell? ref = some cell →
    ∃ data, right.cell? copy = some { type := cell.type, data := data, poisoned := cell.poisoned } ∧
      cell.type.shape.Matches (.level start other left) cell.data data

variable {start other left right : Store}

theorem Abreast.refl (start other : Store) : start.Abreast other start other where
  cells := ⟨0, rfl, rfl⟩
  counters := ⟨0, rfl, rfl⟩
  objects := by
    rintro _ _ cell ⟨offset, rfl, rfl⟩ present
    have inside := (Array.getElem?_eq_some_iff.mp present).1
    exact absurd inside (Nat.not_lt.mpr (Nat.le_add_right _ _))

theorem Extends.level {early late : Store} (extension : early.Extends late) :
    (Carrier.Relation.level start other early).Implies (.level start other late) where
  handle _ _ _ both := ⟨both.1, extension.leads both.2⟩
  loads _ _ both := ⟨both.1, Nat.lt_of_lt_of_le both.2 extension.counters_size_le⟩
  memo _ _ := id

def abreast (start other : Store) : Tandem Store Store where
  grows := Extends
  keeps := start.Abreast other
  same_grows := .refl
  grows_trans := .trans

theorem runs_newCounter (kept : start.Abreast other left right) :
    (abreast start other).Runs (fun state => (Carrier.Relation.level start other state).loads)
      newCounter newCounter left right where
  grown := extends_newCounter left
  kept := by
    obtain ⟨offset, here, there⟩ := kept.counters
    refine ⟨kept.cells, ⟨offset + 1, ?_, ?_⟩, fun ref copy cell level present => ?_⟩
    · exact congrArg CounterId.mk ((Array.size_push 0).trans
        (congrArg (·.index + 1) here))
    · exact congrArg CounterId.mk ((Array.size_push 0).trans
        (congrArg (·.index + 1) there))
    · obtain ⟨data, twin, alike⟩ := kept.objects ref copy cell level present
      exact ⟨data, twin, alike.imp (extends_newCounter left).level⟩
  same := ⟨kept.counters, Nat.lt_of_lt_of_eq (Nat.lt_succ_self _) (Array.size_push _).symm⟩

private theorem runs_alloc (kept : start.Abreast other left right) {type : ObjType}
    {data copy : type.Data Carrier.live}
    (alike : type.shape.Matches (.level start other left) data copy) :
    (abreast start other).Runs (fun state => (Carrier.Relation.level start other state).handle type)
      (fun store => store.alloc type data) (fun store => store.alloc type copy) left right := by
  let cell : Cell := { type := type, data := data }
  let twin : Cell := { type := type, data := copy }
  have grown := extends_add left [cell]
  have top : (left.add [cell]).cell? ⟨left.cells.size⟩ = some cell :=
    @cell?_add_of_getElem? left [cell] 0 _ rfl
  have topTwin : (right.add [twin]).cell? ⟨right.cells.size⟩ = some twin :=
    @cell?_add_of_getElem? right [twin] 0 _ rfl
  have sizes (store : Store) (cell : Cell) : (store.add [cell]).cells.size = store.cells.size + 1 :=
    Array.size_append
  obtain ⟨offset, here, there⟩ := kept.cells
  have abreast : start.Abreast other (left.add [cell]) (right.add [twin]) := by
    refine ⟨⟨offset + 1, ?_, ?_⟩, kept.counters, ?_⟩
    · exact congrArg Ref.mk ((sizes left cell).trans (congrArg (·.index + 1) here))
    · exact congrArg Ref.mk ((sizes right twin).trans (congrArg (·.index + 1) there))
    · rintro ref copy found level present
      -- Level places are both old, or they are the two new ones.
      rcases Nat.lt_or_ge ref.index left.cells.size with old | new
      · rw [grown.cell?_eq old] at present
        obtain ⟨data, twinPresent, alike⟩ := kept.objects ref copy found level present
        exact ⟨data, (extends_add right [twin]).cells _ _ twinPresent, alike.imp grown.level⟩
      · have inside : ref.index < left.cells.size + 1 :=
          sizes left cell ▸ (Array.getElem?_eq_some_iff.mp present).1
        obtain ⟨distance, rfl, rfl⟩ := level
        have same : distance = offset := by
          have size : left.cells.size = start.cells.size + offset := congrArg Ref.index here
          simp only at new inside
          omega
        subst same
        rw [← here] at present
        rw [← there]
        cases top.symm.trans present
        exact ⟨_, topTwin, alike.imp grown.level⟩
  constructor
  · rw [alloc_eq]
    exact grown
  · rw [alloc_eq, alloc_eq]
    exact abreast
  · rw [alloc_eq, alloc_eq]
    exact ⟨⟨offset, here, there⟩, cell, top, rfl⟩

end Store

def Carrier.Relation.twins (Handle : ObjType → Type) :
    Carrier.Relation (.byValue Handle) (.byValue Handle) where
  handle _ copy twin := twin = copy
  loads _ _ := True
  memo _ _ := True

private theorem Carrier.Visitor.planting_visits {Handle : ObjType → Type}
    {plant : (type : ObjType) → Handle type → StateM Store Ref} {start other : Store}
    (plants : ∀ {type copy left right}, start.Abreast other left right →
      (Store.abreast start other).Runs
        (fun state => (Carrier.Relation.level start other state).handle type) (plant type copy)
        (plant type copy) left right) :
    (Store.abreast start other).Visits (.twins Handle) (.level start other) (.planting plant)
      (.planting plant) where
  stays extension := extension.level
  handle := by
    rintro type copy _ left right rfl kept
    exact plants kept
  loads _ kept := Store.runs_newCounter kept
  memo _ kept := .pure kept rfl

theorem Tree.runs_plant {start other left right : Store} {depth : Nat} {type : ObjType}
    (tree : Tree depth type) (kept : start.Abreast other left right) :
    (Store.abreast start other).Runs
      (fun state => (Carrier.Relation.level start other state).handle type)
      (tree.plant depth type) (tree.plant depth type) left right := by
  induction depth generalizing type left right with
  | zero => exact tree.elim
  | succ depth ih =>
      have visits : (Store.abreast start other).Visits (.twins (Tree depth)) (.level start other)
          (.planting (plant depth)) (.planting (plant depth)) :=
        Carrier.Visitor.planting_visits fun kept => ih _ kept
      have same : type.shape.Matches (.twins (Tree depth)) tree tree :=
        Shape.matches_self (fun _ => trivial) (fun _ => trivial) fun _ _ => rfl
      have traversed := Shape.runs_traverse visits same kept
      exact traversed.bind fun _ kept alike => Store.runs_alloc kept alike

theorem Embedded.runs_plant {start other left right : Store} {type : ObjType}
    (copy : Embedded type) (kept : start.Abreast other left right) :
    (Store.abreast start other).Runs
      (fun state => (Carrier.Relation.level start other state).handle type) copy.plant copy.plant
      left right :=
  Tree.runs_plant copy.tree kept

end ObjectCourier
