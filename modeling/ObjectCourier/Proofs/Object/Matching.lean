import ObjectCourier.Object.Value
import ObjectCourier.Proofs.Outcome

/-!
Contents that match. Two contents match when they are the same but for their handles, load counts
and memos, which stand in a given relation. Every traversal gives contents that match, because a
traversal changes nothing but these; and matches compose.
-/

namespace ObjectCourier

/-- How the actions of a monad run, from a state to a value and a state. -/
structure Running (m : Type → Type) [Monad m] (σ : Type) where
  runs : {α : Type} → m α → σ → α → σ → Prop
  runs_pure : ∀ {α : Type} {value result : α} {before after : σ},
    runs (pure value) before result after → result = value ∧ after = before
  runs_bind : ∀ {α β : Type} {first : m α} {next : α → m β} {result : β} {before after : σ},
    runs (first >>= next) before result after →
      ∃ value between, runs first before value between ∧ runs (next value) between result after

namespace Running

def state (σ : Type) : Running (StateM σ) σ where
  runs action before result after := action before = (result, after)
  runs_pure ran := by
    cases ran
    exact ⟨rfl, rfl⟩
  runs_bind ran := ⟨_, _, rfl, ran⟩

def succeeding (ε σ : Type) : Running (ExceptT ε (StateM σ)) σ where
  runs action before result after := action before = (.ok result, after)
  runs_pure ran := by
    cases ran
    exact ⟨rfl, rfl⟩
  runs_bind := exists_of_bind_ran

def plain : Running Id Unit where
  runs action _ result _ := action = result
  runs_pure ran := ⟨ran.symm, rfl⟩
  runs_bind ran := ⟨_, (), rfl, ran⟩

end Running

structure Carrier.Relation (source target : Carrier) where
  handle : (type : ObjType) → source.Handle type → target.Handle type → Prop
  loads : source.Loads → target.Loads → Prop
  memo : source.Memo → target.Memo → Prop

variable {Source Target Third : ObjType → Type} {source target third : Carrier}

namespace FieldType

/-- The values are the same but for their handles. -/
def Matches (same : (type : ObjType) → Source type → Target type → Prop) :
    (type : FieldType) → type.Val Source → type.Val Target → Prop
  | int _, left, right => left = right
  | float32, left, right => left = right
  | float64, left, right => left = right
  | bool, left, right => left = right
  | text, left, right => left = right
  | option type, left, right =>
      match (show Option (type.Val Source) from left), (show Option (type.Val Target) from right) with
      | none, none => True
      | some left, some right => Matches same type left right
      | _, _ => False
  | vector type, left, right => List.Forall₂ (Matches same type) left right
  | handle type, left, right => same type left right

end FieldType

def Held.Matches {α β : Type} (same : α → β → Prop) : Held α → Held β → Prop
  | empty, empty => True
  | plain left, plain right => same left right
  | tracked left, tracked right => same left right
  | _, _ => False

structure Container.Matches {α β : Type} (same : α → β → Prop) (left : Container α)
    (right : Container β) : Prop where
  name : right.name = left.name
  held : left.held.Matches same right.held
  dirty : right.dirty = left.dirty
  serializable : right.serializable = left.serializable

def Form.Matches (relation : Carrier.Relation source target) :
    (form : Form) → form.Val source → form.Val target → Prop
  | bare type, left, right => type.Matches relation.handle left right
  | container type, left, right =>
      Container.Matches (type.Matches relation.handle)
        (show Container (type.Val source.Handle) from left)
        (show Container (type.Val target.Handle) from right)
  | aside type, left, right => type.Matches relation.handle left right
  | loads, left, right => relation.loads left right
  | memo, left, right => relation.memo left right

def Members.Matches (relation : Carrier.Relation source target) :
    (members : List Member) → Members source members → Members target members → Prop
  | [], _, _ => True
  | member :: others, (left, leftRest), (right, rightRest) =>
      member.form.Matches relation left right ∧ Matches relation others leftRest rightRest

def Shape.Matches (relation : Carrier.Relation source target) :
    (shape : Shape) → shape.Data source → shape.Data target → Prop
  | fields members, left, right => Members.Matches relation members left right
  | elements type, left, right => List.Forall₂ (relation.handle type) left right

/-! ### A weaker relation -/

theorem FieldType.Matches.imp {same weaker : (type : ObjType) → Source type → Target type → Prop}
    {type : FieldType} {left : type.Val Source} {right : type.Val Target}
    (alike : type.Matches same left right)
    (implies : ∀ type left right, same type left right → weaker type left right) :
    type.Matches weaker left right := by
  induction type with
  | int kind | float32 | float64 | bool | text => exact alike
  | option type ih =>
      match left, right, alike with
      | none, none, _ => trivial
      | some _, some _, alike => exact ih alike
  | vector type ih => exact List.Forall₂.imp (fun _ _ => ih) alike
  | handle type => exact implies type left right alike

theorem Held.Matches.imp {α β : Type} {same weaker : α → β → Prop} {left : Held α} {right : Held β}
    (alike : left.Matches same right)
    (implies : ∀ left right, same left right → weaker left right) :
    left.Matches weaker right := by
  match left, right, alike with
  | .empty, .empty, _ => trivial
  | .plain _, .plain _, alike => exact implies _ _ alike
  | .tracked _, .tracked _, alike => exact implies _ _ alike

theorem Container.Matches.imp {α β : Type} {same weaker : α → β → Prop} {left : Container α}
    {right : Container β} (alike : left.Matches same right)
    (implies : ∀ left right, same left right → weaker left right) :
    left.Matches weaker right :=
  { alike with held := alike.held.imp implies }

structure Carrier.Relation.Implies (relation weaker : Carrier.Relation source target) : Prop where
  handle : ∀ type left right, relation.handle type left right → weaker.handle type left right
  loads : ∀ left right, relation.loads left right → weaker.loads left right
  memo : ∀ left right, relation.memo left right → weaker.memo left right

section Weaker

variable {relation weaker : Carrier.Relation source target}

theorem Form.Matches.imp {form : Form} {left : form.Val source} {right : form.Val target}
    (alike : form.Matches relation left right) (implies : relation.Implies weaker) :
    form.Matches weaker left right := by
  cases form with
  | bare type | aside type => exact FieldType.Matches.imp alike implies.handle
  | container type => exact Container.Matches.imp alike fun _ _ held => held.imp implies.handle
  | loads => exact implies.loads _ _ alike
  | memo => exact implies.memo _ _ alike

theorem Members.Matches.imp {members : List Member} {left : Members source members}
    {right : Members target members} (alike : Members.Matches relation members left right)
    (implies : relation.Implies weaker) : Members.Matches weaker members left right := by
  induction members with
  | nil => trivial
  | cons member others ih => exact ⟨Form.Matches.imp alike.1 implies, ih alike.2⟩

theorem Shape.Matches.imp {shape : Shape} {left : shape.Data source} {right : shape.Data target}
    (alike : shape.Matches relation left right) (implies : relation.Implies weaker) :
    shape.Matches weaker left right := by
  cases shape with
  | fields members => exact Members.Matches.imp alike implies
  | elements type => exact List.Forall₂.imp (implies.handle type) alike

end Weaker

/-! ### Traversals -/

section Traversal

variable {m : Type → Type} [Monad m] [LawfulMonad m] {σ : Type} (running : Running m σ)
  {grows : σ → σ → Prop} (same_grows : ∀ state, grows state state)
  (grows_trans : ∀ {first second third}, grows first second → grows second third →
    grows first third)

include same_grows grows_trans

/-- A traversal of a list relates its items one by one. What holds of an item between the states
before and after its visit must still hold between an earlier and a later state. -/
theorem Running.mapM_matches {α β : Type} {visit : α → m β} (same : σ → σ → α → β → Prop)
    (kept : ∀ {first before after last item result}, grows first before → grows after last →
      same before after item result → same first last item result)
    (visits : ∀ {item before result after}, running.runs (visit item) before result after →
      grows before after ∧ same before after item result)
    {items : List α} {before after : σ} {results : List β}
    (ran : running.runs (items.mapM visit) before results after) :
    grows before after ∧ List.Forall₂ (same before after) items results := by
  induction items generalizing before results with
  | nil =>
      rw [List.mapM_nil] at ran
      obtain ⟨rfl, rfl⟩ := running.runs_pure ran
      exact ⟨same_grows _, List.Forall₂.nil⟩
  | cons first others ih =>
      rw [List.mapM_cons] at ran
      obtain ⟨head, between, ranHead, ran⟩ := running.runs_bind ran
      obtain ⟨tail, last, ranTail, ran⟩ := running.runs_bind ran
      obtain ⟨rfl, rfl⟩ := running.runs_pure ran
      obtain ⟨grown, headSame⟩ := visits ranHead
      obtain ⟨grownOn, tailSame⟩ := ih ranTail
      have tailKept : List.Forall₂ (same before after) others tail :=
        tailSame.imp fun _ _ => kept grown (same_grows _)
      exact ⟨grows_trans grown grownOn,
        List.Forall₂.cons (kept (same_grows _) grownOn headSame) tailKept⟩

section Values

variable {visit : (type : ObjType) → Source type → m (Target type)}
  (same : σ → σ → (type : ObjType) → Source type → Target type → Prop)
  (kept : ∀ {first before after last type handle result}, grows first before → grows after last →
    same before after type handle result → same first last type handle result)
  (visits : ∀ {type handle before result after},
    running.runs (visit type handle) before result after →
      grows before after ∧ same before after type handle result)

include kept visits

theorem FieldType.matches_traverse (type : FieldType) {value : type.Val Source}
    {result : type.Val Target} {before after : σ}
    (ran : running.runs (type.traverse visit value) before result after) :
    grows before after ∧ type.Matches (same before after) value result := by
  induction type generalizing before after with
  | int kind | float32 | float64 | bool | text =>
      obtain ⟨rfl, rfl⟩ := running.runs_pure ran
      exact ⟨same_grows _, rfl⟩
  | option type ih =>
      match value with
      | none =>
          obtain ⟨rfl, rfl⟩ := running.runs_pure ran
          exact ⟨same_grows _, trivial⟩
      | some inner =>
          obtain ⟨changed, between, ranInner, ran⟩ := running.runs_bind ran
          obtain ⟨rfl, rfl⟩ := running.runs_pure ran
          exact ih ranInner
  | vector type ih =>
      exact running.mapM_matches same_grows grows_trans
        (fun before after => type.Matches (same before after))
        (fun earlier later alike => alike.imp fun _ _ _ => kept earlier later) ih ran
  | handle type => exact visits ran

end Values

end Traversal

section Holders

variable {m : Type → Type} [Monad m] {σ : Type} (running : Running m σ) {grows : σ → σ → Prop}
  (same_grows : ∀ state, grows state state)

include same_grows

theorem Held.matches_traverse {α β : Type} {visit : α → m β} (same : σ → σ → α → β → Prop)
    (visits : ∀ {item before result after}, running.runs (visit item) before result after →
      grows before after ∧ same before after item result)
    {held : Held α} {result : Held β} {before after : σ}
    (ran : running.runs (held.traverse visit) before result after) :
    grows before after ∧ held.Matches (same before after) result := by
  cases held with
  | empty =>
      obtain ⟨rfl, rfl⟩ := running.runs_pure ran
      exact ⟨same_grows _, trivial⟩
  | plain value | tracked value =>
      obtain ⟨changed, between, ranValue, ran⟩ := running.runs_bind ran
      obtain ⟨rfl, rfl⟩ := running.runs_pure ran
      exact visits ranValue

theorem Container.matches_traverse {α β : Type} {visit : α → m β} (same : σ → σ → α → β → Prop)
    (visits : ∀ {item before result after}, running.runs (visit item) before result after →
      grows before after ∧ same before after item result)
    {container : Container α} {result : Container β} {before after : σ}
    (ran : running.runs (container.traverse visit) before result after) :
    grows before after ∧ container.Matches (same before after) result := by
  obtain ⟨held, between, ranHeld, ran⟩ := running.runs_bind ran
  obtain ⟨rfl, rfl⟩ := running.runs_pure ran
  obtain ⟨grown, alike⟩ := Held.matches_traverse running same_grows same visits ranHeld
  exact ⟨grown, { name := rfl, held := alike, dirty := rfl, serializable := rfl }⟩

end Holders

/-- A visitor does to every handle, load count and memo what a relation tells of the states before
and after the visit, and what it tells holds of earlier and later states too. -/
structure Carrier.Visitor.Carries {m : Type → Type} [Monad m] {σ : Type} (running : Running m σ)
    (grows : σ → σ → Prop) (visitor : Carrier.Visitor m source target)
    (relation : σ → σ → Carrier.Relation source target) : Prop where
  same_grows : ∀ state, grows state state
  grows_trans : ∀ {first second third}, grows first second → grows second third → grows first third
  kept : ∀ {first before after last}, grows first before → grows after last →
    (relation before after).Implies (relation first last)
  handle : ∀ {type value before result after},
    running.runs (visitor.handle type value) before result after →
      grows before after ∧ (relation before after).handle type value result
  loads : ∀ {value before result after}, running.runs (visitor.loads value) before result after →
    grows before after ∧ (relation before after).loads value result
  memo : ∀ {value before result after}, running.runs (visitor.memo value) before result after →
    grows before after ∧ (relation before after).memo value result

section Contents

variable {m : Type → Type} [Monad m] [LawfulMonad m] {σ : Type} {running : Running m σ}
  {grows : σ → σ → Prop} {visitor : Carrier.Visitor m source target}
  {relation : σ → σ → Carrier.Relation source target} {before after : σ}
  (carries : visitor.Carries running grows relation)

include carries

theorem FieldType.matches_of_carries {type : FieldType} {value : type.Val source.Handle}
    {before after : σ} {result : type.Val target.Handle}
    (ran : running.runs (type.traverse visitor.handle value) before result after) :
    grows before after ∧ type.Matches (relation before after).handle value result :=
  FieldType.matches_traverse running carries.same_grows carries.grows_trans
    (fun before after => (relation before after).handle)
    (fun earlier later => (carries.kept earlier later).handle _ _ _) carries.handle type ran

theorem Form.matches_traverse {form : Form} {value : form.Val source} {result : form.Val target}
    (ran : running.runs (form.traverse visitor value) before result after) :
    grows before after ∧ form.Matches (relation before after) value result := by
  cases form with
  | bare type | aside type => exact FieldType.matches_of_carries carries ran
  | container type =>
      exact Container.matches_traverse running carries.same_grows
        (fun before after => type.Matches (relation before after).handle)
        (FieldType.matches_of_carries carries) ran
  | loads => exact carries.loads ran
  | memo => exact carries.memo ran

theorem Members.matches_traverse {members : List Member} {value : Members source members}
    {result : Members target members}
    (ran : running.runs (Members.traverse visitor members value) before result after) :
    grows before after ∧ Members.Matches (relation before after) members value result := by
  induction members generalizing before with
  | nil =>
      obtain ⟨rfl, rfl⟩ := running.runs_pure ran
      exact ⟨carries.same_grows _, trivial⟩
  | cons member others ih =>
      obtain ⟨first, rest⟩ := value
      obtain ⟨changed, between, ranFirst, ran⟩ := running.runs_bind ran
      obtain ⟨remaining, last, ranRest, ran⟩ := running.runs_bind ran
      obtain ⟨rfl, rfl⟩ := running.runs_pure ran
      obtain ⟨grown, head⟩ := Form.matches_traverse carries ranFirst
      obtain ⟨grownOn, tail⟩ := ih ranRest
      have headKept := head.imp (carries.kept (carries.same_grows _) grownOn)
      have tailKept := tail.imp (carries.kept grown (carries.same_grows _))
      exact ⟨carries.grows_trans grown grownOn, headKept, tailKept⟩

theorem Shape.matches_traverse {shape : Shape} {value : shape.Data source}
    {result : shape.Data target}
    (ran : running.runs (shape.traverse visitor value) before result after) :
    grows before after ∧ shape.Matches (relation before after) value result := by
  cases shape with
  | fields members => exact Members.matches_traverse carries ran
  | elements type =>
      exact running.mapM_matches carries.same_grows carries.grows_trans
        (fun before after => (relation before after).handle type)
        (fun earlier later => (carries.kept earlier later).handle _ _ _) carries.handle ran

end Contents

/-! ### Changes without effects -/

/-- A visitor without effects carries the relation in which it stands to its results. -/
theorem Carrier.Visitor.plain_carries {visitor : Carrier.Visitor Id source target}
    {relation : Carrier.Relation source target}
    (handle : ∀ type value, relation.handle type value (visitor.handle type value))
    (loads : ∀ value, relation.loads value (visitor.loads value))
    (memo : ∀ value, relation.memo value (visitor.memo value)) :
    visitor.Carries Running.plain (fun _ _ => True) (fun _ _ => relation) where
  same_grows _ := trivial
  grows_trans _ _ := trivial
  kept _ _ := ⟨fun _ _ _ => id, fun _ _ => id, fun _ _ => id⟩
  handle := by
    rintro type value _ result _ rfl
    exact ⟨trivial, handle type value⟩
  loads := by
    rintro value _ result _ rfl
    exact ⟨trivial, loads value⟩
  memo := by
    rintro value _ result _ rfl
    exact ⟨trivial, memo value⟩

theorem Shape.matches_of_plain {visitor : Carrier.Visitor Id source target}
    {relation : Carrier.Relation source target}
    (carries : visitor.Carries Running.plain (fun _ _ => True) (fun _ _ => relation)) (shape : Shape)
    (value : shape.Data source) :
    shape.Matches relation value (Id.run (shape.traverse visitor value)) :=
  (@Shape.matches_traverse _ _ _ _ _ _ _ _ _ _ () () carries shape value _ rfl).2

/-! ### Composition -/

theorem forall₂_comp {α β γ : Type} {first : α → β → Prop} {second : β → γ → Prop}
    {both : α → γ → Prop} {left : List α} {middle : List β} {right : List γ}
    (alike : List.Forall₂ first left middle) (further : List.Forall₂ second middle right)
    (composes : ∀ left middle right, first left middle → second middle right → both left right) :
    List.Forall₂ both left right := by
  induction alike generalizing right with
  | nil =>
      cases further
      exact List.Forall₂.nil
  | cons head _ ih =>
      cases further with
      | cons next rest => exact List.Forall₂.cons (composes _ _ _ head next) (ih rest)

theorem FieldType.Matches.comp {first : (type : ObjType) → Source type → Target type → Prop}
    {second : (type : ObjType) → Target type → Third type → Prop}
    {both : (type : ObjType) → Source type → Third type → Prop} {type : FieldType}
    {left : type.Val Source} {middle : type.Val Target} {right : type.Val Third}
    (alike : type.Matches first left middle) (further : type.Matches second middle right)
    (composes : ∀ type left middle right, first type left middle → second type middle right →
      both type left right) : type.Matches both left right := by
  induction type with
  | int kind | float32 | float64 | bool | text => exact Eq.trans alike further
  | option type ih =>
      match left, middle, right, alike, further with
      | none, none, none, _, _ => trivial
      | some _, some _, some _, alike, further => exact ih alike further
  | vector type ih =>
      have near : List.Forall₂ (type.Matches first) left middle := alike
      have far : List.Forall₂ (type.Matches second) middle right := further
      exact forall₂_comp near far fun _ _ _ => ih
  | handle type => exact composes type left middle right alike further

theorem Held.Matches.comp {α β γ : Type} {first : α → β → Prop} {second : β → γ → Prop}
    {both : α → γ → Prop} {left : Held α} {middle : Held β} {right : Held γ}
    (alike : left.Matches first middle) (further : middle.Matches second right)
    (composes : ∀ left middle right, first left middle → second middle right → both left right) :
    left.Matches both right := by
  match left, middle, right, alike, further with
  | .empty, .empty, .empty, _, _ => trivial
  | .plain _, .plain _, .plain _, alike, further => exact composes _ _ _ alike further
  | .tracked _, .tracked _, .tracked _, alike, further => exact composes _ _ _ alike further

theorem Container.Matches.comp {α β γ : Type} {first : α → β → Prop} {second : β → γ → Prop}
    {both : α → γ → Prop} {left : Container α} {middle : Container β} {right : Container γ}
    (alike : left.Matches first middle) (further : middle.Matches second right)
    (composes : ∀ left middle right, first left middle → second middle right → both left right) :
    left.Matches both right where
  name := further.name.trans alike.name
  held := alike.held.comp further.held composes
  dirty := further.dirty.trans alike.dirty
  serializable := further.serializable.trans alike.serializable

structure Carrier.Relation.Composes (first : Carrier.Relation source target)
    (second : Carrier.Relation target third) (both : Carrier.Relation source third) : Prop where
  handle : ∀ type left middle right, first.handle type left middle →
    second.handle type middle right → both.handle type left right
  loads : ∀ left middle right, first.loads left middle → second.loads middle right →
    both.loads left right
  memo : ∀ left middle right, first.memo left middle → second.memo middle right →
    both.memo left right

section Composition

variable {first : Carrier.Relation source target} {second : Carrier.Relation target third}
  {both : Carrier.Relation source third}

theorem Form.Matches.comp {form : Form} {left : form.Val source} {middle : form.Val target}
    {right : form.Val third} (alike : form.Matches first left middle)
    (further : form.Matches second middle right) (composes : first.Composes second both) :
    form.Matches both left right := by
  cases form with
  | bare type | aside type => exact FieldType.Matches.comp alike further composes.handle
  | container type =>
      exact Container.Matches.comp alike further fun _ _ _ near far =>
        near.comp far composes.handle
  | loads => exact composes.loads _ _ _ alike further
  | memo => exact composes.memo _ _ _ alike further

theorem Members.Matches.comp {members : List Member} {left : Members source members}
    {middle : Members target members} {right : Members third members}
    (alike : Members.Matches first members left middle)
    (further : Members.Matches second members middle right)
    (composes : first.Composes second both) : Members.Matches both members left right := by
  induction members with
  | nil => trivial
  | cons member others ih =>
      exact ⟨Form.Matches.comp alike.1 further.1 composes, ih alike.2 further.2⟩

theorem Shape.Matches.comp {shape : Shape} {left : shape.Data source} {middle : shape.Data target}
    {right : shape.Data third} (alike : shape.Matches first left middle)
    (further : shape.Matches second middle right) (composes : first.Composes second both) :
    shape.Matches both left right := by
  cases shape with
  | fields members => exact Members.Matches.comp alike further composes
  | elements type => exact forall₂_comp alike further (composes.handle type)

end Composition

/-! ### The other way round -/

theorem FieldType.Matches.flip {same : (type : ObjType) → Source type → Target type → Prop}
    {type : FieldType} {left : type.Val Source} {right : type.Val Target}
    (alike : type.Matches same left right) :
    type.Matches (fun type right left => same type left right) right left := by
  induction type with
  | int kind | float32 | float64 | bool | text => exact Eq.symm alike
  | option type ih =>
      match left, right, alike with
      | none, none, _ => trivial
      | some _, some _, alike => exact ih alike
  | vector type ih => exact List.Forall₂.flip (List.Forall₂.imp (fun _ _ => ih) alike)
  | handle type => exact alike

theorem Held.Matches.flip {α β : Type} {same : α → β → Prop} {left : Held α} {right : Held β}
    (alike : left.Matches same right) : right.Matches (fun right left => same left right) left := by
  match left, right, alike with
  | .empty, .empty, _ => trivial
  | .plain _, .plain _, alike => exact alike
  | .tracked _, .tracked _, alike => exact alike

theorem Container.Matches.flip {α β : Type} {same : α → β → Prop} {left : Container α}
    {right : Container β} (alike : left.Matches same right) :
    right.Matches (fun right left => same left right) left where
  name := alike.name.symm
  held := alike.held.flip
  dirty := alike.dirty.symm
  serializable := alike.serializable.symm

def Carrier.Relation.flip (relation : Carrier.Relation source target) :
    Carrier.Relation target source where
  handle type right left := relation.handle type left right
  loads right left := relation.loads left right
  memo right left := relation.memo left right

theorem Form.Matches.flip {relation : Carrier.Relation source target} {form : Form}
    {left : form.Val source} {right : form.Val target} (alike : form.Matches relation left right) :
    form.Matches relation.flip right left := by
  cases form with
  | bare type | aside type => exact FieldType.Matches.flip alike
  | container type => exact (Container.Matches.flip alike).imp fun _ _ held => FieldType.Matches.flip held
  | loads | memo => exact alike

theorem Members.Matches.flip {relation : Carrier.Relation source target} {members : List Member}
    {left : Members source members} {right : Members target members}
    (alike : Members.Matches relation members left right) :
    Members.Matches relation.flip members right left := by
  induction members with
  | nil => trivial
  | cons member others ih => exact ⟨Form.Matches.flip alike.1, ih alike.2⟩

theorem Shape.Matches.flip {relation : Carrier.Relation source target} {shape : Shape}
    {left : shape.Data source} {right : shape.Data target}
    (alike : shape.Matches relation left right) : shape.Matches relation.flip right left := by
  cases shape with
  | fields members => exact Members.Matches.flip alike
  | elements type => exact List.Forall₂.flip alike

end ObjectCourier
