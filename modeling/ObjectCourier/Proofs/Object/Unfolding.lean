import ObjectCourier.Object.FieldWire
import ObjectCourier.Proofs.Object.Heap
import ObjectCourier.Proofs.Object.Tree

/-!
Copies by value of live objects. What `Store.unfold` returns is the tree below the object, there is
only one such tree, and it is returned whenever there is one: an object on the path of those being
embedded has a deeper tree than the objects below it, so it is never met again. The bound on the
levels never ends an unfolding, because the objects on the path are distinct.
-/

namespace ObjectCourier

def Carrier.Relation.copied {Handle : ObjType → Type}
    (below : (type : ObjType) → Ref → Handle type → Prop) :
    Carrier.Relation Carrier.live (.byValue Handle) where
  handle := below
  loads _ _ := True
  memo _ _ := True

/-- The tree is the one below the object, and all objects in it are intact. -/
def Store.Unfolds (store : Store) :
    (depth : Nat) → (type : ObjType) → Ref → Tree depth type → Prop
  | 0, _, _, _ => False
  | depth + 1, type, ref, tree =>
      store.isPoisoned ref = false ∧ ∃ data, store.data? type ref = some data ∧
        type.shape.Matches (.copied (Unfolds store depth)) data tree

namespace Store.Unfolds

variable {store : Store} {depth : Nat} {type : ObjType} {ref : Ref} {tree : Tree depth type}

theorem leads (unfolds : store.Unfolds depth type ref tree) : store.Leads ⟨type, ref⟩ := by
  match depth with
  | 0 => exact tree.elim
  | depth + 1 =>
      obtain ⟨-, data, found, -⟩ := unfolds
      exact leads_iff.mpr ⟨data, found⟩

theorem grow {after : Store} (extension : store.Extends after)
    (unfolds : store.Unfolds depth type ref tree) : after.Unfolds depth type ref tree := by
  induction depth generalizing type ref with
  | zero => exact tree.elim
  | succ depth ih =>
      obtain ⟨intact, data, found, alike⟩ := unfolds
      have leads : store.Leads ⟨type, ref⟩ := leads_iff.mpr ⟨data, found⟩
      exact ⟨extension.isPoisoned leads ▸ intact, data, extension.data? found, alike.imp
        { handle := fun _ _ _ => ih
          loads := fun _ _ _ => trivial
          memo := fun _ _ _ => trivial }⟩

theorem same {other : Nat} {copy : Tree other type} (unfolds : store.Unfolds depth type ref tree)
    (alike : Tree.Same depth other type tree copy) : store.Unfolds other type ref copy := by
  induction depth generalizing other type ref with
  | zero => exact tree.elim
  | succ depth ih =>
      match other with
      | 0 => exact copy.elim
      | other + 1 =>
          obtain ⟨intact, data, found, matching⟩ := unfolds
          exact ⟨intact, data, found, Shape.Matches.comp matching alike
            { handle := fun _ _ _ _ => ih
              loads := fun _ _ _ _ _ => trivial
              memo := fun _ _ _ _ _ => trivial }⟩

theorem unique {other : Nat} {copy : Tree other type} (unfolds : store.Unfolds depth type ref tree)
    (another : store.Unfolds other type ref copy) : Tree.Same depth other type tree copy := by
  induction depth generalizing other type ref with
  | zero => exact tree.elim
  | succ depth ih =>
      match other with
      | 0 => exact copy.elim
      | other + 1 =>
          obtain ⟨-, data, found, matching⟩ := unfolds
          obtain ⟨-, otherData, otherFound, otherMatching⟩ := another
          cases found.symm.trans otherFound
          exact Shape.Matches.comp matching.flip otherMatching
            { handle := fun _ _ _ _ => ih
              loads := fun _ _ _ _ _ => trivial
              memo := fun _ _ _ _ _ => trivial }

end Store.Unfolds

namespace Embedding

private theorem within_of_cycle {α : Type} {ref : Ref} {body : Embedding α} {path : List Ref}
    (cycle : ref ∈ path) : within ref body path = (.error .embeddingCycle, path.erase ref) :=
  if_pos cycle

private theorem within_of_clear {α : Type} {ref : Ref} {body : Embedding α}
    {path between : List Ref} {outcome : Except Fault α} (clear : ref ∉ path)
    (ran : body (ref :: path) = (outcome, between)) :
    within ref body path = (outcome, between.erase ref) := by
  apply (if_neg clear).trans
  rw [ran]

private theorem within_eq_ok {α : Type} {ref : Ref} {body : Embedding α} {path after : List Ref}
    {value : α} (ran : within ref body path = (.ok value, after)) :
    ref ∉ path ∧ ∃ between, body (ref :: path) = (.ok value, between) ∧
      after = between.erase ref := by
  by_cases cycle : ref ∈ path
  · rw [within_of_cycle cycle] at ran
    cases ran
  · rcases inside : body (ref :: path) with ⟨outcome, between⟩
    rw [within_of_clear cycle inside] at ran
    cases ran
    exact ⟨cycle, between, rfl, rfl⟩

end Embedding

namespace Store

private theorem unfold_succ (store : Store) (depth : Nat) (type : ObjType) (ref : Ref) :
    store.unfold (depth + 1) type ref = Embedding.within ref
      (if store.isPoisoned ref then throw .embeddingPoisoned
      else match store.data? type ref with
        | none => throw .danglingHandle
        | some data => type.traverse
            { handle := store.unfold depth, loads := fun _ => pure (), memo := fun _ => pure () }
            data) := by
  rw [unfold]
  rfl

theorem unfold_sound {store : Store} {depth : Nat} {type : ObjType} {ref : Ref}
    {path after : List Ref} {tree : Tree depth type}
    (ran : store.unfold depth type ref path = (.ok tree, after)) :
    path = after ∧ store.Unfolds depth type ref tree := by
  induction depth generalizing type ref path after with
  | zero => exact tree.elim
  | succ depth ih =>
      rw [unfold_succ] at ran
      obtain ⟨_, between, inside, rfl⟩ := Embedding.within_eq_ok ran
      split at inside
      · cases inside
      rename_i intact
      cases found : store.data? type ref with
      | none =>
          rw [found] at inside
          cases inside
      | some data =>
          rw [found] at inside
          have visits : ∀ {type value before result after},
              (Running.succeeding Fault (List Ref)).runs (store.unfold depth type value) before result
                after → before = after ∧ store.Unfolds depth type value result := ih
          have carries : Carrier.Visitor.Carries (Running.succeeding Fault (List Ref)) Eq
              { handle := store.unfold depth, loads := fun _ => pure (), memo := fun _ => pure () }
              (fun _ _ => .copied (store.Unfolds depth)) :=
            { same_grows := fun _ => rfl
              grows_trans := Eq.trans
              kept := fun _ _ => ⟨fun _ _ _ => id, fun _ _ => id, fun _ _ => id⟩
              handle := visits
              loads := fun ran => ⟨((Running.succeeding _ _).runs_pure ran).2.symm, trivial⟩
              memo := fun ran => ⟨((Running.succeeding _ _).runs_pure ran).2.symm, trivial⟩ }
          obtain ⟨rfl, alike⟩ := Shape.matches_traverse carries inside
          exact ⟨(List.erase_cons_head ref path).symm, Bool.not_eq_true _ ▸ intact, data, found, alike⟩

end Store

namespace Fault

/-- The fault is about a graph: it cannot be written, or one of its handles leads nowhere. -/
def blamesGraph : Fault → Bool
  | argument _ | serialization _ | internal _ => true
  | _ => false

def BlamesContent (fault : Fault) : Prop := fault.blamesGraph = true ∧ fault ≠ .walkTooDeep

end Fault

namespace Embedding

/-- A success leaves the path as it was, and a failure is told together with the path it leaves. -/
def Ends {α : Type} (fails : Fault → List Ref → Prop) (path : List Ref) (action : Embedding α) :
    Prop :=
  match action path with
  | (.ok _, after) => after = path
  | (.error fault, after) => fails fault after

/-- A success leaves the path as it was, and a failure is of the allowed kind. -/
def Keeps {α : Type} (allowed : Fault → Prop) (path : List Ref) (action : Embedding α) : Prop :=
  match action path with
  | (.ok _, after) => after = path
  | (.error fault, _) => allowed fault

theorem Keeps.throw {α : Type} {allowed : Fault → Prop} {path : List Ref} {fault : Fault}
    (fine : allowed fault) : Keeps allowed path (MonadExcept.throw fault : Embedding α) := fine

variable {fails : Fault → List Ref → Prop} {path : List Ref}

theorem Ends.pure {α : Type} (value : α) : Ends fails path (Pure.pure value) := rfl

theorem Ends.throw {α : Type} {fault : Fault} (fine : fails fault path) :
    Ends fails path (MonadExcept.throw fault : Embedding α) := fine

theorem Ends.imp {α : Type} {weaker : Fault → List Ref → Prop} {action : Embedding α}
    (ended : Ends fails path action) (implies : ∀ fault after, fails fault after → weaker fault after) :
    Ends weaker path action := by
  unfold Ends at ended ⊢
  rcases found : action path with ⟨outcome, after⟩
  rw [found] at ended
  cases outcome with
  | ok value => exact ended
  | error fault => exact implies fault after ended

theorem Ends.bind {α β : Type} {first : Embedding α} {next : α → Embedding β}
    (head : Ends fails path first) (tail : ∀ value, Ends fails path (next value)) :
    Ends fails path (first >>= next) := by
  unfold Ends at head ⊢
  rcases found : first path with ⟨outcome, between⟩
  rw [found] at head
  cases outcome with
  | ok value =>
      have same : between = path := head
      subst same
      rw [bind_of_ran_ok found]
      exact tail value
  | error fault =>
      rw [bind_of_ran_error found]
      exact head

theorem Ends.mapM {α β : Type} {visit : α → Embedding β} {items : List α}
    (each : ∀ item ∈ items, Ends fails path (visit item)) :
    Ends fails path (items.mapM visit) := by
  induction items with
  | nil =>
      rw [List.mapM_nil]
      exact .pure []
  | cons first others ih =>
      rw [List.mapM_cons]
      refine .bind (each first List.mem_cons_self) fun head => ?_
      exact .bind (ih fun item later => each item (List.mem_cons_of_mem _ later)) fun tail => .pure _

/-- What fails below an object is left by the object too. -/
theorem Ends.within {α : Type} {ref : Ref} {body : Embedding α}
    (cycle : ref ∈ path → fails .embeddingCycle (path.erase ref))
    (inside : ref ∉ path →
      Ends (fun fault between => fails fault (between.erase ref)) (ref :: path) body) :
    Ends fails path (Embedding.within ref body) := by
  unfold Ends
  by_cases present : ref ∈ path
  · rw [within_of_cycle present]
    exact cycle present
  · have ended := inside present
    unfold Ends at ended
    rcases found : body (ref :: path) with ⟨outcome, between⟩
    rw [found] at ended
    rw [within_of_clear present found]
    cases outcome with
    | ok value =>
        have same : between = ref :: path := ended
        subst same
        exact List.erase_cons_head ref path
    | error fault => exact ended

end Embedding

section Traversal

open ObjectCourier.Embedding

variable {source target : Carrier} {fails : Fault → List Ref → Prop} {path : List Ref}

private theorem FieldType.ends_traverse
    {visit : (type : ObjType) → source.Handle type → Embedding (target.Handle type)}
    {type : FieldType} {value : type.Val source.Handle}
    (each : ∀ child ∈ type.handles value, Ends fails path (visit child.1 child.2)) :
    Ends fails path (type.traverse visit value) := by
  induction type with
  | int kind | float32 | float64 | bool | text => exact .pure value
  | option type ih =>
      match value with
      | none => exact .pure none
      | some inner => exact .bind (ih each) fun changed => .pure (some changed)
  | vector type ih =>
      exact .mapM fun item present => ih fun child within =>
        each child (List.mem_flatMap.mpr ⟨item, present, within⟩)
  | handle type => exact each ⟨type, value⟩ (List.mem_singleton_self _)

variable {visitor : Carrier.Visitor Embedding source target}
  (loads : ∀ value, Ends fails path (visitor.loads value))
  (memo : ∀ value, Ends fails path (visitor.memo value))

include loads memo

private theorem Form.ends_traverse {form : Form} {value : form.Val source}
    (each : ∀ child ∈ form.handles value, Ends fails path (visitor.handle child.1 child.2)) :
    Ends fails path (form.traverse visitor value) := by
  cases form with
  | bare type | aside type => exact FieldType.ends_traverse each
  | container type =>
      match value with
      | ⟨_, .empty, _, _⟩ => exact .bind (.pure _) fun _ => .pure _
      | ⟨_, .plain held, _, _⟩ | ⟨_, .tracked held, _, _⟩ =>
          have ended := FieldType.ends_traverse each
          exact .bind (.bind ended fun _ => .pure _) fun _ => .pure _
  | loads => exact loads value
  | memo => exact memo value

private theorem Members.ends_traverse {members : List Member} {value : Members source members}
    (each : ∀ child ∈ Members.handles members value,
      Ends fails path (visitor.handle child.1 child.2)) :
    Ends fails path (Members.traverse visitor members value) := by
  induction members with
  | nil => exact .pure ()
  | cons member others ih =>
      obtain ⟨first, rest⟩ := value
      have head := Form.ends_traverse loads memo
        fun child present => each child (List.mem_append_left _ present)
      have tail := ih fun child present => each child (List.mem_append_right _ present)
      exact .bind head fun _ => .bind tail fun _ => .pure _

private theorem Shape.ends_traverse {shape : Shape} {value : shape.Data source}
    (each : ∀ child ∈ shape.handles value, Ends fails path (visitor.handle child.1 child.2)) :
    Ends fails path (shape.traverse visitor value) := by
  cases shape with
  | fields members => exact Members.ends_traverse loads memo each
  | elements type =>
      exact .mapM fun item present => each ⟨type, item⟩ (List.mem_map_of_mem present)

end Traversal

namespace Store

theorem ends_unfold_succ {store : Store} {fails : Fault → List Ref → Prop} {path : List Ref}
    {depth : Nat} {type : ObjType} {ref : Ref}
    (cycle : ref ∈ path → fails .embeddingCycle (path.erase ref))
    (poisoned : store.isPoisoned ref = true → fails .embeddingPoisoned path)
    (missing : store.data? type ref = none → fails .danglingHandle path)
    (children : ∀ data, store.data? type ref = some data → ref ∉ path →
      ∀ child ∈ type.shape.handles data,
        Embedding.Ends (fun fault between => fails fault (between.erase ref)) (ref :: path)
          (store.unfold depth child.1 child.2)) :
    Embedding.Ends fails path (store.unfold (depth + 1) type ref) := by
  have left : (ref :: path).erase ref = path := List.erase_cons_head ref path
  rw [unfold_succ]
  refine Embedding.Ends.within cycle fun clear => ?_
  split
  · rename_i dead
    exact .throw (left.symm ▸ poisoned dead)
  · cases found : store.data? type ref with
    | none => exact .throw (left.symm ▸ missing found)
    | some data =>
        exact Shape.ends_traverse (fun _ => .pure ()) (fun _ => .pure ()) (children data found clear)

private theorem keeps_unfold_succ {store : Store} {allowed : Fault → Prop} {path : List Ref}
    {depth : Nat} {type : ObjType} {ref : Ref} (cycle : ref ∈ path → allowed .embeddingCycle)
    (poisoned : store.isPoisoned ref = true → allowed .embeddingPoisoned)
    (missing : store.data? type ref = none → allowed .danglingHandle)
    (children : ∀ data, store.data? type ref = some data → ref ∉ path →
      ∀ child ∈ type.shape.handles data,
        Embedding.Keeps allowed (ref :: path) (store.unfold depth child.1 child.2)) :
    Embedding.Keeps allowed path (store.unfold (depth + 1) type ref) := by
  have ended : Embedding.Ends (fun fault _ => allowed fault) path (store.unfold (depth + 1) type ref) :=
    ends_unfold_succ cycle poisoned missing children
  exact ended

/-- An object that has a tree is unfolded unless the levels run out. No object on the path has a tree
of as few levels, so none of them is met again. -/
theorem Unfolds.keeps_unfold {store : Store} {depth : Nat} {type : ObjType} {ref : Ref}
    {tree : Tree depth type} (unfolds : store.Unfolds depth type ref tree) {path : List Ref}
    (clear : ∀ earlier ∈ path, ∀ few ≤ depth, ∀ (other : ObjType) (copy : Tree few other),
      ¬store.Unfolds few other earlier copy) (budget : Nat) :
    Embedding.Keeps (fun fault => fault = .walkTooDeep) path (store.unfold budget type ref) := by
  induction depth using Nat.strongRecOn generalizing type ref path budget with
  | _ depth ih =>
  by_cases shallower : ∃ few < depth, ∃ copy : Tree few type, store.Unfolds few type ref copy
  · obtain ⟨few, less, copy, another⟩ := shallower
    refine ih few less another (fun earlier onPath fewer below => ?_) budget
    exact clear earlier onPath fewer (Nat.le_trans below (Nat.le_of_lt less))
  -- The levels of the tree are as few as can be from here on.
  match budget, depth, tree, unfolds with
  | 0, _, _, _ => exact .throw rfl
  | budget + 1, depth + 1, tree, unfolds =>
      have whole := unfolds
      obtain ⟨intact, data, found, alike⟩ := unfolds
      apply keeps_unfold_succ
      · intro onPath
        exact absurd whole (clear ref onPath (depth + 1) (Nat.le_refl _) type tree)
      · intro dead
        cases intact.symm.trans dead
      · intro missing
        cases missing.symm.trans found
      · intro other otherFound _ child member
        cases otherFound.symm.trans found
        obtain ⟨copy, unfolds⟩ := Shape.handles_of_matches
          (fun type (ref : Carrier.live.Handle type) =>
            ∃ copy : Tree depth type, store.Unfolds depth type ref copy)
          alike.flip (fun _ copy _ unfolds => ⟨copy, unfolds⟩) child member
        refine ih depth (Nat.lt_succ_self depth) unfolds ?_ budget
        intro earlier onPath few below other copy another
        rcases List.mem_cons.mp onPath with rfl | later
        · cases another.leads.eq_of_ref whole.leads rfl
          exact shallower ⟨few, Nat.lt_succ_of_le below, copy, another⟩
        · exact clear earlier later few (Nat.le_succ_of_le below) other copy another

/-- The bound on the levels never ends an unfolding. -/
theorem keeps_unfold_of_deep (store : Store) (depth : Nat) (type : ObjType) (ref : Ref)
    {path : List Ref} (distinct : path.Nodup) (inside : ∀ ref ∈ path, ref.index < store.cells.size)
    (enough : store.cells.size < depth + path.length) :
    Embedding.Keeps Fault.BlamesContent path (store.unfold depth type ref) := by
  induction depth generalizing type ref path with
  | zero =>
      have few := length_le_of_nodup distinct inside
      omega
  | succ depth ih =>
      refine keeps_unfold_succ (fun _ => ⟨rfl, nofun⟩) (fun _ => ⟨rfl, nofun⟩)
        (fun _ => ⟨rfl, nofun⟩) ?_
      intro data found clear child member
      have within := (leads_iff.mpr ⟨data, found⟩ : store.Leads ⟨type, ref⟩).index_lt
      refine ih _ _ (List.nodup_cons.mpr ⟨clear, distinct⟩) ?_ (by rw [List.length_cons]; omega)
      intro earlier onPath
      rcases List.mem_cons.mp onPath with rfl | later
      · exact within
      · exact inside earlier later

/-- A blob holds the bytes of the tree below the object. -/
theorem blob_eq_ok {store : Store} {type : ObjType} {ref : Ref} {body : Bytes}
    (written : store.blob type ref = .ok body) :
    ∃ depth tree, store.Unfolds depth type ref tree ∧ tree.encode depth type = body ∧
      body.length < Bytes.limit := by
  unfold blob embedded at written
  cases ran : store.unfold (store.cells.size + 1) type ref [] with
  | mk outcome after =>
      simp only [ExceptT.run, StateT.run, ran] at written
      cases outcome with
      | error fault => cases written
      | ok tree =>
          change (if Bytes.limit ≤ (tree.encode _ type).length then _ else _) = _ at written
          split at written
          · cases written
          · rename_i small
            cases written
            exact ⟨_, tree, (unfold_sound ran).2, rfl, Nat.not_le.mp small⟩

/-- An object that has a tree is embedded, unless the tree is too large. -/
theorem Unfolds.blob_eq {store : Store} {depth : Nat} {type : ObjType} {ref : Ref}
    {tree : Tree depth type} (unfolds : store.Unfolds depth type ref tree)
    (fits : (tree.encode depth type).length < Bytes.limit) :
    store.blob type ref = .ok (tree.encode depth type) := by
  have never := unfolds.keeps_unfold (List.forall_mem_nil _) (store.cells.size + 1)
  have deep := store.keeps_unfold_of_deep (store.cells.size + 1) type ref List.nodup_nil
    (List.forall_mem_nil _) (Nat.lt_succ_self _)
  unfold Embedding.Keeps at never deep
  unfold blob embedded
  cases ran : store.unfold (store.cells.size + 1) type ref [] with
  | mk outcome after =>
      rw [ran] at never deep
      simp only [ExceptT.run, StateT.run, ran]
      cases outcome with
      | error fault =>
          have other : fault.BlamesContent := deep
          exact absurd never other.2
      | ok found =>
          have same := ((unfold_sound ran).2.unique unfolds).encode_eq
          change (if Bytes.limit ≤ (found.encode _ type).length then _ else _) = _
          rw [same, if_neg (Nat.not_le.mpr fits)]
          exact congrArg Except.ok same

/-- An object that cannot be embedded is to blame for it, and not its depth. -/
theorem blob_blames (store : Store) (type : ObjType) (ref : Ref) :
    FailsOnly Fault.BlamesContent (store.blob type ref) := by
  have kept := store.keeps_unfold_of_deep (store.cells.size + 1) type ref List.nodup_nil
    (List.forall_mem_nil _) (Nat.lt_succ_self _)
  unfold Embedding.Keeps at kept
  unfold blob embedded
  cases ran : store.unfold (store.cells.size + 1) type ref [] with
  | mk outcome after =>
      simp only [ExceptT.run, StateT.run, ran]
      rw [ran] at kept
      cases outcome with
      | error fault => exact failsOnly_error kept
      | ok found =>
          change FailsOnly _ (if Bytes.limit ≤ (found.encode _ type).length then _ else _)
          split
          · exact failsOnly_error ⟨rfl, nofun⟩
          · exact failsOnly_ok _

end Store

end ObjectCourier
