import Mathlib.Data.List.Sort
import ObjectCourier.Proofs.Graph.Numbering
import ObjectCourier.Proofs.Graph.Script
import ObjectCourier.Proofs.Object.Unfolding
import ObjectCourier.Proofs.Outcome

/-!
Writing passes as walks. A pass that succeeds has walked the objects below the root, has given them
the ids of the walk, and has filled the record of each object by its script. A pass fails only if a
script of the walk fails or the ids run out; the bound on its levels never ends it.
-/

namespace ObjectCourier

namespace Store

variable (store : Store) (policy : Policy)

/-- The nodes that a walk enters from an object, in the order of its slots. -/
def walked (node : Node) : List Node := (store.slots policy node).map Slot.child

def describe (number : Ref → RefId) (node : Node) : Record :=
  (store.script policy node).fill number { id := number node.ref, typeKey := node.typeKey }

/-- Nothing in the record of an object fails. -/
def Describable (node : Node) : Prop := (store.script policy node).Sound

end Store

/-! ### What can go wrong with an object -/

namespace Script

/-- The script may fail, but then the object is to blame, and not the depth of the walk. -/
def Blames (script : Script) : Prop := ∀ fault, .error fault ∈ script → fault.BlamesContent

def Shallow (script : Script) : Prop := .error .walkTooDeep ∉ script

private theorem Blames.shallow {script : Script} (blames : script.Blames) : script.Shallow :=
  fun member => (blames _ member).2 rfl

private theorem blames_nil : Blames [] := fun _ member => nomatch member

theorem Blames.append {first second : Script} (early : first.Blames) (late : second.Blames) :
    Blames (first ++ second) := by
  intro fault member
  exact (List.mem_append.mp member).elim (early fault) (late fault)

private theorem blames_value {name : String} {outcome : Except Fault WireValue}
    (blames : FailsOnly Fault.BlamesContent outcome) : Blames [outcome.map (.value name)] := by
  intro fault member
  have same := List.mem_singleton.mp member
  cases outcome with
  | ok wire => cases same
  | error fault =>
      cases same
      exact blames fault rfl

end Script

section Blames

variable (store : Store) (policy : Policy)

private theorem FieldType.toWire_blames (type : FieldType) (value : type.Val Carrier.live.Handle) :
    FailsOnly Fault.BlamesContent (store.toWire type value) := by
  unfold Store.toWire
  induction type with
  | int kind | float32 | float64 | bool | text => exact failsOnly_ok _
  | option type ih =>
      match value with
      | none => exact failsOnly_ok _
      | some inner => exact ih inner
  | vector type ih => exact (failsOnly_mapM fun item _ => ih item).bind fun _ => failsOnly_ok _
  | handle type => exact (store.blob_blames type value).bind fun _ => failsOnly_ok _

private theorem FieldType.stateScript_blames (name : String) (type : FieldType)
    (value : type.Val Carrier.live.Handle) : (type.stateScript store name value).Blames := by
  unfold stateScript
  cases type.liveNode? value with
  | some node => exact Script.blames_nil
  | none => exact Script.blames_value (type.toWire_blames store value)

private theorem FieldType.childScript_blames (typeKey name : String) (permitted dirty : Bool)
    (type : FieldType) (value : type.Val Carrier.live.Handle) :
    (type.childScript store policy typeKey name permitted dirty value).Blames := by
  unfold childScript
  cases type.liveNode? value with
  | none => exact Script.blames_nil
  | some node =>
      simp only
      split
      · intro fault member
        cases List.mem_singleton.mp member
      · exact Script.blames_value (type.toWire_blames store value)

private theorem Container.labelScript_blames {α : Type} (name : String) (container : Container α) :
    (container.labelScript name).Blames := by
  simp [labelScript, Script.Blames]

private theorem Form.stateScript_blames (name : String) (form : Form)
    (value : form.Val Carrier.live) : (form.stateScript store name value).Blames := by
  cases form with
  | bare type => exact FieldType.stateScript_blames store name type value
  | container type =>
      obtain ⟨ownName, held, dirty, serializable⟩ := value
      apply (Container.labelScript_blames name _).append
      cases held with
      | empty => exact Script.blames_nil
      | plain inner | tracked inner => exact FieldType.stateScript_blames store name type inner
  | aside _ | loads | memo => exact Script.blames_nil

private theorem Form.childScript_blames (typeKey name : String) (form : Form)
    (value : form.Val Carrier.live) :
    (form.childScript store policy typeKey name value).Blames := by
  cases form with
  | bare type => exact FieldType.childScript_blames store policy typeKey name _ _ type value
  | container type =>
      obtain ⟨ownName, held, dirty, serializable⟩ := value
      cases held with
      | empty => exact Script.blames_nil
      | plain inner | tracked inner =>
          exact FieldType.childScript_blames store policy typeKey name _ _ type inner
  | aside _ | loads | memo => exact Script.blames_nil

private theorem Members.stateScript_blames (members : List Member)
    (data : Members Carrier.live members) : (Members.stateScript store members data).Blames := by
  induction members with
  | nil => exact Script.blames_nil
  | cons member others ih =>
      obtain ⟨first, rest⟩ := data
      exact (Form.stateScript_blames store _ _ first).append (ih rest)

private theorem Members.childScript_blames (typeKey : String) (members : List Member)
    (data : Members Carrier.live members) :
    (Members.childScript store policy typeKey members data).Blames := by
  induction members with
  | nil => exact Script.blames_nil
  | cons member others ih =>
      obtain ⟨first, rest⟩ := data
      exact (Form.childScript_blames store policy typeKey _ _ first).append (ih rest)

private theorem Shape.stateScript_blames (shape : Shape) (data : shape.Data Carrier.live) :
    (shape.stateScript store data).Blames := by
  cases shape with
  | fields members => exact Members.stateScript_blames store members data
  | elements type =>
      simp only [stateScript]
      cases IntKind.u64.ofInt? (List.length (show List Ref from data)) with
      | none =>
          intro fault member
          cases List.mem_singleton.mp member
          refine ⟨rfl, ?_⟩
          rintro ⟨⟩
      | some count =>
          intro fault member
          cases List.mem_singleton.mp member

private theorem Shape.childScript_blames (typeKey : String) (shape : Shape)
    (data : shape.Data Carrier.live) :
    (shape.childScript store policy typeKey data).Blames := by
  cases shape with
  | fields members => exact Members.childScript_blames store policy typeKey members data
  | elements type =>
      simp only [childScript]
      split
      · intro fault member
        obtain ⟨slot, _, same⟩ := List.mem_map.mp member
        cases same
      · intro fault member
        cases List.mem_singleton.mp member
        refine ⟨rfl, ?_⟩
        rintro ⟨⟩

private theorem Fault.nodePoisoned_ne_walkTooDeep (typeKey : String) :
    nodePoisoned typeKey ≠ walkTooDeep := by
  intro same
  have texts : "Lock poisoned on " ++ typeKey = "object walk exceeds the store" :=
    Fault.internal.inj same
  have letters := congrArg String.toList texts
  rw [String.toList_append] at letters
  have first := congrArg List.head? letters
  cases first

private theorem Store.readNode_blames (node : Node) :
    FailsOnly Fault.BlamesContent (store.readNode node) := by
  unfold readNode
  split
  · exact failsOnly_error ⟨rfl, Fault.nodePoisoned_ne_walkTooDeep _⟩
  · cases store.data? node.type node.ref with
    | none => exact failsOnly_error ⟨rfl, nofun⟩
    | some data => exact failsOnly_ok _

private theorem Store.script_blames (node : Node) : (store.script policy node).Blames := by
  unfold script
  cases found : store.readNode node with
  | error fault =>
      intro other member
      cases List.mem_singleton.mp member
      exact store.readNode_blames node fault found
  | ok data =>
      exact (Shape.stateScript_blames store _ data).append
        (Shape.childScript_blames store policy _ _ data)

end Blames

/-! ### One pass -/

structure WriterState.Tracks (state : WriterState) (seen : List Node) : Prop where
  table : state.table.Tracks seen
  records : ∀ id record, state.records[id]? = some record →
    ∃ position, position < seen.length ∧ id = RefId.nth position

structure Store.Holds (store : Store) (seen : List Node) : Prop where
  distinct : (places seen).Nodup
  inside : ∀ ref ∈ places seen, ref.index < store.cells.size

/-- From the one state to the other, the pending nodes were walked and everything that was entered
was described. -/
structure Store.Wrote (store : Store) (policy : Policy) (before after : WriterState)
    (seen pending entered : List Node) : Prop where
  visits : Visits (store.walked policy) seen pending (seen ++ entered)
  tracks : after.Tracks (seen ++ entered)
  describable : ∀ node ∈ entered, store.Describable policy node
  records : ∀ number, Numbers number (seen ++ entered) → ∀ id record,
    after.records[id]? = some record ↔
      (∃ node ∈ entered, number node.ref = id ∧ store.describe policy number node = record) ∨
        before.records[id]? = some record

structure Store.Walkable (store : Store) (policy : Policy) (seen pending entered : List Node) :
    Prop where
  visits : Visits (store.walked policy) seen pending (seen ++ entered)
  describable : ∀ node ∈ entered, store.Describable policy node
  bound : (seen ++ entered).length ≤ RefId.limit

/-- The action walks the pending nodes and returns what is expected of their ids; or it fails, not
for its depth, and then the nodes cannot be walked or the condition does not hold. -/
def Store.Walks {α : Type} (store : Store) (policy : Policy) (before : WriterState)
    (seen pending : List Node) (condition : Prop) (expected : (Ref → RefId) → α)
    (action : Writing α) : Prop :=
  match action before with
  | (.ok result, after) => condition ∧ ∃ entered,
      store.Wrote policy before after seen pending entered ∧
        ∀ number, Numbers number (seen ++ entered) → result = expected number
  | (.error fault, _) => fault ≠ .walkTooDeep ∧ (condition → ∀ entered,
      ¬store.Walkable policy seen pending entered)

namespace Store

variable {store : Store} {policy : Policy} {before between after : WriterState}
  {seen pending entered : List Node}

theorem Wrote.holds (wrote : store.Wrote policy before after seen pending entered)
    (holds : store.Holds seen) : store.Holds (seen ++ entered) where
  distinct := wrote.visits.nodup holds.distinct
  inside := by
    intro ref member
    rw [places_append] at member
    rcases List.mem_append.mp member with earlier | later
    · exact holds.inside ref earlier
    · obtain ⟨node, present, rfl⟩ := List.mem_map.mp later
      obtain ⟨data, found, _⟩ := data_of_sound (wrote.describable node present)
      exact (leads_iff.mpr ⟨data, found⟩ : store.Leads ⟨node.type, node.ref⟩).index_lt

theorem Wrote.refl (tracks : before.Tracks seen) :
    store.Wrote policy before before seen [] [] where
  visits := by
    rw [List.append_nil]
    exact .done
  tracks := by rwa [List.append_nil]
  describable node member := nomatch member
  records number _ id record := by
    constructor
    · exact .inr
    · rintro (⟨node, member, _⟩ | kept)
      · cases member
      · exact kept

theorem Wrote.trans {first second later : List Node}
    (early : store.Wrote policy before between seen first entered)
    (late : store.Wrote policy between after (seen ++ entered) second later) :
    store.Wrote policy before after seen (first ++ second) (entered ++ later) where
  visits := by
    have visits := early.visits.append late.visits
    rwa [List.append_assoc] at visits
  tracks := by
    have tracks := late.tracks
    rwa [List.append_assoc] at tracks
  describable node member :=
    (List.mem_append.mp member).elim (early.describable node) (late.describable node)
  records number numbers id record := by
    rw [← List.append_assoc] at numbers
    rw [late.records number numbers, early.records number numbers.of_append]
    constructor
    · rintro (⟨node, member, described⟩ | ⟨node, member, described⟩ | kept)
      · exact .inl ⟨node, List.mem_append_right _ member, described⟩
      · exact .inl ⟨node, List.mem_append_left _ member, described⟩
      · exact .inr kept
    · rintro (⟨node, member, described⟩ | kept)
      · rcases List.mem_append.mp member with here | there
        · exact .inr (.inl ⟨node, here, described⟩)
        · exact .inl ⟨node, there, described⟩
      · exact .inr (.inr kept)

/-- A walk of more nodes is a walk of the first ones, and then of the rest. -/
theorem Walkable.split (first : List Node) {second : List Node}
    (walkable : store.Walkable policy seen (first ++ second) entered) :
    ∃ early late, entered = early ++ late ∧ store.Walkable policy seen first early ∧
      store.Walkable policy (seen ++ early) second late := by
  obtain ⟨middle, visits, rest⟩ := walkable.visits.split
  obtain ⟨early, rfl⟩ := visits.extends_seen
  obtain ⟨late, same⟩ := rest.extends_seen
  rw [List.append_assoc] at same
  have parts := List.append_cancel_left same
  subst parts
  have bound := walkable.bound
  refine ⟨early, late, rfl, ⟨visits, ?_, ?_⟩, ⟨?_, ?_, ?_⟩⟩
  · exact fun node member => walkable.describable node (List.mem_append_left _ member)
  · simp only [List.length_append] at bound ⊢
    omega
  · rwa [List.append_assoc]
  · exact fun node member => walkable.describable node (List.mem_append_right _ member)
  · rwa [List.append_assoc]

end Store

namespace Store

variable {α β : Type} {store : Store} {policy : Policy} {before between after : WriterState}
  {seen pending entered : List Node} {condition : Prop} {expected : (Ref → RefId) → α}
  {action : Writing α}

private theorem Walks.of_ok {result : α} (ran : action before = (.ok result, after))
    (holds : condition) (wrote : store.Wrote policy before after seen pending entered)
    (results : ∀ number, Numbers number (seen ++ entered) → result = expected number) :
    store.Walks policy before seen pending condition expected action := by
  unfold Walks
  rw [ran]
  exact ⟨holds, entered, wrote, results⟩

private theorem Walks.of_error {fault : Fault} (ran : action before = (.error fault, after))
    (shallow : fault ≠ .walkTooDeep)
    (never : condition → ∀ entered, ¬store.Walkable policy seen pending entered) :
    store.Walks policy before seen pending condition expected action := by
  unfold Walks
  rw [ran]
  exact ⟨shallow, never⟩

theorem Walks.cases (walks : store.Walks policy before seen pending condition expected action) :
    (∃ result after, action before = (.ok result, after) ∧ condition ∧ ∃ entered,
      store.Wrote policy before after seen pending entered ∧
        ∀ number, Numbers number (seen ++ entered) → result = expected number) ∨
    ∃ fault after, action before = (.error fault, after) ∧ fault ≠ .walkTooDeep ∧
      (condition → ∀ entered, ¬store.Walkable policy seen pending entered) := by
  unfold Walks at walks
  cases ran : action before with
  | mk outcome after =>
      rw [ran] at walks
      cases outcome with
      | ok result => exact .inl ⟨result, after, rfl, walks⟩
      | error fault => exact .inr ⟨fault, after, rfl, walks⟩

end Store

private theorem Script.walks_run {store : Store} {policy : Policy} {depth : Nat}
    (visit : Node → Writing RefId)
    (visits : ∀ {before : WriterState} {seen : List Node} (node : Node), before.Tracks seen →
      store.Holds seen → store.cells.size < depth + seen.length →
        store.Walks policy before seen [node] True (fun number => number node.ref) (visit node))
    {script : Script} (shallow : script.Shallow) (record : Record) {before : WriterState}
    {seen : List Node} (tracks : before.Tracks seen) (holds : store.Holds seen)
    (deep : store.cells.size < depth + seen.length) :
    store.Walks policy before seen (script.slots.map Slot.child) script.Sound
      (fun number => script.fill number record) (script.run visit record) := by
  induction script generalizing record before seen with
  | nil =>
      exact .of_ok rfl (fun _ member => nomatch member) (.refl tracks) fun _ _ => rfl
  | cons step others ih =>
      have shallowRest : Shallow others := fun member => shallow (List.mem_cons_of_mem _ member)
      match step with
      | .error fault =>
          refine .of_error rfl ?_ fun sound => ?_
          · rintro rfl
            exact shallow List.mem_cons_self
          · obtain ⟨done, failed⟩ := sound _ List.mem_cons_self
            cases failed
      | .ok (.value name wire) =>
          rcases (ih shallowRest (record.addValue name wire) tracks holds deep).cases with
            ⟨finished, after, ran, sound, entered, wrote, results⟩ | ⟨fault, after, ran, less, never⟩
          · exact .of_ok ran sound.cons wrote results
          · exact .of_error ran less fun sound => never sound.tail
      | .ok (.slot slot) =>
          rcases (visits slot.child tracks holds deep).cases with
            ⟨id, between, visited, -, entered, wrote, ids⟩ | ⟨fault, between, visited, less, never⟩
          · have deeper : store.cells.size < depth + (seen ++ entered).length := by
              rw [List.length_append]
              omega
            rcases (ih shallowRest (record.addChild slot.name id slot.dirty) wrote.tracks
                (wrote.holds holds) deeper).cases with
              ⟨finished, after, ran, sound, later, wroteRest, results⟩ | ⟨fault, after, ran, less, never⟩
            · refine .of_ok ((bind_of_ran_ok visited).trans ran) sound.cons
                (wrote.trans wroteRest) fun number numbers => ?_
              rw [← List.append_assoc] at numbers
              rw [results number numbers, ids number numbers.of_append]
              rfl
            · refine .of_error ((bind_of_ran_ok visited).trans ran) less
                fun sound more walkable => ?_
              obtain ⟨early, late, rfl, first, rest⟩ := Store.Walkable.split [slot.child] walkable
              have same := List.append_cancel_left (first.visits.unique wrote.visits)
              subst same
              exact never sound.tail late rest
          · refine .of_error (bind_of_ran_error visited) less fun _ more walkable => ?_
            obtain ⟨early, late, rfl, first, rest⟩ := Store.Walkable.split [slot.child] walkable
            exact never trivial early first

theorem Script.fill_id (number : Ref → RefId) (script : Script) (record : Record) :
    (script.fill number record).id = record.id := by
  unfold fill
  induction script.steps generalizing record with
  | nil => rfl
  | cons step others ih =>
      rw [List.foldl_cons, ih]
      cases step <;> rfl

namespace Store

variable {store : Store} {policy : Policy}

/-- The object of a node that was entered is described when everything below it is. -/
theorem Wrote.enter {before assigned after : WriterState} {seen entered : List Node} {node : Node}
    {finished : Record} (tracks : before.Tracks seen) (fresh : node.ref ∉ places seen)
    (same : assigned.records = before.records) (describable : store.Describable policy node)
    (below : store.Wrote policy assigned after (seen ++ [node]) (store.walked policy node) entered)
    (distinct : (places (seen ++ [node] ++ entered)).Nodup)
    (described : ∀ number, Numbers number (seen ++ [node] ++ entered) →
      finished = store.describe policy number node) :
    store.Wrote policy before
      { after with records := after.records.insert finished.id finished } seen [node]
      (node :: entered) := by
  have order : seen ++ node :: entered = seen ++ [node] ++ entered := List.append_cons _ _ _
  have length : (seen ++ [node] ++ entered).length = seen.length + 1 + entered.length := by
    simp only [List.length_append, List.length_singleton]
  have small := below.tracks.table.bound
  have member : node.ref ∈ places (seen ++ [node]) :=
    mem_places (List.mem_append_right _ (List.mem_singleton_self node))
  have ownId : ∀ number, Numbers number (seen ++ [node] ++ entered) →
      number node.ref = .nth seen.length := fun number numbers => by
    rw [numbers.of_append node.ref member, numberOf_next fresh]
  have finishedId : finished.id = .nth seen.length := by
    have numbers := numbers_numberOf (seen ++ [node] ++ entered)
    rw [described _ numbers, Store.describe, Script.fill_id]
    exact ownId _ numbers
  have apart : ∀ number, Numbers number (seen ++ [node] ++ entered) → ∀ other ∈ entered,
      number other.ref ≠ .nth seen.length := by
    intro number numbers other inEntered equal
    have inOrder : other.ref ∈ places (seen ++ [node] ++ entered) :=
      mem_places (List.mem_append_right _ inEntered)
    have inFront : node.ref ∈ places (seen ++ [node] ++ entered) := by
      rw [places_append]
      exact List.mem_append_left _ member
    rw [← ownId number numbers, numbers _ inOrder, numbers _ inFront] at equal
    have sameRef := numberOf_injective small inOrder inFront equal
    rw [places_append] at distinct
    exact (List.nodup_append.mp distinct).2.2 node.ref member other.ref (mem_places inEntered)
      sameRef.symm
  refine ⟨?_, ⟨?_, ?_⟩, ?_, ?_⟩
  · rw [order]
    exact .enter fresh below.visits .done
  · rw [order]
    exact below.tracks.table
  · intro id record present
    rw [order]
    change (after.records.insert finished.id finished)[id]? = some record at present
    rw [Std.TreeMap.getElem?_insert] at present
    split at present
    · rename_i equal
      refine ⟨seen.length, by omega, ?_⟩
      rw [← finishedId]
      exact (Std.LawfulEqOrd.eq_of_compare equal).symm
    · exact below.tracks.records id record present
  · intro other inNew
    rcases List.mem_cons.mp inNew with rfl | later
    · exact describable
    · exact below.describable other later
  · intro number numbers id record
    rw [order] at numbers
    change (after.records.insert finished.id finished)[id]? = some record ↔ _
    rw [Std.TreeMap.getElem?_insert, finishedId]
    by_cases here : id = .nth seen.length
    · subst here
      rw [if_pos Std.ReflOrd.compare_self]
      constructor
      · intro present
        refine .inl ⟨node, List.mem_cons_self, ownId number numbers, ?_⟩
        rw [← described number numbers]
        exact Option.some.inj present
      · rintro (⟨other, inNew, otherId, rfl⟩ | kept)
        · rcases List.mem_cons.mp inNew with rfl | later
          · rw [described number numbers]
          · exact absurd otherId (apart number numbers other later)
        · obtain ⟨position, inside, equal⟩ := tracks.records _ _ kept
          have bound : seen.length < RefId.limit := by omega
          have positions := RefId.nth_injective bound (by omega) equal
          omega
    · rw [if_neg fun equal => here (Std.LawfulEqOrd.eq_of_compare equal).symm,
        below.records number numbers, same]
      constructor
      · rintro (⟨other, later, described⟩ | kept)
        · exact .inl ⟨other, List.mem_cons_of_mem _ later, described⟩
        · exact .inr kept
      · rintro (⟨other, inNew, otherId, described⟩ | kept)
        · rcases List.mem_cons.mp inNew with rfl | later
          · exact absurd (otherId.symm.trans (ownId number numbers)) here
          · exact .inl ⟨other, later, otherId, described⟩
        · exact .inr kept

end Store

namespace Writing

variable {node : Node} {before : WriterState}

private theorem get_ran (before : WriterState) :
    (get : Writing WriterState) before = (.ok before, before) := rfl

theorem assign_of_ok {id : RefId} {table : RefTable}
    (assigned : before.table.assign node = .ok (id, table)) :
    assign node before = (.ok id, { before with table := table }) := by
  unfold assign
  rw [bind_of_ran_ok (get_ran before), assigned]
  rfl

theorem assign_of_error {fault : Fault} (failed : before.table.assign node = .error fault) :
    assign node before = (.error fault, before) := by
  unfold assign
  rw [bind_of_ran_ok (get_ran before), failed]
  rfl

end Writing

namespace Store

variable {store : Store} {policy : Policy} {depth : Nat} {node : Node} {before : WriterState}

theorem writeObject_of_known {id : RefId} (known : before.table.lookup node.ref = some id) :
    store.writeObject policy (depth + 1) node before =
      (.ok id, { before with log := before.log ++ [.backReference id node.typeKey] }) := by
  rw [writeObject_succ,
    bind_of_ran_ok (Writing.get_ran before)]
  simp only [known]
  rfl

variable (store policy depth) in
theorem writeObject_of_new (missing : before.table.lookup node.ref = none) :
    store.writeObject policy (depth + 1) node before = (do
      let id ← Writing.assign node
      let finished ← Script.run (store.writeObject policy depth) (store.script policy node)
        { id := id, typeKey := node.typeKey }
      Writing.finish finished
      return id : Writing RefId) before := by
  rw [writeObject_succ,
    bind_of_ran_ok (Writing.get_ran before)]
  simp only [missing]

theorem Wrote.again {seen : List Node} {log : List Event} (tracks : before.Tracks seen)
    (known : node.ref ∈ places seen) :
    store.Wrote policy before { before with log := log } seen [node] [] where
  visits := by
    rw [List.append_nil]
    exact .again known .done
  tracks := by
    rw [List.append_nil]
    exact ⟨tracks.table, tracks.records⟩
  describable other member := nomatch member
  records number _ id record := by
    constructor
    · exact .inr
    · rintro (⟨other, member, _⟩ | kept)
      · cases member
      · exact kept

/-- A walk of a new node enters the node and walks what is below. -/
theorem Walkable.below {seen entered : List Node}
    (walkable : store.Walkable policy seen [node] entered) (fresh : node.ref ∉ places seen) :
    ∃ inner, entered = node :: inner ∧ store.Describable policy node ∧
      store.Walkable policy (seen ++ [node]) (store.walked policy node) inner := by
  cases walkable.visits with
  | again known _ => exact absurd known fresh
  | enter _ below rest =>
      cases rest
      obtain ⟨inner, same⟩ := below.extends_seen
      have parts : entered = node :: inner := by
        rw [← List.append_cons] at same
        exact List.append_cancel_left same
      subst parts
      refine ⟨inner, rfl, walkable.describable node List.mem_cons_self, ?_, ?_, ?_⟩
      · rwa [← List.append_cons]
      · exact fun other later => walkable.describable other (List.mem_cons_of_mem _ later)
      · rw [← List.append_cons]
        exact walkable.bound

private theorem leads_of_readNode {data : node.type.Data Carrier.live}
    (read : store.readNode node = .ok data) : store.Leads node := by
  unfold readNode at read
  split at read
  · cases read
  · cases found : store.data? node.type node.ref with
    | none =>
        rw [found] at read
        cases read
    | some other => exact leads_iff.mpr ⟨other, found⟩

theorem Holds.cons {seen : List Node} (holds : store.Holds seen) (leads : store.Leads node)
    (fresh : node.ref ∉ places seen) : store.Holds (seen ++ [node]) where
  distinct := by
    rw [places_append, places_singleton]
    exact List.nodup_append.mpr ⟨holds.distinct, List.nodup_singleton _, fun left inSeen right here =>
      fun same => fresh (List.mem_singleton.mp here ▸ same ▸ inSeen)⟩
  inside ref member := by
    rw [places_append] at member
    rcases List.mem_append.mp member with earlier | here
    · exact holds.inside ref earlier
    · rw [List.mem_singleton.mp here]
      exact leads.index_lt

end Store

private theorem Store.walks_writeObject (store : Store) (policy : Policy) (depth : Nat)
    {before : WriterState} {seen : List Node} (node : Node) (tracks : before.Tracks seen)
    (holds : store.Holds seen) (deep : store.cells.size < depth + seen.length) :
    store.Walks policy before seen [node] True (fun number => number node.ref)
      (store.writeObject policy depth node) := by
  induction depth generalizing before seen node with
  | zero =>
      have few := length_le_of_nodup holds.distinct holds.inside
      rw [places, List.length_map] at few
      omega
  | succ depth ih =>
      have found := tracks.table.lookup node.ref
      by_cases known : node.ref ∈ places seen
      · rw [if_pos known] at found
        refine .of_ok (writeObject_of_known found) trivial (.again tracks known)
          fun number numbers => ?_
        rw [List.append_nil] at numbers
        exact (numbers node.ref known).symm
      · rw [if_neg known] at found
        have assigning := tracks.table.assign known
        split at assigning
        · rename_i full
          have shallow : Fault.idsExhausted ≠ .walkTooDeep := by decide
          refine .of_error ((writeObject_of_new store policy depth found).trans
            (bind_of_ran_error (Writing.assign_of_error assigning))) shallow
            fun _ entered walkable => ?_
          have bound := walkable.bound
          obtain ⟨inner, rfl, _⟩ := walkable.below known
          simp only [List.length_append, List.length_cons] at bound
          omega
        obtain ⟨table, assigned, tracksTable⟩ := assigning
        have started := (writeObject_of_new store policy depth found).trans
          (bind_of_ran_ok (Writing.assign_of_ok assigned))
        have tracksStart : WriterState.Tracks { before with table := table } (seen ++ [node]) :=
          ⟨tracksTable, fun id record present => by
            obtain ⟨position, inside, equal⟩ := tracks.records id record present
            refine ⟨position, ?_, equal⟩
            rw [List.length_append]
            omega⟩
        cases read : store.readNode node with
        | error fault =>
            have script : store.script policy node = [.error fault] := by rw [Store.script, read]
            rw [script] at started
            refine .of_error (started.trans (bind_of_ran_error rfl)) ?_
              fun _ entered walkable => ?_
            · rintro rfl
              exact (store.readNode_blames node _ read).2 rfl
            · obtain ⟨inner, _, describable, _⟩ := walkable.below known
              rw [Describable, script] at describable
              obtain ⟨done, failed⟩ := describable _ (List.mem_singleton_self _)
              cases failed
        | ok data =>
            have holdsStart := holds.cons (leads_of_readNode read) known
            have deeper : store.cells.size < depth + (seen ++ [node]).length := by
              rw [List.length_append, List.length_singleton]
              omega
            rcases (Script.walks_run (store.writeObject policy depth) ih
                (store.script_blames policy node).shallow { id := .nth seen.length, typeKey := node.typeKey }
                tracksStart holdsStart deeper).cases with
              ⟨finished, after, ran, describable, entered, wrote, results⟩ |
                ⟨fault, after, ran, less, never⟩
            · rw [slots_script describable] at wrote
              have distinct := (wrote.holds holdsStart).distinct
              have described : ∀ number, Numbers number (seen ++ [node] ++ entered) →
                  finished = store.describe policy number node := by
                intro number numbers
                rw [results number numbers, describe, numbers.of_append node.ref (mem_places
                  (List.mem_append_right _ (List.mem_singleton_self node))), numberOf_next known]
              have same : WriterState.records { before with table := table } = before.records := rfl
              refine .of_ok (started.trans (bind_of_ran_ok ran)) trivial
                (.enter tracks known same describable wrote distinct described)
                fun number numbers => ?_
              rw [List.append_cons] at numbers
              rw [numbers.of_append node.ref (mem_places
                (List.mem_append_right _ (List.mem_singleton_self node))), numberOf_next known]
            · refine .of_error (started.trans (bind_of_ran_error ran)) less
                fun _ entered walkable => ?_
              obtain ⟨inner, _, describable, below⟩ := walkable.below known
              rw [walked, ← slots_script describable] at below
              exact never describable inner below

/-! ### The whole pass -/

private theorem values_eq_map_toList {α β : Type} {cmp : α → α → Ordering}
    (map : Std.TreeMap α β cmp) : map.values = map.toList.map Prod.snd := by
  have values : map.values = map.inner.inner.toListModel.map (·.2) :=
    Std.DTreeMap.Internal.Impl.values_eq_map_snd
  have entries : map.toList = map.inner.inner.toListModel.map fun entry => (entry.1, entry.2) :=
    Std.DTreeMap.Internal.Impl.Const.toList_eq_toListModel_map
  rw [values, entries, List.map_map]
  rfl

def RefId.Before (left right : RefId × Record) : Prop := compare left.1 right.1 = .lt

instance : Std.Irrefl RefId.Before := ⟨fun entry here => by
  rw [RefId.Before, Std.ReflOrd.compare_self] at here
  cases here⟩

instance : Std.Antisymm RefId.Before := ⟨fun left right before after => by
  have reversed := Std.OrientedCmp.gt_of_lt before
  have less : compare right.1 left.1 = .lt := after
  rw [less] at reversed
  cases reversed⟩

namespace Store

variable {store : Store} {policy : Policy}

/-- The payload of a walk: the record of every object, in the order of the walk. -/
def payloadOf (store : Store) (policy : Policy) (order : List Node) : Payload where
  root := .nth 0
  records := order.map (store.describe policy (numberOf order))

/-- The finished records in the order of their ids are those of the walk in its order. -/
theorem Wrote.values {after : WriterState} {pending order : List Node}
    (wrote : store.Wrote policy {} after [] pending order) (distinct : (places order).Nodup) :
    after.records.values = order.map (store.describe policy (numberOf order)) := by
  have small : order.length ≤ RefId.limit := wrote.tracks.table.bound
  have entries : after.records.toList = order.map fun node =>
      (numberOf order node.ref, store.describe policy (numberOf order) node) := by
    refine List.Pairwise.eq_of_mem_iff (r := RefId.Before) Std.TreeMap.ordered_keys_toList ?_ ?_
    · rw [List.pairwise_map, List.pairwise_iff_getElem]
      intro left right leftInside rightInside before
      unfold RefId.Before
      rw [numberOf_getElem distinct leftInside, numberOf_getElem distinct rightInside]
      exact RefId.compare_nth before (Nat.lt_of_lt_of_le rightInside small)
    · rintro ⟨id, record⟩
      rw [Std.TreeMap.mem_toList_iff_getElem?_eq_some,
        wrote.records (numberOf order) (numbers_numberOf order), List.mem_map]
      constructor
      · rintro (⟨node, member, rfl, rfl⟩ | none)
        · exact ⟨node, member, rfl⟩
        · cases none
      · rintro ⟨node, member, same⟩
        cases same
        exact .inl ⟨node, member, rfl, rfl⟩
  rw [values_eq_map_toList, entries, List.map_map]
  rfl

theorem tracks_empty : WriterState.Tracks {} [] where
  table := RefTable.tracks_empty
  records _ _ present := nomatch present

private theorem holds_nil (store : Store) : store.Holds [] where
  distinct := List.nodup_nil
  inside _ member := nomatch member

private theorem serialize_of_capable {root : Node}
    (capable : policy.isCapable root.typeKey = true) : (store.serialize policy root).1 =
      match store.writeObject policy (store.cells.size + 1) root {} with
      | (.ok id, after) => .ok { root := id, records := after.records.values }
      | (.error fault, _) => .error fault := by
  have start : store.writeRoot policy root = (do
      let id ← store.write policy root
      let state ← get
      Writing.note (.serialized state.records.size id)
      return { root := id, records := state.records.values }) := by
    unfold writeRoot
    rw [capable]
    rfl
  unfold serialize
  rw [start]
  cases ran : store.writeObject policy (store.cells.size + 1) root {} with
  | mk outcome after =>
      cases outcome with
      | ok id => exact congrArg Prod.fst (bind_of_ran_ok ran)
      | error fault => exact congrArg Prod.fst (bind_of_ran_error ran)

private theorem serialize_of_not_capable {root : Node}
    (strange : ¬policy.isCapable root.typeKey = true) :
    (store.serialize policy root).1 = .error (.unregisteredRoot root.typeKey) := by
  rw [Bool.not_eq_true] at strange
  unfold serialize writeRoot
  rw [strange]
  rfl

/-- The bound on the levels of a walk never ends it. -/
theorem serialize_ne_walkTooDeep (store : Store) (policy : Policy) (root : Node) :
    (store.serialize policy root).1 ≠ .error .walkTooDeep := by
  by_cases capable : policy.isCapable root.typeKey = true
  · rw [serialize_of_capable capable]
    rcases (store.walks_writeObject policy (store.cells.size + 1) root tracks_empty store.holds_nil
        (Nat.lt_succ_self _)).cases with
      ⟨id, after, ran, _⟩ | ⟨fault, after, ran, shallow, _⟩
    · rw [ran]
      exact nofun
    · rw [ran]
      exact fun same => shallow (Except.error.inj same)
  · rw [serialize_of_not_capable capable]
    exact fun same => absurd (Except.error.inj same) nofun

/-- A pass succeeds exactly when its root is registered and its walk can be described and numbered,
and then it returns the payload of the walk. -/
theorem serialize_eq_ok {root : Node} {payload : Payload} :
    (store.serialize policy root).1 = .ok payload ↔
      policy.isCapable root.typeKey = true ∧ ∃ order,
        store.Walkable policy [] [root] order ∧ payload = store.payloadOf policy order := by
  by_cases capable : policy.isCapable root.typeKey = true
  · rw [serialize_of_capable capable]
    rcases (store.walks_writeObject policy (store.cells.size + 1) root tracks_empty store.holds_nil
        (Nat.lt_succ_self _)).cases with
      ⟨id, after, ran, -, order, wrote, ids⟩ | ⟨fault, after, ran, -, never⟩
    · have walkable : store.Walkable policy [] [root] order :=
        ⟨wrote.visits, wrote.describable, wrote.tracks.table.bound⟩
      have distinct := (wrote.holds store.holds_nil).distinct
      have first : id = .nth 0 := by
        obtain ⟨inner, rfl, _⟩ := walkable.below List.not_mem_nil
        rw [ids _ (numbers_numberOf _)]
        exact numberOf_getElem distinct (Nat.succ_pos _)
      rw [ran]
      simp only [wrote.values distinct, first]
      constructor
      · intro returned
        exact ⟨capable, order, walkable, (Except.ok.inj returned).symm⟩
      · rintro ⟨-, other, another, rfl⟩
        have same : other = order := another.visits.unique walkable.visits
        rw [same]
        rfl
    · rw [ran]
      constructor
      · intro returned
        cases returned
      · rintro ⟨-, order, walkable, -⟩
        exact absurd walkable (never trivial order)
  · rw [serialize_of_not_capable capable]
    constructor
    · intro returned
      cases returned
    · rintro ⟨present, -⟩
      exact absurd present capable

end Store

/-! ### What a pass does to its state -/

namespace Writing

variable {α β : Type} {related : WriterState → WriterState → Prop}

/-- Whatever becomes of the step, it leads from a state to a related one. -/
def Along (related : WriterState → WriterState → Prop) (action : Writing α) : Prop :=
  ∀ before, related before (action before).2

structure Course (related : WriterState → WriterState → Prop) : Prop where
  refl : ∀ state, related state state
  trans : ∀ {before between after}, related before between → related between after →
    related before after
  assign : ∀ node, Along related (assign node)
  finish : ∀ record, Along related (finish record)
  backReference : ∀ id typeKey, Along related (note (.backReference id typeKey))
  serialized : ∀ count id, Along related (note (.serialized count id))

theorem Course.bind (course : Course related) {first : Writing α} {next : α → Writing β}
    (head : Along related first) (tail : ∀ value, Along related (next value)) :
    Along related (first >>= next) := by
  intro before
  have start := head before
  rcases ran : first before with ⟨outcome, between⟩
  rw [ran] at start
  cases outcome with
  | error fault =>
      rw [bind_of_ran_error ran]
      exact start
  | ok value =>
      rw [bind_of_ran_ok ran]
      exact course.trans start (tail value between)

theorem Course.run (course : Course related) {visit : Node → Writing RefId}
    (visits : ∀ node, Along related (visit node)) (script : Script) (record : Record) :
    Along related (script.run visit record) := by
  induction script generalizing record with
  | nil => exact course.refl
  | cons step others ih =>
      match step with
      | .error fault => exact course.refl
      | .ok (.value name wire) => exact ih _
      | .ok (.slot slot) => exact course.bind (visits slot.child) fun id => ih _

theorem Course.writeObject (course : Course related) (store : Store) (policy : Policy)
    (depth : Nat) (node : Node) : Along related (store.writeObject policy depth node) := by
  induction depth generalizing node with
  | zero => exact course.refl
  | succ depth ih =>
      rw [Store.writeObject_succ]
      refine course.bind course.refl fun state => ?_
      cases state.table.lookup node.ref with
      | some id => exact course.bind (course.backReference id _) fun _ => course.refl
      | none =>
          refine course.bind (course.assign node) fun id => ?_
          refine course.bind (course.run ih _ _) fun finished => ?_
          exact course.bind (course.finish finished) fun _ => course.refl

/-- A writing pass leads from a state to a related one, also if it fails. -/
theorem Course.writeRoot (course : Course related) (store : Store) (policy : Policy)
    (root : Node) : Along related (store.writeRoot policy root) := by
  unfold Store.writeRoot
  split
  · exact course.refl
  · refine course.bind (course.writeObject store policy _ root) fun id => ?_
    refine course.bind course.refl fun state => ?_
    exact course.bind (course.serialized _ id) fun _ => course.refl

end Writing

/-! ### What can go wrong with a pass -/

private theorem Script.run_blames {visit : Node → Writing RefId}
    (visits : ∀ node before, FailsOnly (fun fault => fault.blamesGraph = true) (visit node before).1)
    {script : Script} (blames : script.Blames) (record : Record) (before : WriterState) :
    FailsOnly (fun fault => fault.blamesGraph = true) (script.run visit record before).1 := by
  induction script generalizing record before with
  | nil => exact failsOnly_ok _
  | cons step others ih =>
      have blamesRest : Blames others := fun fault member => blames fault (List.mem_cons_of_mem _ member)
      match step with
      | .error fault => exact failsOnly_error (blames fault List.mem_cons_self).1
      | .ok (.value name wire) => exact ih blamesRest _ _
      | .ok (.slot slot) =>
          exact failsOnly_bind_run (visits slot.child before) fun id => ih blamesRest _

private theorem RefTable.assign_blames (table : RefTable) (node : Node) :
    FailsOnly (fun fault => fault.blamesGraph = true) (table.assign node) := by
  unfold assign
  split
  · exact failsOnly_error rfl
  · simp only
    split
    · exact failsOnly_error rfl
    · exact failsOnly_ok _

namespace Store

private theorem writeObject_blames (store : Store) (policy : Policy) (depth : Nat) (node : Node)
    (before : WriterState) : FailsOnly (fun fault => fault.blamesGraph = true)
      (store.writeObject policy depth node before).1 := by
  induction depth generalizing node before with
  | zero => exact failsOnly_error rfl
  | succ depth ih =>
      cases known : before.table.lookup node.ref with
      | some id =>
          rw [writeObject_of_known known]
          exact failsOnly_ok id
      | none =>
          rw [writeObject_of_new store policy depth known]
          refine failsOnly_bind_run ?_ fun id between => failsOnly_bind_run ?_ fun _ _ => failsOnly_ok id
          · cases assigned : before.table.assign node with
            | error fault =>
                rw [Writing.assign_of_error assigned]
                exact failsOnly_error (before.table.assign_blames node fault assigned)
            | ok both =>
                rw [Writing.assign_of_ok assigned]
                exact failsOnly_ok _
          · exact Script.run_blames ih (store.script_blames policy node) _ _

/-- A graph that is not written is to blame for it. -/
theorem serialize_blames (store : Store) (policy : Policy) (root : Node) :
    FailsOnly (fun fault => fault.blamesGraph = true) (store.serialize policy root).1 := by
  by_cases capable : policy.isCapable root.typeKey = true
  · have blames := store.writeObject_blames policy (store.cells.size + 1) root {}
    rw [serialize_of_capable capable]
    split
    · exact failsOnly_ok _
    · rename_i fault after ran
      rw [ran] at blames
      exact failsOnly_error (blames fault rfl)
  · rw [serialize_of_not_capable capable]
    exact failsOnly_error rfl

end Store

end ObjectCourier
