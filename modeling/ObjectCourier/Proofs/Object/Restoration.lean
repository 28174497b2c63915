import ObjectCourier.Object.Initial
import ObjectCourier.Graph.Registry
import ObjectCourier.Proofs.Object.Heap
import ObjectCourier.Proofs.Object.Restoring

/-!
Objects that come back from their records. A walked node comes back as the object of its record and
any other node as a copy by value; values come back as the wire brings them; what is not recorded
comes back as in a new object.
-/

namespace ObjectCourier

variable {target later : Carrier}

structure Restoration (target : Carrier) where
  /-- A node that is walked. -/
  walked : (type : ObjType) → Ref → target.Handle type → Prop
  /-- A node that is carried by value. -/
  copied : (type : ObjType) → Ref → target.Handle type → Prop
  /-- An object that a new object starts with. -/
  begun : (type : ObjType) → Embedded type → target.Handle type → Prop
  loads : target.Loads → Prop
  memo : target.Memo → Prop

def FieldType.isWalked (policy : Policy) (typeKey name : String) (permitted : Bool)
    (type : FieldType) (value : type.Val Carrier.live.Handle) : Bool :=
  match type.liveNode? value with
  | some node => permitted && policy.walks typeKey name node.typeKey
  | none => false

/-- The second value is what comes back of the first one. -/
def FieldType.Restored (restoration : Restoration target) (policy : Policy) (typeKey name : String)
    (permitted : Bool) (type : FieldType) (value : type.Val Carrier.live.Handle)
    (restored : type.Val target.Handle) : Prop :=
  if type.isWalked policy typeKey name permitted value then
    type.Matches restoration.walked value restored
  else type.RestoredAs restoration.copied value restored

structure Container.Restored {α β : Type} (tracks : Bool) (restores : α → β → Prop)
    (left : Container α) (right : Container β) : Prop where
  name : right.name = left.name
  dirty : right.dirty = left.dirty
  serializable : right.serializable = left.serializable
  empty : left.value? = none → right.held = .empty
  full : ∀ value, left.value? = some value →
    ∃ restored, right.held = .wrap tracks restored ∧ restores value restored

def Form.Restored (restoration : Restoration target) (policy : Policy) (typeKey name : String) :
    (form : Form) → form.startable = true → form.Val Carrier.live → form.Val target → Prop
  | bare type, _, left, right =>
      type.Restored restoration policy typeKey name true left right
  | container type, _, left, right =>
      let holder : Container (type.Val Carrier.live.Handle) := left
      Container.Restored type.tracks
        (type.Restored restoration policy typeKey name holder.serializable) holder
        (show Container (type.Val target.Handle) from right)
  | aside type, startable, _, right => type.Matches restoration.begun (type.first startable) right
  | loads, _, _, right => restoration.loads right
  | memo, _, _, right => restoration.memo right

def Members.Restored (restoration : Restoration target) (policy : Policy) (typeKey : String) :
    (members : List Member) → Members Carrier.live members → Members target members → Prop
  | [], _, _ => True
  | member :: others, (left, leftRest), (right, rightRest) =>
      member.form.Restored restoration policy typeKey member.name member.startable left right ∧
        Restored restoration policy typeKey others leftRest rightRest

def Shape.Restored (restoration : Restoration target) (policy : Policy) (typeKey : String) :
    (shape : Shape) → shape.Data Carrier.live → shape.Data target → Prop
  | fields members, left, right => Members.Restored restoration policy typeKey members left right
  | elements type, left, right => List.Forall₂ (restoration.walked type) left right

structure Restoration.Becomes (first : Restoration target)
    (relation : Carrier.Relation target later) (second : Restoration later) : Prop where
  walked : ∀ type ref middle right, first.walked type ref middle →
    relation.handle type middle right → second.walked type ref right
  copied : ∀ type ref middle right, first.copied type ref middle →
    relation.handle type middle right → second.copied type ref right
  begun : ∀ type copy middle right, first.begun type copy middle →
    relation.handle type middle right → second.begun type copy right
  loads : ∀ middle right, first.loads middle → relation.loads middle right → second.loads right
  memo : ∀ middle right, first.memo middle → relation.memo middle right → second.memo right

section Becoming

variable {first : Restoration target} {relation : Carrier.Relation target later}
  {second : Restoration later} {policy : Policy} {typeKey : String}

theorem FieldType.Restored.becomes {name : String} {permitted : Bool} {type : FieldType}
    {left : type.Val Carrier.live.Handle} {middle : type.Val target.Handle}
    {right : type.Val later.Handle}
    (restored : type.Restored first policy typeKey name permitted left middle)
    (alike : type.Matches relation.handle middle right) (becomes : first.Becomes relation second) :
    type.Restored second policy typeKey name permitted left right := by
  unfold Restored at restored ⊢
  split at restored
  · rename_i walked
    rw [if_pos walked]
    exact restored.comp alike becomes.walked
  · rename_i carried
    rw [if_neg carried]
    exact restored.comp alike becomes.copied

theorem Held.Matches.wrap {α β : Type} {same : α → β → Prop} {tracks : Bool} {left : α}
    {held : Held β} (alike : (Held.wrap tracks left).Matches same held) :
    ∃ right, held = .wrap tracks right ∧ same left right := by
  cases tracks with
  | false =>
      match held, alike with
      | .plain right, alike => exact ⟨right, rfl, alike⟩
  | true =>
      match held, alike with
      | .tracked right, alike => exact ⟨right, rfl, alike⟩

theorem Form.Restored.becomes {name : String} {form : Form} {startable : form.startable = true}
    {left : form.Val Carrier.live} {middle : form.Val target} {right : form.Val later}
    (restored : form.Restored first policy typeKey name startable left middle)
    (alike : form.Matches relation middle right) (becomes : first.Becomes relation second) :
    form.Restored second policy typeKey name startable left right := by
  cases form with
  | bare type => exact FieldType.Restored.becomes restored alike becomes
  | container type =>
      have held := Container.Matches.held alike
      refine ⟨?_, ?_, ?_, ?_, ?_⟩
      · exact (Container.Matches.name alike).trans (Container.Restored.name restored)
      · exact (Container.Matches.dirty alike).trans (Container.Restored.dirty restored)
      · exact (Container.Matches.serializable alike).trans
          (Container.Restored.serializable restored)
      · intro none
        rw [Container.Restored.empty restored none] at held
        match Container.held right, held with
        | .empty, _ => rfl
      · intro value some
        obtain ⟨between, same, restores⟩ := Container.Restored.full restored value some
        rw [same] at held
        obtain ⟨last, wrapped, further⟩ := Held.Matches.wrap held
        exact ⟨last, wrapped, FieldType.Restored.becomes restores further becomes⟩
  | aside type => exact FieldType.Matches.comp restored alike becomes.begun
  | loads => exact becomes.loads _ _ restored alike
  | memo => exact becomes.memo _ _ restored alike

theorem Members.Restored.becomes {members : List Member} {left : Members Carrier.live members}
    {middle : Members target members} {right : Members later members}
    (restored : Members.Restored first policy typeKey members left middle)
    (alike : Members.Matches relation members middle right) (becomes : first.Becomes relation second) :
    Members.Restored second policy typeKey members left right := by
  induction members with
  | nil => trivial
  | cons member others ih =>
      exact ⟨Form.Restored.becomes restored.1 alike.1 becomes, ih restored.2 alike.2⟩

theorem Shape.Restored.becomes {shape : Shape} {left : shape.Data Carrier.live}
    {middle : shape.Data target} {right : shape.Data later}
    (restored : shape.Restored first policy typeKey left middle)
    (alike : shape.Matches relation middle right) (becomes : first.Becomes relation second) :
    shape.Restored second policy typeKey left right := by
  cases shape with
  | fields members => exact Members.Restored.becomes restored alike becomes
  | elements type => exact forall₂_comp restored alike (becomes.walked type)

end Becoming

structure Restoration.Yields (restoration : Restoration target)
    (good : (type : ObjType) → target.Handle type → Prop) : Prop where
  walked : ∀ type ref handle, restoration.walked type ref handle → good type handle
  copied : ∀ type ref handle, restoration.copied type ref handle → good type handle
  begun : ∀ type copy handle, restoration.begun type copy handle → good type handle

theorem FieldType.RestoredAs.handles {Source Target : ObjType → Type}
    {same : (type : ObjType) → Source type → Target type → Prop}
    {good : (type : ObjType) → Target type → Prop} {type : FieldType} {left : type.Val Source}
    {right : type.Val Target} (restored : type.RestoredAs same left right)
    (implies : ∀ type left right, same type left right → good type right) :
    ∀ child ∈ type.handles right, good child.1 child.2 := by
  induction type with
  | int kind | float32 | float64 | bool | text =>
      intro child member
      cases member
  | option type ih =>
      match left, right, restored with
      | none, none, _ | some _, none, _ =>
          intro child member
          cases member
      | some _, some _, restored => exact ih restored.2
  | vector type ih =>
      intro child member
      obtain ⟨item, present, within⟩ := List.mem_flatMap.mp member
      obtain ⟨_, _, related⟩ := exists_left_of_forall₂ restored present
      exact ih related child within
  | handle type =>
      intro child member
      rw [List.mem_singleton.mp member]
      exact implies type left right restored

section Handles

variable {restoration : Restoration target} {good : (type : ObjType) → target.Handle type → Prop}
  {policy : Policy} {typeKey : String}

theorem FieldType.Restored.handles {name : String} {permitted : Bool} {type : FieldType}
    {left : type.Val Carrier.live.Handle} {right : type.Val target.Handle}
    (restored : type.Restored restoration policy typeKey name permitted left right)
    (yields : restoration.Yields good) : ∀ child ∈ type.handles right, good child.1 child.2 := by
  unfold Restored at restored
  split at restored
  · exact FieldType.handles_of_matches good restored yields.walked
  · exact restored.handles yields.copied

theorem Form.Restored.handles {name : String} {form : Form} {startable : form.startable = true}
    {left : form.Val Carrier.live} {right : form.Val target}
    (restored : form.Restored restoration policy typeKey name startable left right)
    (yields : restoration.Yields good) : ∀ child ∈ form.handles right, good child.1 child.2 := by
  cases form with
  | bare type => exact FieldType.Restored.handles restored yields
  | container type =>
      obtain ⟨ownName, held, dirty, serializable⟩ := right
      intro child member
      cases full : Container.value? left with
      | none =>
          have same : held = .empty := Container.Restored.empty restored full
          rw [same] at member
          cases member
      | some value =>
          obtain ⟨brought, same, further⟩ := Container.Restored.full restored value full
          have wrapped : held = .wrap type.tracks brought := same
          rw [wrapped] at member
          apply FieldType.Restored.handles further yields child
          cases tracks : type.tracks with
          | true =>
              rw [tracks] at member
              exact member
          | false =>
              rw [tracks] at member
              exact member
  | aside type => exact FieldType.handles_of_matches good restored yields.begun
  | loads | memo =>
      intro child member
      cases member

theorem Members.Restored.handles {members : List Member} {left : Members Carrier.live members}
    {right : Members target members}
    (restored : Members.Restored restoration policy typeKey members left right)
    (yields : restoration.Yields good) :
    ∀ child ∈ Members.handles members right, good child.1 child.2 := by
  induction members with
  | nil =>
      intro child member
      cases member
  | cons member others ih =>
      intro child present
      rcases List.mem_append.mp present with here | there
      · exact Form.Restored.handles restored.1 yields child here
      · exact ih restored.2 child there

theorem Shape.Restored.handles {shape : Shape} {left : shape.Data Carrier.live}
    {right : shape.Data target} (restored : shape.Restored restoration policy typeKey left right)
    (yields : restoration.Yields good) : ∀ child ∈ shape.handles right, good child.1 child.2 := by
  cases shape with
  | fields members => exact Members.Restored.handles restored yields
  | elements type =>
      intro child member
      obtain ⟨item, present, rfl⟩ := List.mem_map.mp member
      obtain ⟨origin, _, related⟩ := exists_left_of_forall₂ restored present
      exact yields.walked type origin item related

/-! The counters come back under the given rule. -/

theorem Form.Restored.counters {counts : target.Loads → Prop} {name : String} {form : Form}
    {startable : form.startable = true} {left : form.Val Carrier.live} {right : form.Val target}
    (restored : form.Restored restoration policy typeKey name startable left right)
    (loads : ∀ counter, restoration.loads counter → counts counter) :
    ∀ counter ∈ form.counters right, counts counter := by
  intro counter member
  cases form with
  | loads =>
      rw [List.mem_singleton.mp member]
      exact loads right restored
  | bare _ | container _ | aside _ | memo => cases member

theorem Members.Restored.counters {counts : target.Loads → Prop} {members : List Member}
    {left : Members Carrier.live members} {right : Members target members}
    (restored : Members.Restored restoration policy typeKey members left right)
    (loads : ∀ counter, restoration.loads counter → counts counter) :
    ∀ counter ∈ Members.counters members right, counts counter := by
  induction members with
  | nil =>
      intro counter member
      cases member
  | cons member others ih =>
      intro counter present
      rcases List.mem_append.mp present with here | there
      · exact Form.Restored.counters restored.1 loads counter here
      · exact ih restored.2 counter there

theorem Shape.Restored.counters {counts : target.Loads → Prop} {shape : Shape}
    {left : shape.Data Carrier.live} {right : shape.Data target}
    (restored : shape.Restored restoration policy typeKey left right)
    (loads : ∀ counter, restoration.loads counter → counts counter) :
    ∀ counter ∈ shape.counters right, counts counter := by
  cases shape with
  | fields members => exact Members.Restored.counters restored loads
  | elements type =>
      intro counter member
      cases member

end Handles

end ObjectCourier
