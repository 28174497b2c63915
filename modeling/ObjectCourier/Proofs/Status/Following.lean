import ObjectCourier.Proofs.Graph.Copying
import ObjectCourier.Proofs.Status.Tags

/-!
Contents that look the same to the status flags. A content follows another one when its containers
have the same dirty flags and tags and what stands in it leads to objects that follow those of the
other. Objects that follow each other answer every status question alike.
-/

namespace ObjectCourier

variable {Source Target : ObjType → Type} {source target : Carrier}

/-! ### Values -/

namespace FieldType

/-- The second value is the first one but for its handles, for single floats, and for options around
nothing. -/
def Follows (twin : (type : ObjType) → Source type → Target type → Prop) :
    (type : FieldType) → type.Val Source → type.Val Target → Prop
  | int _, left, right => right = left
  | float32, _, _ => True
  | float64, left, right => right = left
  | bool, left, right => right = left
  | text, left, right => right = left
  | option type, left, right =>
      match (show Option (type.Val Source) from left), (show Option (type.Val Target) from right) with
      | none, none => True
      | some left, none => Absent type left
      | some left, some right => Follows twin type left right
      | none, some _ => False
  | vector type, left, right => List.Forall₂ (Follows twin type) left right
  | handle type, left, right => twin type left right

variable {same twin : (type : ObjType) → Source type → Target type → Prop} {type : FieldType}
  {left : type.Val Source} {right : type.Val Target}

theorem Matches.follows (alike : type.Matches same left right)
    (implies : ∀ type left right, same type left right → twin type left right) :
    type.Follows twin left right := by
  induction type with
  | int _ | float64 | bool | text => exact Eq.symm alike
  | float32 => trivial
  | option type ih =>
      match left, right, alike with
      | none, none, _ => trivial
      | some _, some _, alike => exact ih alike
  | vector type ih => exact List.Forall₂.imp (fun _ _ => ih) alike
  | handle type => exact implies type left right alike

theorem RestoredAs.follows (restored : type.RestoredAs same left right)
    (implies : ∀ type left right, same type left right → twin type left right) :
    type.Follows twin left right := by
  induction type with
  | int _ | float64 | bool | text => exact restored
  | float32 => trivial
  | option type ih =>
      match left, right, restored with
      | none, none, _ => trivial
      | some _, none, absent => exact absent
      | some _, some _, restored => exact ih restored.2
  | vector type ih => exact List.Forall₂.imp (fun _ _ => ih) restored
  | handle type => exact implies type left right restored

theorem Follows.within {first : (type : ObjType) → Source type → Prop}
    {second : (type : ObjType) → Target type → Prop} (follows : type.Follows twin left right)
    (lefts : ∀ child ∈ type.handles left, first child.1 child.2)
    (rights : ∀ child ∈ type.handles right, second child.1 child.2) :
    type.Follows (fun type left right => twin type left right ∧ first type left ∧ second type right)
      left right := by
  induction type with
  | int _ | float32 | float64 | bool | text => exact follows
  | option type ih =>
      match left, right, follows with
      | none, none, _ => trivial
      | some _, none, absent => exact absent
      | some _, some _, follows => exact ih follows lefts rights
  | vector type ih =>
      have items : List.Forall₂ (type.Follows twin) left right := follows
      induction items with
      | nil => exact .nil
      | cons head tail further =>
          refine .cons (ih head ?_ ?_) (further tail ?_ ?_)
          · exact fun child member => lefts child (List.mem_append_left _ member)
          · exact fun child member => rights child (List.mem_append_left _ member)
          · exact fun child member => lefts child (List.mem_append_right _ member)
          · exact fun child member => rights child (List.mem_append_right _ member)
  | handle type =>
      exact ⟨follows, lefts ⟨type, left⟩ (List.mem_singleton_self _),
        rights ⟨type, right⟩ (List.mem_singleton_self _)⟩

theorem Follows.liveNode? {twin : (type : ObjType) → Ref → Ref → Prop}
    {left right : type.Val Carrier.live.Handle} (follows : type.Follows twin left right) :
    (type.liveNode? left = none ∧ type.liveNode? right = none) ∨ ∃ target ref other,
      type.liveNode? left = some ⟨target, ref⟩ ∧ type.liveNode? right = some ⟨target, other⟩ ∧
        twin target ref other := by
  induction type with
  | int _ | float32 | float64 | bool | text | vector _ => exact .inl ⟨rfl, rfl⟩
  | option type ih =>
      match left, right, follows with
      | none, none, _ => exact .inl ⟨rfl, rfl⟩
      | some inner, none, absent => exact .inl ⟨Absent.liveNode? absent, rfl⟩
      | some _, some _, follows => exact ih follows
  | handle type => exact .inr ⟨type, left, right, rfl, rfl, follows⟩

end FieldType

/-! ### Contents -/

def Form.Follows (relation : Carrier.Relation source target) :
    (form : Form) → form.Val source → form.Val target → Prop
  | bare type, left, right => type.Follows relation.handle left right
  | container type, left, right =>
      let holder : Container (type.Val source.Handle) := left
      let other : Container (type.Val target.Handle) := right
      other.dirty = holder.dirty ∧ holder.held.Matches (type.Follows relation.handle) other.held
  | aside _, _, _ | memo, _, _ => True
  | loads, left, right => relation.loads left right

def Members.Follows (relation : Carrier.Relation source target) :
    (members : List Member) → Members source members → Members target members → Prop
  | [], _, _ => True
  | member :: others, (left, leftRest), (right, rightRest) =>
      member.form.Follows relation left right ∧ Follows relation others leftRest rightRest

def Shape.Follows (relation : Carrier.Relation source target) :
    (shape : Shape) → shape.Data source → shape.Data target → Prop
  | fields members, left, right => Members.Follows relation members left right
  | elements type, left, right => List.Forall₂ (relation.handle type) left right

section Matching

variable {relation : Carrier.Relation source target}

theorem Form.Matches.follows {form : Form} {left : form.Val source} {right : form.Val target}
    (alike : form.Matches relation left right) : form.Follows relation left right := by
  cases form with
  | bare type => exact FieldType.Matches.follows alike fun _ _ _ => id
  | container type =>
      exact ⟨Container.Matches.dirty alike, (Container.Matches.held alike).imp
        fun _ _ same => same.follows fun _ _ _ => id⟩
  | loads => exact alike
  | aside _ | memo => trivial

theorem Members.Matches.follows {members : List Member} {left : Members source members}
    {right : Members target members} (alike : Members.Matches relation members left right) :
    Members.Follows relation members left right := by
  induction members with
  | nil => trivial
  | cons member others ih => exact ⟨Form.Matches.follows alike.1, ih alike.2⟩

theorem Shape.Matches.follows {shape : Shape} {left : shape.Data source} {right : shape.Data target}
    (alike : shape.Matches relation left right) : shape.Follows relation left right := by
  cases shape with
  | fields members => exact Members.Matches.follows alike
  | elements type => exact alike

end Matching

section Restoring

variable {restoration : Restoration target} {relation : Carrier.Relation Carrier.live target}
  {policy : Policy} {typeKey : String}

structure Restoration.Within (restoration : Restoration target)
    (relation : Carrier.Relation Carrier.live target) : Prop where
  walked : ∀ type ref handle, restoration.walked type ref handle → relation.handle type ref handle
  copied : ∀ type ref handle, restoration.copied type ref handle → relation.handle type ref handle
  loads : ∀ counter count, restoration.loads count → relation.loads counter count

variable (inside : restoration.Within relation)

include inside

theorem FieldType.Restored.follows {name : String} {permitted : Bool} {type : FieldType}
    {left : type.Val Carrier.live.Handle} {right : type.Val target.Handle}
    (restored : type.Restored restoration policy typeKey name permitted left right) :
    type.Follows relation.handle left right := by
  unfold Restored at restored
  split at restored
  · exact FieldType.Matches.follows restored inside.walked
  · exact FieldType.RestoredAs.follows restored inside.copied

theorem Form.Restored.follows {name : String} {form : Form} {startable : form.startable = true}
    {left : form.Val Carrier.live} {right : form.Val target}
    (restored : form.Restored restoration policy typeKey name startable left right)
    (fits : form.Containers Container.Fits left) : form.Follows relation left right := by
  cases form with
  | bare type => exact FieldType.Restored.follows inside restored
  | container type =>
      refine ⟨Container.Restored.dirty restored, ?_⟩
      cases full : Container.value? left with
      | none =>
          rw [Container.Restored.empty restored full, Held.eq_empty full]
          trivial
      | some value =>
          obtain ⟨other, same, further⟩ := Container.Restored.full restored value full
          -- The value was wrapped by its type there and is wrapped by its type here.
          rw [same, Held.Tagged.eq_wrap fits full]
          exact Held.matches_wrap type.tracks (further.follows inside)
  | aside _ | memo => trivial
  | loads => exact inside.loads _ _ restored

theorem Members.Restored.follows {members : List Member} {left : Members Carrier.live members}
    {right : Members target members}
    (restored : Members.Restored restoration policy typeKey members left right)
    (fits : Members.Containers Container.Fits members left) :
    Members.Follows relation members left right := by
  induction members with
  | nil => trivial
  | cons member others ih =>
      exact ⟨Form.Restored.follows inside restored.1 fits.1, ih restored.2 fits.2⟩

theorem Shape.Restored.follows {shape : Shape} {left : shape.Data Carrier.live}
    {right : shape.Data target} (restored : shape.Restored restoration policy typeKey left right)
    (tagged : shape.Tagged left) : shape.Follows relation left right := by
  cases shape with
  | fields members => exact Members.Restored.follows inside restored tagged
  | elements type => exact List.Forall₂.imp (inside.walked type) restored

end Restoring

structure Carrier.Limits (carrier : Carrier) where
  handle : (type : ObjType) → carrier.Handle type → Prop
  loads : carrier.Loads → Prop

structure Shape.Inside (shape : Shape) (limits : source.Limits) (data : shape.Data source) : Prop where
  handles : ∀ child ∈ shape.handles data, limits.handle child.1 child.2
  counters : ∀ counter ∈ shape.counters data, limits.loads counter

def Carrier.Relation.within (relation : Carrier.Relation source target) (first : source.Limits)
    (second : target.Limits) : Carrier.Relation source target where
  handle type left right :=
    relation.handle type left right ∧ first.handle type left ∧ second.handle type right
  loads left right := relation.loads left right ∧ first.loads left ∧ second.loads right
  memo := relation.memo

private theorem forall₂_within {α β : Type} {related : α → β → Prop} {left : List α}
    {right : List β}
    {first : α → Prop} {second : β → Prop} (alike : List.Forall₂ related left right)
    (lefts : ∀ item ∈ left, first item) (rights : ∀ item ∈ right, second item) :
    List.Forall₂ (fun left right => related left right ∧ first left ∧ second right) left right := by
  induction alike with
  | nil => exact .nil
  | cons head _ ih =>
      rw [List.forall_mem_cons] at lefts rights
      exact .cons ⟨head, lefts.1, rights.1⟩ (ih lefts.2 rights.2)

section Within

variable {relation : Carrier.Relation source target} {first : source.Limits}
  {second : target.Limits}

theorem Form.Follows.within {form : Form} {left : form.Val source} {right : form.Val target}
    (follows : form.Follows relation left right)
    (lefts : ∀ child ∈ form.handles left, first.handle child.1 child.2)
    (rights : ∀ child ∈ form.handles right, second.handle child.1 child.2)
    (counts : ∀ counter ∈ form.counters left, first.loads counter)
    (others : ∀ counter ∈ form.counters right, second.loads counter) :
    form.Follows (relation.within first second) left right := by
  cases form with
  | bare type => exact FieldType.Follows.within follows lefts rights
  | container type =>
      obtain ⟨dirty, held⟩ := follows
      refine ⟨dirty, ?_⟩
      match left, right, held with
      | ⟨_, .empty, _, _⟩, ⟨_, .empty, _, _⟩, _ => trivial
      | ⟨_, .plain _, _, _⟩, ⟨_, .plain _, _, _⟩, held
      | ⟨_, .tracked _, _, _⟩, ⟨_, .tracked _, _, _⟩, held =>
          exact FieldType.Follows.within held lefts rights
  | loads =>
      exact ⟨follows, counts left (List.mem_singleton_self _), others right (List.mem_singleton_self _)⟩
  | aside _ | memo => trivial

theorem Members.Follows.within {members : List Member} {left : Members source members}
    {right : Members target members} (follows : Members.Follows relation members left right)
    (lefts : ∀ child ∈ Members.handles members left, first.handle child.1 child.2)
    (rights : ∀ child ∈ Members.handles members right, second.handle child.1 child.2)
    (counts : ∀ counter ∈ Members.counters members left, first.loads counter)
    (others : ∀ counter ∈ Members.counters members right, second.loads counter) :
    Members.Follows (relation.within first second) members left right := by
  induction members with
  | nil => trivial
  | cons member rest ih =>
      constructor
      · apply Form.Follows.within follows.1
        · exact fun child present => lefts child (List.mem_append_left _ present)
        · exact fun child present => rights child (List.mem_append_left _ present)
        · exact fun counter present => counts counter (List.mem_append_left _ present)
        · exact fun counter present => others counter (List.mem_append_left _ present)
      · apply ih follows.2
        · exact fun child present => lefts child (List.mem_append_right _ present)
        · exact fun child present => rights child (List.mem_append_right _ present)
        · exact fun counter present => counts counter (List.mem_append_right _ present)
        · exact fun counter present => others counter (List.mem_append_right _ present)

theorem Shape.Follows.within {shape : Shape} {left : shape.Data source} {right : shape.Data target}
    (follows : shape.Follows relation left right) (inside : shape.Inside first left)
    (other : shape.Inside second right) :
    shape.Follows (relation.within first second) left right := by
  cases shape with
  | fields members =>
      exact Members.Follows.within follows inside.handles other.handles inside.counters
        other.counters
  | elements type =>
      apply forall₂_within follows
      · exact fun item present => inside.handles ⟨type, item⟩ (List.mem_map_of_mem present)
      · exact fun item present => other.handles ⟨type, item⟩ (List.mem_map_of_mem present)

end Within

/-! ### Objects -/

private theorem Container.status_eq {α β : Type} {statusOf : α → Option Status}
    {other : β → Option Status} {same : α → β → Prop} {holder : Container α} {copy : Container β}
    (dirty : copy.dirty = holder.dirty) (held : holder.held.Matches same copy.held)
    (answers : ∀ left right, same left right → other right = statusOf left) :
    copy.status other = holder.status statusOf := by
  obtain ⟨_, left, _, _⟩ := holder
  obtain ⟨_, right, _, _⟩ := copy
  cases dirty
  match left, right, held with
  | .empty, .empty, _ | .plain _, .plain _, _ => rfl
  | .tracked value, .tracked shadow, held =>
      have same := answers value shadow held
      unfold Container.status Container.delegated
      simp only [same]

/-- Objects of two stores that look the same, with objects that look the same below and counters
that show the same. -/
structure Store.Shadowing (left right : Store) where
  relation : Carrier.Relation Carrier.live Carrier.live
  loads : ∀ counter count, relation.loads counter count →
    right.outstanding count = left.outstanding counter
  objects : ∀ type ref other, relation.handle type ref other → ∃ data copy,
    left.data? type ref = some data ∧ right.data? type other = some copy ∧
      type.shape.Follows relation data copy

private theorem Held.Matches.value?_eq {α : Type} {left right : Held α}
    (alike : left.Matches (fun left right => right = left) right) : right.value? = left.value? := by
  match left, right, alike with
  | .empty, .empty, _ => rfl
  | .plain _, .plain _, same | .tracked _, .tracked _, same => exact congrArg some same

private theorem Held.Matches.bind_eq {α β γ : Type} {same : α → β → Prop} {left : Held α}
    {right : Held β}
    {first : α → Option γ} {second : β → Option γ} (alike : left.Matches same right)
    (answers : ∀ left right, same left right → second right = first left) :
    right.value?.bind second = left.value?.bind first := by
  match left, right, alike with
  | .empty, .empty, _ => rfl
  | .plain _, .plain _, same | .tracked _, .tracked _, same => exact answers _ _ same

/-! ### Answers -/

namespace Status

private theorem ofText_dirty (field : Container String) : (ofText field).dirty = field.dirty := by
  obtain ⟨name, held, dirty, serializable⟩ := field
  cases held <;> rfl

variable {relation : Carrier.Relation Carrier.live Carrier.live}

private theorem ofText_eq {left right : Container String}
    (follows : (Form.container .text).Follows relation left right) :
    (ofText right).dirty = (ofText left).dirty := by
  rw [ofText_dirty, ofText_dirty]
  exact follows.1

private theorem ofContact_eq {data copy : (ObjType.record .contact).Data Carrier.live}
    (follows : (ObjType.record .contact).shape.Follows relation data copy) :
    ofContact copy = ofContact data := by
  obtain ⟨name, -⟩ := follows
  exact congrArg (fun dirty => withSavable
    { dirty := dirty, selfDirty := dirty, child := true, valid := true, selfValid := true })
    (ofText_eq name)

private theorem ofNode_eq {data copy : (ObjType.record .node).Data Carrier.live}
    (follows : (ObjType.record .node).shape.Follows relation data copy) :
    ofNode copy = ofNode data := by
  obtain ⟨name, _, _, _, _, _, _, _, _, _, _, marks, _⟩ := data
  obtain ⟨nameCopy, _, _, _, _, _, _, _, _, _, _, marksCopy, _⟩ := copy
  obtain ⟨label, -, -, -, -, -, -, -, -, -, -, words, -⟩ := follows
  have text : (ofText nameCopy).dirty = (ofText name).dirty := ofText_eq label
  have same : marksCopy = marks := eq_of_forall₂ words
  unfold ofNode
  simp only [text, same]

end Status

private theorem Store.fieldAnswers_of_data? {store : Store} {node : Node}
    {data : node.type.Data Carrier.live} (found : store.data? node.type node.ref = some data)
    (intact : store.isPoisoned node.ref = false) (name : String) :
    store.fieldAnswers node name =
      (node.type.shape.content? name data).bind (FieldContent.answers store) := by
  have read : store.read node.type node.ref = .ok data := by
    unfold Store.read
    rw [intact, found]
    rfl
  have present : store.field? node name = .ok (node.type.shape.content? name data) := by
    unfold field?
    rw [read]
    rfl
  unfold fieldAnswers
  rw [present]
  cases node.type.shape.content? name data <;> rfl

namespace Store.Shadowing

variable {left right : Store} (shadowing : left.Shadowing right) {ref other : Ref}

private theorem ownStatus?_eq {type : RecordType}
    (twin : shadowing.relation.handle (.record type) ref other) :
    right.ownStatus? type other = left.ownStatus? type ref := by
  obtain ⟨data, copy, found, copied, follows⟩ := shadowing.objects _ _ _ twin
  unfold ownStatus?
  cases type with
  | contact => simp only [found, copied, Option.map_some, Status.ofContact_eq follows]
  | node => simp only [found, copied, Option.map_some, Status.ofNode_eq follows]
  | customer | link | gadget | part | marker | scalars => rfl

private theorem ownListStatus?_eq {element : RecordType}
    (twin : shadowing.relation.handle (.list element) ref other) :
    right.ownListStatus? element other = left.ownListStatus? element ref := by
  obtain ⟨items, copies, found, copied, follows⟩ := shadowing.objects _ _ _ twin
  unfold ownListStatus?
  have same : List.filterMap (right.ownStatus? element) copies =
      List.filterMap (left.ownStatus? element) items :=
    filterMap_eq_of_forall₂ follows fun _ _ => shadowing.ownStatus?_eq
  rw [found, copied]
  exact congrArg (fun statuses => if element.tracks then some (Status.ofElements statuses) else none)
    same

private theorem customerStatus_eq {data copy : (ObjType.record .customer).Data Carrier.live}
    (follows : (ObjType.record .customer).shape.Follows shadowing.relation data copy) :
    right.customerStatus copy = left.customerStatus data := by
  obtain ⟨name, _, contacts, _, isNew, counter, _⟩ := data
  obtain ⟨nameCopy, _, contactsCopy, _, isNewCopy, counterCopy, _⟩ := copy
  obtain ⟨named, -, listed, -, begun, loads, -⟩ := follows
  have dirty : (Status.ofText nameCopy).dirty = (Status.ofText name).dirty := Status.ofText_eq named
  have text : Container.value? (α := String) nameCopy = Container.value? (α := String) name :=
    Held.Matches.value?_eq named.2
  have list : Container.status (α := Ref) (right.ownListStatus? .contact) contactsCopy =
      Container.status (α := Ref) (left.ownListStatus? .contact) contacts :=
    Container.status_eq listed.1 listed.2 fun _ _ => shadowing.ownListStatus?_eq
  have counts := shadowing.loads _ _ loads
  cases begun
  unfold customerStatus
  simp only [dirty, text, list, counts]

private theorem recordStatus?_eq {type : RecordType}
    (twin : shadowing.relation.handle (.record type) ref other) :
    right.recordStatus? type other = left.recordStatus? type ref := by
  unfold recordStatus?
  cases type with
  | customer =>
      obtain ⟨data, copy, found, copied, follows⟩ := shadowing.objects _ _ _ twin
      simp only [found, copied, Option.map_some, shadowing.customerStatus_eq follows]
  | contact | link | gadget | part | marker | scalars | node => exact shadowing.ownStatus?_eq twin

private theorem elementsStatus?_eq {element : RecordType}
    (twin : shadowing.relation.handle (.list element) ref other) :
    right.elementsStatus? element other = left.elementsStatus? element ref := by
  obtain ⟨items, copies, found, copied, follows⟩ := shadowing.objects _ _ _ twin
  unfold elementsStatus?
  have same : List.filterMap (right.recordStatus? element) copies =
      List.filterMap (left.recordStatus? element) items :=
    filterMap_eq_of_forall₂ follows fun _ _ => shadowing.recordStatus?_eq
  rw [found, copied]
  exact congrArg (fun statuses => some (Status.ofElements statuses)) same

/-- Objects that look the same answer alike. -/
theorem status?_eq {type : ObjType} (twin : shadowing.relation.handle type ref other) :
    right.status? type other = left.status? type ref := by
  cases type with
  | record type => exact shadowing.recordStatus?_eq twin
  | list element =>
      unfold status?
      simp only [shadowing.elementsStatus?_eq twin]

private theorem value_eq {type : FieldType} {value copy : type.Val Carrier.live.Handle}
    (follows : type.Follows shadowing.relation.handle value copy) :
    type.status? right copy = type.status? left value := by
  unfold FieldType.status?
  rcases follows.liveNode? with ⟨nothing, either⟩ | ⟨target, ref, other, here, there, twin⟩
  · rw [nothing, either]
    rfl
  · rw [here, there]
    exact shadowing.status?_eq twin

private theorem content_eq {form : Form} {value copy : form.Val Carrier.live}
    (follows : form.Follows shadowing.relation value copy) :
    (form.content copy).answers right = (form.content value).answers left := by
  cases form with
  | container type =>
      obtain ⟨dirty, held⟩ := follows
      have answers : ∀ held other, type.Follows shadowing.relation.handle held other →
          type.status? right other = type.status? left held := fun _ _ => shadowing.value_eq
      have status := Container.status_eq dirty held answers
      have below := held.bind_eq answers
      exact congrArg some (Prod.ext below status)
  | bare _ | aside _ | loads | memo => rfl

private theorem contents_eq {members : List Member} {data copy : Members Carrier.live members}
    (follows : Members.Follows shadowing.relation members data copy)
    (name : String) :
    (Members.content? name members copy).bind (FieldContent.answers right) =
      (Members.content? name members data).bind (FieldContent.answers left) := by
  induction members with
  | nil => rfl
  | cons member others ih =>
      obtain ⟨first, rest⟩ := data
      obtain ⟨firstCopy, restCopy⟩ := copy
      rw [Members.content?, Members.content?]
      by_cases same : member.name = name
      · rw [if_pos same, if_pos same]
        exact shadowing.content_eq follows.1
      · rw [if_neg same, if_neg same]
        exact ih follows.2

/-- Containers of objects that look the same answer alike, if the objects can be read. -/
theorem fieldAnswers_eq {type : ObjType} (twin : shadowing.relation.handle type ref other)
    (intact : left.isPoisoned ref = false) (whole : right.isPoisoned other = false) (name : String) :
    right.fieldAnswers ⟨type, other⟩ name = left.fieldAnswers ⟨type, ref⟩ name := by
  obtain ⟨data, copy, found, copied, follows⟩ := shadowing.objects _ _ _ twin
  rw [@fieldAnswers_of_data? left ⟨type, ref⟩ data found intact,
    @fieldAnswers_of_data? right ⟨type, other⟩ copy copied whole]
  match type with
  | .record type => exact shadowing.contents_eq follows name
  | .list element => rfl

end Store.Shadowing

end ObjectCourier
