import Mathlib.Data.Set.Function
import ObjectCourier.Proofs.Graph.Acceptance

/-!
Payloads with other ids and another order of records. Ids are only compared with each other, and
records are only looked up by their ids. So a payload whose ids are renamed one to one and whose
records are put in another order is read as the same objects, but for their ids and their order.
-/

namespace ObjectCourier

def ChildSlot.renamed (rename : RefId → RefId) (slot : ChildSlot) : ChildSlot :=
  { slot with target := rename slot.target }

/-- The record with another id, and with slots that name other ids. -/
def Record.renamed (rename : RefId → RefId) (record : Record) : Record :=
  { record with
    id := rename record.id
    children := record.children.map fun entry => (entry.1, entry.2.renamed rename) }

private theorem Entries.get?_map {α β : Type} (change : α → β) (name : String)
    (entries : Entries α) : Entries.get? name (entries.map fun entry => (entry.1, change entry.2)) =
      (entries.get? name).map change := by
  induction entries with
  | nil => rfl
  | cons entry others ih =>
      rw [List.map_cons]
      unfold get?
      by_cases same : entry.1 = name
      · rw [if_pos same, if_pos same]
        rfl
      · rw [if_neg same, if_neg same]
        exact ih

namespace Record

variable {rename back : RefId → RefId} {record : Record}

private theorem child?_renamed (name : String) :
    (record.renamed rename).child? name = (record.child? name).map (ChildSlot.renamed rename) :=
  Entries.get?_map (ChildSlot.renamed rename) name record.children

/-- The message about a missing value tells the id, but a value that is there does not. -/
theorem require_renamed {name : String} {wire : WireValue}
    (required : record.require name = .ok wire) : (record.renamed rename).require name = .ok wire := by
  unfold require at required ⊢
  have same : (record.renamed rename).value? name = record.value? name := rfl
  rw [same]
  cases found : record.value? name with
  | none =>
      rw [found] at required
      cases required
  | some other =>
      rw [found] at required
      exact required

private theorem renamed_renamed (id : back (rename record.id) = record.id)
    (targets : ∀ entry ∈ record.children, back (rename entry.2.target) = entry.2.target) :
    (record.renamed rename).renamed back = record := by
  have slots : (record.renamed rename).children.map (fun entry => (entry.1, entry.2.renamed back)) =
      record.children := by
    unfold renamed
    rw [List.map_map]
    refine (List.map_congr_left fun entry member => ?_).trans (List.map_id _)
    change (entry.1, { entry.2 with target := back (rename entry.2.target) }) = entry
    rw [targets entry member]
  unfold renamed at slots ⊢
  simp only [slots, id]

end Record

/-- The payload has the ids of the other one under other names, with no two of them under the same,
and its records in any order. -/
structure Payload.Readdressed (rename : RefId → RefId) (payload changed : Payload) : Prop where
  injective : Set.InjOn rename {id | payload.Mentions id}
  root : changed.root = rename payload.root
  records : changed.records.Perm (payload.records.map (Record.renamed rename))

namespace Payload.Readdressed

variable {rename : RefId → RefId} {payload changed : Payload}
  (readdressed : payload.Readdressed rename changed)

include readdressed

private theorem mem_records_iff {record : Record} : record ∈ changed.records ↔
    ∃ origin ∈ payload.records, origin.renamed rename = record := by
  rw [readdressed.records.mem_iff, List.mem_map]

private theorem ids_perm : changed.ids.Perm (payload.ids.map rename) := by
  have ids := readdressed.records.map fun record => record.id
  rw [List.map_map] at ids
  unfold Payload.ids
  rwa [List.map_map]

private theorem exists_of_mentions {id : RefId} (mentions : changed.Mentions id) :
    ∃ origin, payload.Mentions origin ∧ id = rename origin := by
  rcases mentions with rfl | ⟨record, member, inside⟩
  · exact ⟨payload.root, .inl rfl, readdressed.root⟩
  · obtain ⟨origin, present, rfl⟩ := readdressed.mem_records_iff.mp member
    rcases inside with rfl | ⟨entry, within, rfl⟩
    · exact ⟨origin.id, .inr ⟨origin, present, .inl rfl⟩, rfl⟩
    · obtain ⟨slot, here, rfl⟩ := List.mem_map.mp within
      exact ⟨slot.2.target, .inr ⟨origin, present, .inr ⟨slot, here, rfl⟩⟩, rfl⟩

theorem symm : ∃ back, changed.Readdressed back payload := by
  -- Only on the ids that the payload names is the way back an inverse.
  have returns : Set.LeftInvOn (Function.invFunOn rename {id | payload.Mentions id}) rename
      {id | payload.Mentions id} := readdressed.injective.leftInvOn_invFunOn
  refine ⟨Function.invFunOn rename {id | payload.Mentions id}, ?_, ?_, ?_⟩
  · intro left leftMentioned right rightMentioned same
    obtain ⟨first, mentioned, rfl⟩ := readdressed.exists_of_mentions leftMentioned
    obtain ⟨second, also, rfl⟩ := readdressed.exists_of_mentions rightMentioned
    rw [returns mentioned, returns also] at same
    rw [same]
  · rw [readdressed.root]
    exact (returns (.inl rfl)).symm
  · have restored : payload.records.map (Record.renamed (Function.invFunOn rename
        {id | payload.Mentions id}) ∘ Record.renamed rename) = payload.records := by
      refine (List.map_congr_left fun record member => ?_).trans (List.map_id _)
      refine Record.renamed_renamed (returns (.inr ⟨record, member, .inl rfl⟩)) ?_
      exact fun entry inside => returns (.inr ⟨record, member, .inr ⟨entry, inside, rfl⟩⟩)
    have records := readdressed.records.map (Record.renamed (Function.invFunOn rename
      {id | payload.Mentions id}))
    rw [List.map_map, restored] at records
    exact records.symm

theorem closed (closed : payload.Closed) : changed.Closed where
  distinct := by
    refine readdressed.ids_perm.nodup_iff.mpr (closed.distinct.map_on ?_)
    intro left leftMember right rightMember same
    obtain ⟨first, member, rfl⟩ := List.mem_map.mp leftMember
    obtain ⟨second, another, rfl⟩ := List.mem_map.mp rightMember
    exact readdressed.injective (.inr ⟨first, member, .inl rfl⟩) (.inr ⟨second, another, .inl rfl⟩)
      same
  root := by
    rw [readdressed.ids_perm.mem_iff, readdressed.root]
    exact List.mem_map_of_mem closed.root
  slots := by
    intro record member entry inside
    obtain ⟨origin, present, rfl⟩ := readdressed.mem_records_iff.mp member
    obtain ⟨slot, here, rfl⟩ := List.mem_map.mp inside
    rw [readdressed.ids_perm.mem_iff]
    exact List.mem_map_of_mem (closed.slots origin present slot here)

theorem typeOf_eq {registry : Registry} (closed : payload.Closed) {id : RefId} {type : ObjType}
    (known : payload.typeOf registry id = some type) :
    changed.typeOf registry (rename id) = some type := by
  obtain ⟨record, inside, rfl, found⟩ := exists_of_typeOf known
  have renamed := readdressed.mem_records_iff.mpr ⟨record, inside, rfl⟩
  have key : changed.typeOf registry (rename record.id) = registry.type? record.typeKey :=
    (readdressed.closed closed).typeOf_eq renamed
  exact key.trans found

end Payload.Readdressed

inductive Source.Readdressed (rename : RefId → RefId) (typeOf : TypeOf) (type : ObjType) :
    Source type → Source type → Prop where
  | copy (embedded : Embedded type) :
      Readdressed rename typeOf type (.copy embedded) (.copy embedded)
  | record {id : RefId} (known : typeOf id = some type) :
      Readdressed rename typeOf type (.record id) (.record (rename id))

def Carrier.Relation.readdressed (rename : RefId → RefId) (typeOf : TypeOf) :
    Carrier.Relation Carrier.sourced Carrier.sourced where
  handle type := Source.Readdressed rename typeOf type
  loads _ _ := True
  memo _ _ := True

/-- The object has the renamed id, and the same content but for the ids in it. -/
def ObjectPlan.Readdressed (rename : RefId → RefId) (typeOf : TypeOf) (object twin : ObjectPlan) :
    Prop :=
  ∃ data, twin = { id := rename object.id, type := object.type, data := data } ∧
    object.type.shape.Matches (.readdressed rename typeOf) object.data data

section Passes

variable {rename : RefId → RefId} {typeOf other : TypeOf} {record : Record}

private theorem FieldType.sourced_readdressed (type : FieldType) (value : type.Val Embedded) :
    type.Matches (fun type => Source.Readdressed rename typeOf type) (type.sourced value)
      (type.sourced value) := by
  refine (FieldType.Matches.flip (type.sourced_matches value)).comp (type.sourced_matches value) ?_
  rintro type _ copy _ rfl rfl
  exact .copy copy

private theorem FieldType.ofHandle_readdressed {name : String} {target : ObjType} {id : RefId}
    (known : typeOf id = some target) {type : FieldType} {value : type.Val Source}
    (made : type.ofHandle name target (.record id) = .ok value) :
    ∃ twin, type.ofHandle name target (.record (rename id)) = .ok twin ∧
      type.Matches (fun type => Source.Readdressed rename typeOf type) value twin := by
  induction type with
  | handle type =>
      unfold ofHandle at made ⊢
      by_cases same : target = type
      · subst same
        simp only [dif_pos] at made ⊢
        cases made
        exact ⟨_, rfl, .record known⟩
      · rw [dif_neg same] at made
        cases made
  | option type ih =>
      obtain ⟨inner, found, same⟩ := bind_eq_ok.mp made
      cases same
      obtain ⟨twin, foundTwin, alike⟩ := ih found
      exact ⟨some twin, bind_eq_ok.mpr ⟨twin, foundTwin, rfl⟩, alike⟩
  | int kind | float32 | float64 | bool | text | vector type => cases made

def Form.Draft.renamed (rename : RefId → RefId) : (form : Form) → form.Draft → form.Draft
  | .bare type, draft =>
      Sum.map (ChildSlot.renamed rename) id (show ChildSlot ⊕ type.Val Embedded from draft)
  | .container type, draft =>
      Prod.map id (Option.map (ChildSlot.renamed rename))
        (show Container (type.Val Embedded) × Option ChildSlot from draft)
  | .aside _, draft | .loads, draft | .memo, draft => draft

private theorem Record.require_bind_renamed {α : Type} {name : String}
    {next : WireValue → Except Fault α}
    {result : α} (found : (record.require name >>= next) = .ok result) :
    ((record.renamed rename).require name >>= next) = .ok result := by
  obtain ⟨wire, required, read⟩ := bind_eq_ok.mp found
  exact bind_eq_ok.mpr ⟨wire, require_renamed required, read⟩

private theorem Form.draft_renamed {name : String} {form : Form} {draft : form.Draft}
    (drafted : form.draft record name = .ok draft) :
    form.draft (record.renamed rename) name = .ok (Form.Draft.renamed rename form draft) := by
  cases form with
  | bare type =>
      unfold Form.draft at drafted ⊢
      rw [Record.child?_renamed]
      cases child : record.child? name with
      | some slot =>
          rw [child] at drafted
          cases drafted
          rfl
      | none =>
          rw [child] at drafted
          obtain ⟨wire, required, drafted⟩ := bind_eq_ok.mp drafted
          obtain ⟨value, read, same⟩ := bind_eq_ok.mp drafted
          cases same
          refine bind_eq_ok.mpr ⟨wire, Record.require_renamed required, ?_⟩
          exact bind_eq_ok.mpr ⟨value, read, rfl⟩
  | container type =>
      rw [draft_container_eq] at drafted ⊢
      obtain ⟨ownName, named, drafted⟩ := bind_eq_ok.mp drafted
      obtain ⟨dirty, flagged, drafted⟩ := bind_eq_ok.mp drafted
      obtain ⟨serializable, permitted, drafted⟩ := bind_eq_ok.mp drafted
      obtain ⟨held, holds, drafted⟩ := bind_eq_ok.mp drafted
      cases drafted
      refine bind_eq_ok.mpr ⟨ownName, Record.require_bind_renamed named, ?_⟩
      refine bind_eq_ok.mpr ⟨dirty, Record.require_bind_renamed flagged, ?_⟩
      refine bind_eq_ok.mpr ⟨serializable, Record.require_bind_renamed permitted, ?_⟩
      refine bind_eq_ok.mpr ⟨held, holds, ?_⟩
      rw [Record.child?_renamed]
      rfl
  | aside type | loads | memo => exact drafted

def MembersDraft.renamed (rename : RefId → RefId) :
    (members : List Member) → MembersDraft members → MembersDraft members
  | [], draft => draft
  | member :: others, (first, rest) =>
      (Form.Draft.renamed rename member.form first, renamed rename others rest)

private theorem MembersDraft.read_renamed {members : List Member} {draft : MembersDraft members}
    (drafted : MembersDraft.read record members = .ok draft) :
    MembersDraft.read (record.renamed rename) members =
      .ok (MembersDraft.renamed rename members draft) := by
  induction members with
  | nil => rfl
  | cons member others ih =>
      obtain ⟨first, head, drafted⟩ := bind_eq_ok.mp drafted
      obtain ⟨rest, tail, same⟩ := bind_eq_ok.mp drafted
      cases same
      exact bind_eq_ok.mpr ⟨_, Form.draft_renamed head, bind_eq_ok.mpr ⟨_, ih tail, rfl⟩⟩

def Shape.Draft.renamed (rename : RefId → RefId) : (shape : Shape) → shape.Draft → shape.Draft
  | .fields members, draft => MembersDraft.renamed rename members draft
  | .elements _, draft => draft

private theorem Shape.draft_renamed {shape : Shape} {draft : shape.Draft}
    (drafted : shape.draft record = .ok draft) :
    shape.draft (record.renamed rename) = .ok (Shape.Draft.renamed rename shape draft) := by
  cases shape with
  | fields members => exact MembersDraft.read_renamed drafted
  | elements type => exact Record.require_bind_renamed drafted

section Links

variable (knows : ∀ id type, typeOf id = some type → other (rename id) = some type)

include knows

private theorem FieldType.ofSlot_renamed {name : String} {slot : ChildSlot} {type : FieldType}
    {value : type.Val Source} (made : type.ofSlot typeOf name slot = .ok value) :
    ∃ twin, type.ofSlot other name (slot.renamed rename) = .ok twin ∧
      type.Matches (fun type => Source.Readdressed rename typeOf type) value twin := by
  unfold ofSlot at made ⊢
  cases known : typeOf slot.target with
  | none =>
      rw [known] at made
      cases made
  | some target =>
      rw [known] at made
      have renamed : other (slot.renamed rename).target = some target := knows _ _ known
      rw [renamed]
      exact ofHandle_readdressed known made

private theorem Form.link_renamed {name : String} {form : Form} {startable : form.startable = true}
    {draft : form.Draft} {value : form.Val Carrier.sourced}
    (linked : form.link typeOf name startable draft = .ok value) :
    ∃ twin, form.link other name startable (Form.Draft.renamed rename form draft) = .ok twin ∧
      form.Matches (.readdressed rename typeOf) value twin := by
  cases form with
  | bare type =>
      match draft with
      | .inl slot => exact FieldType.ofSlot_renamed knows linked
      | .inr found =>
          cases linked
          exact ⟨_, rfl, type.sourced_readdressed found⟩
  | container type =>
      match draft with
      | (holder, some slot) =>
          obtain ⟨held, made, same⟩ := bind_eq_ok.mp linked
          cases same
          obtain ⟨twin, madeTwin, alike⟩ := FieldType.ofSlot_renamed knows made
          refine ⟨_, bind_eq_ok.mpr ⟨twin, madeTwin, rfl⟩, rfl, ?_, rfl, rfl⟩
          cases type.tracks <;> exact alike
      | (holder, none) =>
          cases linked
          refine ⟨_, rfl, rfl, ?_, rfl, rfl⟩
          match holder with
          | ⟨_, .empty, _, _⟩ => trivial
          | ⟨_, .plain found, _, _⟩ | ⟨_, .tracked found, _, _⟩ =>
              exact type.sourced_readdressed found
  | aside type =>
      cases linked
      exact ⟨_, rfl, type.sourced_readdressed _⟩
  | loads | memo => exact ⟨(), rfl, trivial⟩

private theorem Members.link_renamed {members : List Member} {draft : MembersDraft members}
    {value : Members Carrier.sourced members}
    (linked : Members.link typeOf members draft = .ok value) :
    ∃ twin, Members.link other members (MembersDraft.renamed rename members draft) = .ok twin ∧
      Members.Matches (.readdressed rename typeOf) members value twin := by
  induction members with
  | nil => exact ⟨(), rfl, trivial⟩
  | cons member others ih =>
      obtain ⟨first, rest⟩ := draft
      obtain ⟨head, found, linked⟩ := bind_eq_ok.mp linked
      obtain ⟨tail, foundRest, same⟩ := bind_eq_ok.mp linked
      cases same
      obtain ⟨headTwin, made, alike⟩ := Form.link_renamed knows found
      obtain ⟨tailTwin, madeRest, alikeRest⟩ := ih foundRest
      exact ⟨(headTwin, tailTwin),
        bind_eq_ok.mpr ⟨headTwin, made, bind_eq_ok.mpr ⟨tailTwin, madeRest, rfl⟩⟩, alike, alikeRest⟩

private theorem linkElements_renamed {type : ObjType} {remaining index : Nat}
    {items : List (Source type)}
    (linked : linkElements typeOf record type remaining index = .ok items) :
    ∃ twins, linkElements other (record.renamed rename) type remaining index = .ok twins ∧
      List.Forall₂ (Source.Readdressed rename typeOf type) items twins := by
  induction remaining generalizing index items with
  | zero =>
      cases linked
      exact ⟨[], rfl, .nil⟩
  | succ remaining ih =>
      unfold linkElements at linked ⊢
      simp only [Record.child?_renamed] at linked ⊢
      cases child : record.child? (Record.elementSlot index) with
      | none =>
          rw [child] at linked
          cases linked
      | some slot =>
          rw [child] at linked
          obtain ⟨first, found, linked⟩ := bind_eq_ok.mp linked
          obtain ⟨others, foundRest, same⟩ := bind_eq_ok.mp linked
          cases same
          obtain ⟨twin, made, alike⟩ := FieldType.ofSlot_renamed knows found
          obtain ⟨twins, madeRest, alikeRest⟩ := ih foundRest
          exact ⟨twin :: twins, bind_eq_ok.mpr ⟨twin, made, bind_eq_ok.mpr ⟨twins, madeRest, rfl⟩⟩,
            .cons alike alikeRest⟩

private theorem Shape.link_renamed {shape : Shape} {draft : shape.Draft}
    {value : shape.Data Carrier.sourced} (linked : shape.link typeOf record draft = .ok value) :
    ∃ twin, shape.link other (record.renamed rename) (Shape.Draft.renamed rename shape draft) =
        .ok twin ∧
      shape.Matches (.readdressed rename typeOf) value twin := by
  cases shape with
  | fields members => exact Members.link_renamed knows linked
  | elements type => exact linkElements_renamed knows linked

/-- A renamed record gives the readdressed object. -/
theorem Record.Gives.renamed {registry : Registry} {object : ObjectPlan}
    (gives : record.Gives registry typeOf object) :
    ∃ twin, (record.renamed rename).Gives registry other twin ∧
      object.Readdressed rename typeOf twin := by
  obtain ⟨draft, read, linked⟩ := gives
  obtain ⟨rfl, type, drafted⟩ := RecordDraft.read_eq_ok.mp read
  obtain ⟨data, link, rfl⟩ := RecordDraft.link_eq_ok.mp linked
  obtain ⟨twin, linkTwin, alike⟩ := Shape.link_renamed knows link
  let renamed : RecordDraft :=
    ⟨draft.record.renamed rename, draft.type,
      Shape.Draft.renamed rename draft.type.shape draft.draft⟩
  refine ⟨_, ⟨renamed, ?_, ?_⟩, twin, rfl, alike⟩
  · exact RecordDraft.read_eq_ok.mpr ⟨rfl, type, Shape.draft_renamed drafted⟩
  · exact RecordDraft.link_eq_ok.mpr ⟨twin, linkTwin, rfl⟩

end Links

end Passes

theorem Record.Gives.unique {registry : Registry} {typeOf : TypeOf} {record : Record}
    {object twin : ObjectPlan} (gives : record.Gives registry typeOf object)
    (also : record.Gives registry typeOf twin) : twin = object := by
  obtain ⟨draft, read, linked⟩ := gives
  obtain ⟨other, again, alike⟩ := also
  cases read.symm.trans again
  exact Except.ok.inj (alike.symm.trans linked)

structure GraphPlan.Readdressed (rename : RefId → RefId) (typeOf : TypeOf) (plan twin : GraphPlan) :
    Prop where
  distinct : (plan.objects.map fun object => object.id).Nodup
  twinDistinct : (twin.objects.map fun object => object.id).Nodup
  injective : Set.InjOn rename {id | id ∈ plan.objects.map fun object => object.id}
  known : ∀ id type, typeOf id = some type → ∃ object ∈ plan.objects, object.id = id ∧
    object.type = type
  root : typeOf plan.root = some plan.rootType
  twinRoot : twin.root = rename plan.root
  twinType : twin.rootType = plan.rootType
  objects : ∀ object ∈ plan.objects, ∃ other ∈ twin.objects, object.Readdressed rename typeOf other

namespace Payload.Readdressed

variable {rename : RefId → RefId} {payload changed : Payload}
  (readdressed : payload.Readdressed rename changed) {registry : Registry}

include readdressed

/-- When a payload is read, so is one that is readdressed. -/
theorem exists_read {plan : GraphPlan} (read : GraphPlan.read registry payload = .ok plan) :
    ∃ twin, GraphPlan.read registry changed = .ok twin := by
  obtain ⟨closed, root, rootType, given⟩ := GraphPlan.read_eq_ok.mp read
  have each : ∀ record ∈ changed.records, ∃ object,
      record.Gives registry (changed.typeOf registry) object := by
    intro record member
    obtain ⟨origin, present, rfl⟩ := readdressed.mem_records_iff.mp member
    obtain ⟨object, _, gives⟩ := exists_right_of_forall₂ given present
    obtain ⟨twin, givesTwin, _⟩ := gives.renamed fun _ _ => readdressed.typeOf_eq closed
    exact ⟨twin, givesTwin⟩
  obtain ⟨objects, givenTwins⟩ := exists_forall₂_of_mem each
  refine ⟨⟨changed.root, plan.rootType, objects⟩, GraphPlan.read_eq_ok.mpr ?_⟩
  refine ⟨readdressed.closed closed, rfl, ?_, givenTwins⟩
  rw [readdressed.root]
  exact readdressed.typeOf_eq closed rootType

/-- What a readdressed payload is read as is readdressed. -/
theorem plan {plan twin : GraphPlan} (read : GraphPlan.read registry payload = .ok plan)
    (readTwin : GraphPlan.read registry changed = .ok twin) :
    plan.Readdressed rename (payload.typeOf registry) twin := by
  obtain ⟨closed, root, rootType, given⟩ := GraphPlan.read_eq_ok.mp read
  obtain ⟨twinClosed, twinRoot, twinType, twinGiven⟩ := GraphPlan.read_eq_ok.mp readTwin
  have ids : plan.objects.map (fun object => object.id) = payload.ids :=
    map_eq_of_forall₂ given fun _ _ gives => gives.id_eq
  have twinIds : twin.objects.map (fun object => object.id) = changed.ids :=
    map_eq_of_forall₂ twinGiven fun _ _ gives => gives.id_eq
  refine ⟨ids ▸ closed.distinct, twinIds ▸ twinClosed.distinct, ?_, ?_, ?_, ?_, ?_, ?_⟩
  · refine readdressed.injective.mono fun id member => ?_
    rw [ids] at member
    obtain ⟨record, inside, rfl⟩ := List.mem_map.mp member
    exact .inr ⟨record, inside, .inl rfl⟩
  · intro id type known
    obtain ⟨record, inside, rfl, found⟩ := exists_of_typeOf known
    obtain ⟨object, present, gives⟩ := exists_right_of_forall₂ given inside
    exact ⟨object, present, gives.id_eq, Option.some.inj (gives.type_eq.symm.trans found)⟩
  · rw [root]
    exact rootType
  · rw [twinRoot, readdressed.root, root]
  · rw [readdressed.root, readdressed.typeOf_eq closed rootType] at twinType
    exact (Option.some.inj twinType).symm
  · intro object member
    obtain ⟨record, inside, gives⟩ := exists_left_of_forall₂ given member
    obtain ⟨readdressedObject, givesTwin, alike⟩ :=
      gives.renamed fun _ _ => readdressed.typeOf_eq closed
    obtain ⟨other, present, also⟩ := exists_right_of_forall₂ twinGiven
      (readdressed.mem_records_iff.mpr ⟨record, inside, rfl⟩)
    cases givesTwin.unique also
    exact ⟨_, present, alike⟩

end Payload.Readdressed

end ObjectCourier
