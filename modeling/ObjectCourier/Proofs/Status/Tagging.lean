import ObjectCourier.Proofs.Graph.Cycles
import ObjectCourier.Proofs.Graph.Invariance
import ObjectCourier.Proofs.Status.Tags

/-!
Tags of what is rebuilt. Every field of a record is tagged anew by its type, whatever the payload
says. What is inside a blob is tagged as the blob says, and nothing else in a rebuilt graph is.
-/

namespace ObjectCourier

inductive WireValue.Embeds (typeName : String) (body : Bytes) : WireValue → Prop where
  | here : Embeds typeName body (.embedded typeName body)
  | within {items : List WireValue} {item : WireValue} (member : item ∈ items)
      (below : Embeds typeName body item) : Embeds typeName body (.list items)

/-- The blobs in the wire value are read as copies that are tagged as their types. -/
def WireValue.Tagged (wire : WireValue) : Prop :=
  ∀ type body copy rest, wire.Embeds (FieldType.handle type).typeName body →
    Embedded.decode type body = .ok (copy, rest) → copy.Tagged

theorem WireValue.Tagged.item {items : List WireValue} (tagged : (list items).Tagged)
    {item : WireValue} (member : item ∈ items) : item.Tagged :=
  fun type body copy rest embeds => tagged type body copy rest (.within member embeds)

def Record.Tagged (record : Record) : Prop := ∀ entry ∈ record.values, entry.2.Tagged

theorem Record.Tagged.require {record : Record} {name : String} {wire : WireValue}
    (tagged : record.Tagged) (required : record.require name = .ok wire) : wire.Tagged := by
  unfold Record.require at required
  cases found : record.value? name with
  | none =>
      rw [found] at required
      cases required
  | some other =>
      rw [found] at required
      cases required
      exact tagged _ (Entries.mem_of_get? found)

def Source.Tagged {type : ObjType} : Source type → Prop
  | .copy embedded => embedded.Tagged
  | .record _ => True

namespace FieldType

private theorem ofBlob_tagged {field : String} {type : ObjType} {wire : WireValue}
    {found : Embedded type}
    (tagged : wire.Tagged) (read : (handle type).ofBlob field wire = .ok found) : found.Tagged := by
  obtain ⟨body, copy, rest, rfl, decoded⟩ := (exists_ofBlob_iff field type wire).mp ⟨found, read⟩
  have run : (extract Embedded.decode (handle type)).run body = Embedded.decode type body := rfl
  simp only [ofBlob, if_pos, run, decoded] at read
  cases read
  exact tagged type body found rest .here decoded

private theorem ofWire_tagged {field : String} {type : FieldType} {wire : WireValue}
    {found : type.Val Embedded} (tagged : wire.Tagged) (read : type.ofWire field wire = .ok found) :
    ∀ child ∈ type.handles found, child.2.Tagged := by
  induction type generalizing wire with
  | int _ | float32 | float64 | bool | text => exact nofun
  | option type ih =>
      by_cases nothing : wire = .null
      · subst nothing
        cases read
        exact nofun
      · rw [ofWire_option nothing] at read
        obtain ⟨inner, readInner, same⟩ := bind_eq_ok.mp read
        cases same
        exact ih tagged readInner
  | vector type ih =>
      cases wire with
      | list items =>
          intro child member
          obtain ⟨item, present, below⟩ := List.mem_flatMap.mp member
          obtain ⟨origin, among, readItem⟩ := exists_left_of_forall₂ (mapM_eq_ok.mp read) present
          exact ih (tagged.item among) readItem child below
      | null | bool _ | int _ | uint _ | float _ | text _ | bytes _ | embedded _ _ => cases read
  | handle type =>
      intro child member
      cases List.mem_singleton.mp member
      exact ofBlob_tagged tagged read

private theorem first_tagged (type : FieldType) (startable : type.startable = true) :
    ∀ child ∈ type.handles (type.first startable), child.2.Tagged := by
  cases type with
  | int _ | float32 | float64 | bool | text | option _ | vector _ => exact nofun
  | handle type =>
      cases type with
      | record type => cases startable
      | list element =>
          intro child member
          cases List.mem_singleton.mp member
          exact ⟨trivial, nofun⟩

private theorem sourced_tagged {type : FieldType} {found : type.Val Embedded}
    (tagged : ∀ child ∈ type.handles found, child.2.Tagged) :
    ∀ child ∈ type.handles (type.sourced found), child.2.Tagged := by
  refine (forall_mem_iff_of_forall₂ (handles_paired (type.sourced_matches found)) ?_).mp tagged
  rintro _ _ ⟨rfl⟩
  exact Iff.rfl

private theorem ofHandle_tagged {name : String} {target : ObjType} {id : RefId} {type : FieldType}
    {value : type.Val Source} (made : type.ofHandle name target (.record id) = .ok value) :
    ∀ child ∈ type.handles value, child.2.Tagged := by
  induction type with
  | handle type =>
      unfold ofHandle at made
      by_cases same : target = type
      · subst same
        rw [dif_pos rfl] at made
        cases made
        intro child member
        rw [List.mem_singleton.mp member]
        trivial
      · rw [dif_neg same] at made
        cases made
  | option type ih =>
      obtain ⟨inner, found, same⟩ := bind_eq_ok.mp made
      cases same
      exact ih found
  | int _ | float32 | float64 | bool | text | vector _ => cases made

private theorem ofSlot_tagged {typeOf : TypeOf} {name : String} {slot : ChildSlot}
    {type : FieldType} {value : type.Val Source} (made : type.ofSlot typeOf name slot = .ok value) :
    ∀ child ∈ type.handles value, child.2.Tagged := by
  unfold ofSlot at made
  cases known : typeOf slot.target with
  | none =>
      rw [known] at made
      cases made
  | some target =>
      rw [known] at made
      exact ofHandle_tagged made

end FieldType

section Links

variable {record : Record} {typeOf : TypeOf} {name : String}

private theorem Form.handles_container {source : Carrier} {type : FieldType}
    {holder : Container (type.Val source.Handle)}
    {good : (type : ObjType) × source.Handle type → Prop}
    (within : ∀ value, holder.value? = some value → ∀ child ∈ type.handles value, good child) :
    ∀ child ∈ (Form.container type).handles holder, good child := by
  intro child member
  obtain ⟨name, held, dirty, serializable⟩ := holder
  cases held with
  | empty => cases member
  | plain value | tracked value => exact within value rfl child member

private theorem Form.link_tagged {form : Form} {startable : form.startable = true}
    {draft : form.Draft}
    {value : form.Val Carrier.sourced} (drafted : form.draft record name = .ok draft)
    (linked : form.link typeOf name startable draft = .ok value) :
    form.Containers Container.Fits value ∧
      (record.Tagged → ∀ child ∈ form.handles value, child.2.Tagged) := by
  cases form with
  | bare type =>
      refine ⟨trivial, fun tagged => ?_⟩
      match draft with
      | .inl slot => exact FieldType.ofSlot_tagged linked
      | .inr found =>
          cases linked
          apply FieldType.sourced_tagged
          unfold Form.draft at drafted
          cases child : record.child? name with
          | some slot =>
              rw [child] at drafted
              cases drafted
          | none =>
              rw [child] at drafted
              obtain ⟨wire, required, drafted⟩ := bind_eq_ok.mp drafted
              obtain ⟨value, read, same⟩ := bind_eq_ok.mp drafted
              cases same
              exact FieldType.ofWire_tagged (tagged.require required) read
  | container type =>
      rw [draft_container_eq] at drafted
      obtain ⟨ownName, -, drafted⟩ := bind_eq_ok.mp drafted
      obtain ⟨dirty, -, drafted⟩ := bind_eq_ok.mp drafted
      obtain ⟨serializable, -, drafted⟩ := bind_eq_ok.mp drafted
      obtain ⟨held, holds, drafted⟩ := bind_eq_ok.mp drafted
      cases drafted
      cases child : record.child? name with
      | some slot =>
          rw [child] at linked
          obtain ⟨value, made, same⟩ := bind_eq_ok.mp linked
          cases same
          refine ⟨Held.tagged_wrap _ _, fun _ => handles_container fun other full => ?_⟩
          cases (Held.value?_wrap _ _).symm.trans full
          exact FieldType.ofSlot_tagged made
      | none =>
          rw [child] at linked
          cases linked
          unfold FieldType.held at holds
          cases present : record.value? name with
          | none =>
              rw [present] at holds
              cases holds
              exact ⟨trivial, fun _ => nofun⟩
          | some wire =>
              rw [present] at holds
              obtain ⟨found, read, same⟩ := map_eq_ok.mp holds
              have brought : record.Tagged →
                  ∀ child ∈ type.handles (type.sourced found), child.2.Tagged := fun tagged =>
                FieldType.sourced_tagged
                  (FieldType.ofWire_tagged (tagged _ (Entries.mem_of_get? present)) read)
              cases tracks : type.tracks with
              | false =>
                  rw [tracks] at same
                  subst same
                  exact ⟨tracks, brought⟩
              | true =>
                  rw [tracks] at same
                  subst same
                  exact ⟨tracks, brought⟩
  | aside type =>
      cases linked
      exact ⟨trivial, fun _ => FieldType.sourced_tagged (type.first_tagged startable)⟩
  | loads | memo => exact ⟨trivial, fun _ => nofun⟩

private theorem Members.link_tagged {members : List Member} {draft : MembersDraft members}
    {value : Members Carrier.sourced members} (drafted : MembersDraft.read record members = .ok draft)
    (linked : Members.link typeOf members draft = .ok value) :
    Members.Containers Container.Fits members value ∧
      (record.Tagged → ∀ child ∈ Members.handles members value, child.2.Tagged) := by
  induction members with
  | nil => exact ⟨trivial, fun _ => nofun⟩
  | cons member others ih =>
      obtain ⟨first, drafts, drafted⟩ := bind_eq_ok.mp drafted
      obtain ⟨rest, read, same⟩ := bind_eq_ok.mp drafted
      cases same
      obtain ⟨head, link, linked⟩ := bind_eq_ok.mp linked
      obtain ⟨tail, linkRest, same⟩ := bind_eq_ok.mp linked
      cases same
      obtain ⟨fits, brought⟩ := Form.link_tagged drafts link
      obtain ⟨fitRest, broughtRest⟩ := ih read linkRest
      refine ⟨⟨fits, fitRest⟩, fun tagged child below => ?_⟩
      rcases List.mem_append.mp below with here | later
      · exact brought tagged child here
      · exact broughtRest tagged child later

private theorem linkElements_tagged {type : ObjType} {remaining index : Nat}
    {items : List (Source type)}
    (linked : linkElements typeOf record type remaining index = .ok items) :
    ∀ item ∈ items, item.Tagged := by
  induction remaining generalizing index items with
  | zero =>
      cases linked
      exact nofun
  | succ remaining ih =>
      unfold linkElements at linked
      cases child : record.child? (Record.elementSlot index) with
      | none =>
          simp only [child] at linked
          cases linked
      | some slot =>
          simp only [child] at linked
          obtain ⟨first, found, linked⟩ := bind_eq_ok.mp linked
          obtain ⟨others, foundRest, same⟩ := bind_eq_ok.mp linked
          cases same
          have head := FieldType.ofSlot_tagged found ⟨type, first⟩ (List.mem_singleton_self _)
          exact List.forall_mem_cons.mpr ⟨head, ih foundRest⟩

private theorem Shape.link_tagged {shape : Shape} {draft : shape.Draft}
    {data : shape.Data Carrier.sourced} (drafted : shape.draft record = .ok draft)
    (linked : shape.link typeOf record draft = .ok data) :
    shape.Tagged data ∧ (record.Tagged → ∀ child ∈ shape.handles data, child.2.Tagged) := by
  cases shape with
  | fields members => exact Members.link_tagged drafted linked
  | elements type =>
      refine ⟨trivial, fun _ child below => ?_⟩
      obtain ⟨item, present, rfl⟩ := List.mem_map.mp below
      exact linkElements_tagged linked item present

/-- The containers of a record's object are tagged as their types, and what comes of its blobs is if
the blobs are. -/
theorem Record.Gives.tagged {registry : Registry} {object : ObjectPlan}
    (gives : record.Gives registry typeOf object) :
    object.type.shape.Tagged object.data ∧
      (record.Tagged → ∀ child ∈ object.type.shape.handles object.data, child.2.Tagged) := by
  obtain ⟨draft, read, linked⟩ := gives
  obtain ⟨rfl, -, drafted⟩ := RecordDraft.read_eq_ok.mp read
  obtain ⟨data, link, rfl⟩ := RecordDraft.link_eq_ok.mp linked
  exact Shape.link_tagged drafted link

end Links

def Store.TaggedAt (store : Store) (node : Node) : Prop :=
  ∀ data, store.data? node.type node.ref = some data → node.type.shape.Tagged data

/-- An object with a tagged tree below is tagged and leads to objects with tagged trees. -/
theorem Store.Unfolds.tagged {store : Store} {depth : Nat} {type : ObjType} {ref : Ref}
    {tree : Tree depth type} (unfolds : store.Unfolds depth type ref tree)
    (tagged : Tree.Tagged depth type tree) :
    store.TaggedAt ⟨type, ref⟩ ∧ ∀ child ∈ store.held ⟨type, ref⟩,
      ∃ depth tree, store.Unfolds depth child.type child.ref tree ∧
        Tree.Tagged depth child.type tree := by
  match depth with
  | 0 => exact tree.elim
  | depth + 1 =>
      obtain ⟨-, data, found, alike⟩ := unfolds
      constructor
      · intro other another
        cases found.symm.trans another
        exact alike.tagged_iff.mpr tagged.1
      · intro child member
        rw [@held_eq store ⟨type, ref⟩ data found] at member
        obtain ⟨item, below, rfl⟩ := List.mem_map.mp member
        obtain ⟨subtree, present, ⟨related⟩⟩ :=
          exists_right_of_forall₂ (Shape.handles_paired alike) below
        exact ⟨depth, _, related, tagged.2 _ present⟩

section Building

variable {plan : GraphPlan} {before after : Store} {root : Node}

private theorem GraphPlan.exists_base (built : plan.build before = (root, after)) :
    ∃ between : Store, between.Extends after ∧
      after.cells.size = between.cells.size + plan.objects.length ∧
      between.cells.size ≤ root.ref.index ∧
      ∀ ref cell, after.cell? ref = some cell → between.cells.size ≤ ref.index →
        ∃ object ∈ plan.objects, ∃ data, cell = { type := object.type, data := data } ∧
          object.type.shape.Matches (.built (plan.place between.cells.size) before between)
            object.data data := by
  rcases ran : plan.objects.mapM ObjectPlan.plantCopies before with ⟨objects, between⟩
  obtain ⟨-, begun⟩ := ObjectPlan.mapM_plantCopies ran
  cases (plan.build_eq ran).symm.trans built
  refine ⟨between, Store.extends_add _ _, ?_, Nat.le_add_right _ _, fun ref cell present above => ?_⟩
  · simp only [Store.add, Array.size_append, List.size_toArray, List.length_map, begun.length_eq]
  · obtain ⟨halfway, among, rfl⟩ := List.mem_map.mp (Store.mem_of_cell?_add above present)
    obtain ⟨object, member, started⟩ := exists_left_of_forall₂ begun among
    obtain ⟨data, same, alike⟩ := started.cell (plan.place between.cells.size)
    exact ⟨object, member, data, same, alike⟩

variable (tagged : ∀ object ∈ plan.objects, object.type.shape.Tagged object.data)

include tagged

private theorem GraphPlan.build_records (built : plan.build before = (root, after)) {ref : Ref}
    {cell : Cell} (present : after.cell? ref = some cell)
    (last : after.cells.size ≤ ref.index + plan.objects.length) :
    cell.type.shape.Tagged cell.data := by
  obtain ⟨between, -, size, -, cells⟩ := GraphPlan.exists_base built
  obtain ⟨object, member, data, rfl, alike⟩ := cells ref cell present (by omega)
  exact alike.tagged_iff.mp (tagged object member)

/-- When the copies are tagged as their types, so is everything below the root. -/
theorem GraphPlan.build_tagged (built : plan.build before = (root, after))
    (copies : ∀ object ∈ plan.objects, ∀ child ∈ object.type.shape.handles object.data,
      child.2.Tagged) {node : Node} (reaches : Reaches after.held root node) :
    after.TaggedAt node := by
  obtain ⟨between, extension, size, above, cells⟩ := GraphPlan.exists_base built
  -- An object below the root is that of a record or a part of a copy.
  have sound : between.cells.size ≤ node.ref.index ∨
      ∃ depth tree, after.Unfolds depth node.type node.ref tree ∧
        Tree.Tagged depth node.type tree := by
    induction reaches with
    | here => exact .inl above
    | @step parent child _ member ih =>
        rcases ih with made | ⟨depth, tree, unfolds, taggedTree⟩
        · unfold Store.held at member
          cases present : after.cell? parent.ref with
          | none =>
              rw [present] at member
              cases member
          | some cell =>
              rw [present] at member
              obtain ⟨object, planned, data, rfl, alike⟩ := cells _ cell present made
              obtain ⟨item, below, rfl⟩ := List.mem_map.mp member
              obtain ⟨⟨type, source⟩, present, ⟨related⟩⟩ :=
                exists_left_of_forall₂ (Shape.handles_paired alike) below
              cases source with
              | copy copy =>
                  exact .inr ⟨_, _, related.2.grow extension, copies object planned _ present⟩
              | record id =>
                  cases related
                  exact .inl (Nat.le_add_right _ _)
        · exact .inr ((unfolds.tagged taggedTree).2 child member)
  rcases sound with made | ⟨depth, tree, unfolds, taggedTree⟩
  · intro data found
    obtain ⟨poisoned, present⟩ := Store.data?_eq_some.mp found
    exact GraphPlan.build_records tagged built present (by omega)
  · exact (unfolds.tagged taggedTree).1

end Building

/-- Where the tags of containers come from. -/
structure Formatter.Tags (formatter : Formatter) : Prop where
  /-- Operations tag a container as its type. -/
  made : ∀ (type : FieldType) (container : Container (type.Val Carrier.live.Handle)),
    container.Made type.tracks → container.held.Tagged type.tracks
  /-- A container that is tagged as its type answers with its value when the value has a status. -/
  answers : ∀ (store : Store) (type : FieldType) (container : Container (type.Val Carrier.live.Handle)),
    container.held.Tagged type.tracks →
      container.status (type.status? store) =
        ((container.value?.bind (type.status? store)).map
          fun answer => { answer with savable := true }).getD container.ownStatus
  /-- The objects of the records are the last ones that are made of a payload. They are tagged as
  their types, whatever the payload. -/
  recorded : ∀ payload world copy (after : World),
    formatter.deserialize payload world = (.ok copy, after) → ∀ ref cell,
      after.store.cell? ref = some cell →
        after.store.cells.size ≤ ref.index + payload.records.length →
          cell.type.shape.Tagged cell.data
  /-- So is everything else in the graph when the blobs of the payload are. -/
  rebuilt : ∀ payload world copy (after : World),
    formatter.deserialize payload world = (.ok copy, after) →
      (∀ record ∈ payload.records, record.Tagged) →
        ∀ node, Reaches after.store.held copy node → after.store.TaggedAt node
  /-- A blob is read with the tags that it was written with. -/
  decoded : ∀ (type : ObjType) (copy : Embedded type) (rest : Bytes), type.compact = true →
    copy.encode.length < Bytes.limit →
      ∃ found, Embedded.decode type (copy.encode ++ rest) = .ok (found, rest) ∧
        (found.Tagged ↔ copy.Tagged)

/-- Containers are tagged as their types, but for those in a blob that says otherwise. -/
theorem Formatter.tags_of_types (formatter : Formatter) : formatter.Tags where
  made _ _ made := made.tagged
  answers _ _ _ tagged := Container.status_of_tagged tagged
  recorded payload world copy after ran ref cell present last := by
    obtain ⟨plan, read, built⟩ := exists_plan_of_deserialize ran
    obtain ⟨-, -, -, given⟩ := GraphPlan.read_eq_ok.mp read
    rw [given.length_eq] at last
    refine GraphPlan.build_records (fun object member => ?_) built present last
    obtain ⟨record, -, gives⟩ := exists_left_of_forall₂ given member
    exact gives.tagged.1
  rebuilt payload world copy after ran blobs node reaches := by
    obtain ⟨plan, read, built⟩ := exists_plan_of_deserialize ran
    obtain ⟨-, -, -, given⟩ := GraphPlan.read_eq_ok.mp read
    refine GraphPlan.build_tagged (fun object member => ?_) built (fun object member => ?_) reaches
    · obtain ⟨record, -, gives⟩ := exists_left_of_forall₂ given member
      exact gives.tagged.1
    · obtain ⟨record, among, gives⟩ := exists_left_of_forall₂ given member
      exact gives.tagged.2 (blobs record among)
  decoded type copy rest compact fits := by
    obtain ⟨found, read, same⟩ := Embedded.reads_encode compact copy fits rest
    exact ⟨found, read, same.tagged_iff.symm⟩

/-- The blob of a customer with one dirty contact, whose list of contacts is tagged as if it had no
status. -/
def Bytes.mistagged : Bytes :=
  [0, 1, 1, 0x41, 0, 1,
   0, 0, 0, 0, 0, 0, 0, 0,
   0, 1, 1, 0, 1, 1, 0x62, 1, 1, 0, 0, 1,
   0, 0]

/-- The list is dirty, and the container that it is read into answers that it is not. -/
theorem FieldType.reads_mistagged : ∃ found customer store,
    (handle (.record .customer)).ofBlob "f"
      (.embedded (handle (.record .customer)).typeName Bytes.mistagged) = .ok found ∧
    (handle (.record .customer)).plant found default = (customer, store) ∧
    store.fieldAnswers ⟨.record .customer, customer⟩ "contacts" =
      some (some { dirty := true, valid := true, selfValid := true, savable := true },
        { valid := true, selfValid := true, savable := true }) := by
  have answers : ((handle (.record .customer)).ofBlob "f"
      (.embedded (handle (.record .customer)).typeName Bytes.mistagged)).toOption.bind
        (fun found =>
          let planted := (handle (.record .customer)).plant found default
          planted.2.fieldAnswers ⟨.record .customer, planted.1⟩ "contacts") =
      some (some { dirty := true, valid := true, selfValid := true, savable := true },
        { valid := true, selfValid := true, savable := true }) := by
    decide +kernel
  cases read : (handle (.record .customer)).ofBlob "f"
      (.embedded (handle (.record .customer)).typeName Bytes.mistagged) with
  | error fault =>
      rw [read] at answers
      cases answers
  | ok found =>
      rw [read] at answers
      exact ⟨found, _, _, rfl, rfl, answers⟩

end ObjectCourier
