import ObjectCourier.Object.Tree
import ObjectCourier.Proofs.Codec.Numbers
import ObjectCourier.Proofs.Object.Matching

/-!
Copies by value as bytes. Trees that are the same but for the bounds on their levels have the same
bytes, and from the bytes of a tree the same tree is read back. The bytes are enough to bound the
levels because a handle never comes first in a record.
-/

namespace ObjectCourier

open Decoder

variable {Handle Other : ObjType → Type}

def Carrier.Relation.copies (same : (type : ObjType) → Handle type → Other type → Prop) :
    Carrier.Relation (.byValue Handle) (.byValue Other) where
  handle := same
  loads _ _ := True
  memo _ _ := True

/-- The trees are the same, whatever bounds their levels. -/
def Tree.Same : (left right : Nat) → (type : ObjType) → Tree left type → Tree right type → Prop
  | left + 1, right + 1, type, tree, other =>
      type.shape.Matches (.copies (Same left right)) tree other
  | _, _, _, _, _ => False

def Embedded.Same (type : ObjType) (left right : Embedded type) : Prop :=
  Tree.Same left.depth right.depth type left.tree right.tree

theorem Tree.elim {type : ObjType} {goal : Prop} (tree : Tree 0 type) : goal :=
  Empty.elim tree

private theorem counted_eq_of_forall₂ {α β : Type} {same : α → β → Prop} {write : α → Bytes}
    {rewrite : β → Bytes} {left : List α} {right : List β} (alike : List.Forall₂ same left right)
    (agree : ∀ left right, same left right → write left = rewrite right) :
    Varint.encode left.length ++ left.flatMap write =
      Varint.encode right.length ++ right.flatMap rewrite := by
  have bodies : left.flatMap write = right.flatMap rewrite := by
    induction alike with
    | nil => rfl
    | cons head _ ih => rw [List.flatMap_cons, List.flatMap_cons, agree _ _ head, ih]
  rw [alike.length_eq, bodies]

section Agreement

variable {same : (type : ObjType) → Handle type → Other type → Prop}
  {write : (type : ObjType) → Handle type → Bytes} {rewrite : (type : ObjType) → Other type → Bytes}
  (agree : ∀ type left right, same type left right → write type left = rewrite type right)

include agree

private theorem FieldType.embed_eq {type : FieldType} {left : type.Val Handle}
    {right : type.Val Other}
    (alike : type.Matches same left right) : type.embed write left = type.embed rewrite right := by
  induction type with
  | int kind | float32 | float64 | bool | text =>
      have same : left = right := alike
      rw [same]
      rfl
  | option type ih =>
      match left, right, alike with
      | none, none, _ => rfl
      | some _, some _, alike => exact congrArg (List.cons 1) (ih alike)
  | vector type ih =>
      have pairs : List.Forall₂ (type.Matches same) left right := alike
      exact counted_eq_of_forall₂ pairs fun _ _ => ih
  | handle type => exact agree type left right alike

private theorem Form.embed_eq {form : Form} {left : form.Val (.byValue Handle)}
    {right : form.Val (.byValue Other)} (alike : form.Matches (.copies same) left right) :
    form.embed write left = form.embed rewrite right := by
  cases form with
  | bare type | aside type => exact FieldType.embed_eq agree alike
  | container type =>
      obtain ⟨name, held, dirty, serializable⟩ := left
      obtain ⟨otherName, other, otherDirty, otherSerializable⟩ := right
      obtain ⟨rfl, sameHeld, rfl, rfl⟩ := alike
      have body : held.embed (type.embed write) = other.embed (type.embed rewrite) := by
        match held, other, sameHeld with
        | .empty, .empty, _ => rfl
        | .plain _, .plain _, alike =>
            exact congrArg (List.cons 1) (FieldType.embed_eq agree alike)
        | .tracked _, .tracked _, alike =>
            exact congrArg (List.cons 2) (FieldType.embed_eq agree alike)
      simp only [embed, Container.embed, body]
  | loads | memo => rfl

private theorem Members.embed_eq {members : List Member} {left : Members (.byValue Handle) members}
    {right : Members (.byValue Other) members}
    (alike : Members.Matches (.copies same) members left right) :
    Members.embed write members left = Members.embed rewrite members right := by
  induction members with
  | nil => rfl
  | cons member others ih =>
      exact congrArg₂ List.append (Form.embed_eq agree alike.1) (ih alike.2)

private theorem Shape.embed_eq {shape : Shape} {left : shape.Data (.byValue Handle)}
    {right : shape.Data (.byValue Other)} (alike : shape.Matches (.copies same) left right) :
    shape.embed write left = shape.embed rewrite right := by
  cases shape with
  | fields members => exact Members.embed_eq agree alike
  | elements type => exact counted_eq_of_forall₂ alike (agree type)

end Agreement

theorem Tree.Same.encode_eq {left right : Nat} {type : ObjType} {tree : Tree left type}
    {other : Tree right type} (alike : Same left right type tree other) :
    tree.encode left type = other.encode right type := by
  induction left generalizing right type with
  | zero => exact tree.elim
  | succ left ih =>
      match right with
      | 0 => exact other.elim
      | right + 1 =>
          have agree : ∀ type tree other, Same left right type tree other →
              tree.encode left type = other.encode right type := fun _ _ _ => ih
          exact Shape.embed_eq agree alike

/-- Every handle in a value of the type leads to an admitted type. -/
def FieldType.confined (admits : ObjType → Bool) : FieldType → Bool
  | handle type => admits type
  | option type | vector type => confined admits type
  | int _ | float32 | float64 | bool | text => true

def Form.confined (admits : ObjType → Bool) : Form → Bool
  | bare type | container type | aside type => type.confined admits
  | loads | memo => true

def ObjType.visible : ObjType → Bool
  | record .marker => false
  | record _ | list _ => true

def Form.leading : Form → Bool
  | bare type => match type with
    | .int _ | .text => true
    | _ => false
  | container _ => true
  | aside _ | loads | memo => false

def ObjType.countable : ObjType → Bool
  | record _ => true
  | list element => (record element).visible

/-- The types whose copies are read back: they can be seen and so can their elements. -/
def ObjType.compact (type : ObjType) : Bool := type.visible && type.countable

private theorem RecordType.members_confined {type : RecordType} (present : type ≠ .marker) :
    ∃ first others, type.members = first :: others ∧ first.form.leading = true ∧
      first.form.confined (fun _ => false) = true ∧
      ∀ member ∈ others, member.form.confined ObjType.compact = true := by
  cases type with
  | marker => exact absurd rfl present
  | customer | contact | link | gadget | part | scalars | node => exact ⟨_, _, rfl, by decide⟩

section Reading

variable {write : (type : ObjType) → Handle type → Bytes}
  {read : (type : ObjType) → Decoder (Other type)}
  {same : (type : ObjType) → Handle type → Other type → Prop} {admits : ObjType → Bool}
  {limit : Nat} (visible : ∀ type value, admits type = true → 0 < (write type value).length)

include visible in
private theorem FieldType.embed_visible (type : FieldType) (confined : type.confined admits = true)
    (value : type.Val Handle) : 0 < (type.embed write value).length := by
  induction type with
  | int kind => exact kind.codec_visible value
  | float32 => exact Nat.lt_of_lt_of_eq (by decide) (Bytes.length_little 4 _).symm
  | float64 => exact Codec.binary64_visible value
  | bool => exact Codec.bool_visible value
  | text => exact Codec.text_visible value
  | option type ih =>
      match value with
      | none => exact Nat.one_pos
      | some inner => exact Nat.succ_pos _
  | vector type ih =>
      exact Nat.lt_of_lt_of_le (Varint.encode_length_pos _)
        (List.length_append ▸ Nat.le_add_right _ _)
  | handle type => exact visible type value confined

variable (bounded : limit < Bytes.limit)
  (reads : ∀ type value, admits type = true → (write type value).length ≤ limit →
    ∃ found, (read type).Reads (write type value) found ∧ same type value found)

theorem reads_times_related {α β : Type} (item : Decoder β) {write : α → Bytes}
    {related : α → β → Prop} (values : List α)
    (each : ∀ value ∈ values, ∃ found, item.Reads (write value) found ∧ related value found) :
    ∃ found, (item.times values.length).Reads (values.flatMap write) found ∧
      List.Forall₂ related values found := by
  induction values with
  | nil => exact ⟨[], Reads.pure [], List.Forall₂.nil⟩
  | cons first others ih =>
      obtain ⟨head, readsHead, sameHead⟩ := each first List.mem_cons_self
      obtain ⟨tail, readsTail, sameTail⟩ :=
        ih fun value member => each value (List.mem_cons_of_mem _ member)
      exact ⟨head :: tail, readsHead.bind (readsTail.map (fun others => head :: others)),
        List.Forall₂.cons sameHead sameTail⟩

private theorem reads_counted {α β : Type} {item : Decoder β} {write : α → Bytes}
    {related : α → β → Prop} {limit : Nat} (bounded : limit < Bytes.limit)
    (visible : ∀ value, 0 < (write value).length) (values : List α)
    (fits : (Varint.encode values.length ++ values.flatMap write).length ≤ limit + 1)
    (each : ∀ value, (write value).length ≤ limit →
      ∃ found, item.Reads (write value) found ∧ related value found) :
    ∃ found, Decoder.Reads (do
        let count ← Varint.decode 8
        item.times count) (Varint.encode values.length ++ values.flatMap write) found ∧
      List.Forall₂ related values found := by
  simp only [List.length_append] at fits
  have one := Varint.encode_length_pos values.length
  have count := Codec.length_le_flatMap write visible values
  obtain ⟨found, readsItems, alike⟩ := reads_times_related item values
    fun value member => each value (by
      have within := Codec.length_le_flatMap_of_mem write member
      omega)
  exact ⟨found, (Varint.reads_size (by omega)).bind readsItems, alike⟩

include visible bounded reads

private theorem FieldType.reads_embed {type : FieldType} (confined : type.confined admits = true)
    (value : type.Val Handle) (fits : (type.embed write value).length ≤ limit) :
    ∃ found, (type.extract read).Reads (type.embed write value) found ∧
      type.Matches same value found := by
  induction type with
  | int kind => exact ⟨value, kind.codec_faithful value (Nat.lt_of_le_of_lt fits bounded), rfl⟩
  | float32 =>
      exact ⟨value, Codec.binary32_faithful value (Nat.lt_of_le_of_lt fits bounded), rfl⟩
  | float64 =>
      exact ⟨value, Codec.binary64_faithful value (Nat.lt_of_le_of_lt fits bounded), rfl⟩
  | bool => exact ⟨value, Codec.bool_faithful value (Nat.lt_of_le_of_lt fits bounded), rfl⟩
  | text => exact ⟨value, Codec.text_faithful value (Nat.lt_of_le_of_lt fits bounded), rfl⟩
  | option type ih =>
      match value with
      | none => exact ⟨none, (reads_byte 0).bind (Reads.pure none), trivial⟩
      | some inner =>
          obtain ⟨found, readsInner, alike⟩ :=
            ih confined inner (Nat.le_of_succ_le fits)
          exact ⟨some found, (reads_byte 1).bind (readsInner.map some), alike⟩
  | vector type ih =>
      have visibleItems := FieldType.embed_visible visible type confined
      exact reads_counted (α := type.Val Handle) bounded visibleItems value (Nat.le_succ_of_le fits)
        (ih confined)
  | handle type => exact reads type value confined fits

private theorem Held.reads_embed {type : FieldType} (confined : type.confined admits = true)
    (held : Held (type.Val Handle)) (fits : (held.embed (type.embed write)).length ≤ limit) :
    ∃ found, (Held.extract (type.extract read)).Reads (held.embed (type.embed write)) found ∧
      held.Matches (type.Matches same) found := by
  cases held with
  | empty =>
      exact ⟨.empty, (Varint.reads_case 4 0 (by decide)).bind (Reads.pure Held.empty),
        trivial⟩
  | plain value =>
      obtain ⟨found, readsValue, alike⟩ := FieldType.reads_embed visible bounded reads confined value
        (Nat.le_of_succ_le fits)
      exact ⟨.plain found, (Varint.reads_case 4 1 (by decide)).bind
        (readsValue.map Held.plain), alike⟩
  | tracked value =>
      obtain ⟨found, readsValue, alike⟩ := FieldType.reads_embed visible bounded reads confined value
        (Nat.le_of_succ_le fits)
      exact ⟨.tracked found, (Varint.reads_case 4 2 (by decide)).bind
        (readsValue.map Held.tracked), alike⟩

private theorem Container.reads_embed {type : FieldType} (confined : type.confined admits = true)
    (container : Container (type.Val Handle))
    (fits : (container.embed (type.embed write)).length ≤ limit) :
    ∃ found, (Container.extract (type.extract read)).Reads
        (container.embed (type.embed write)) found ∧
      container.Matches (type.Matches same) found := by
  simp only [embed, List.length_append] at fits
  have name := Codec.text_faithful container.name (by omega)
  obtain ⟨held, readsHeld, alike⟩ := Held.reads_embed visible bounded reads confined container.held
    (by omega)
  have dirty := Codec.bool_faithful container.dirty (by omega)
  have serializable := Codec.bool_faithful container.serializable (by omega)
  refine ⟨{ name := container.name, held := held, dirty := container.dirty
            serializable := container.serializable }, ?_, ⟨rfl, alike, rfl, rfl⟩⟩
  simp only [embed, List.append_assoc]
  refine name.bind (readsHeld.bind (dirty.bind ?_))
  exact serializable.map (fun serializable =>
    ({ name := container.name, held := held, dirty := container.dirty
       serializable := serializable } : Container (type.Val Other)))

private theorem Form.reads_embed {form : Form} (confined : form.confined admits = true)
    (value : form.Val (.byValue Handle)) (fits : (form.embed write value).length ≤ limit) :
    ∃ found, (form.extract read).Reads (form.embed write value) found ∧
      form.Matches (.copies same) value found := by
  cases form with
  | bare type | aside type =>
      exact FieldType.reads_embed visible bounded reads confined value fits
  | container type => exact Container.reads_embed visible bounded reads confined value fits
  | loads | memo => exact ⟨(), Reads.pure (), trivial⟩

private theorem Members.reads_embed {members : List Member}
    (confined : ∀ member ∈ members, member.form.confined admits = true)
    (value : Members (.byValue Handle) members)
    (fits : (Members.embed write members value).length ≤ limit) :
    ∃ found, (Members.extract read members).Reads (Members.embed write members value) found ∧
      Members.Matches (.copies same) members value found := by
  induction members with
  | nil => exact ⟨(), Reads.pure (), trivial⟩
  | cons member others ih =>
      obtain ⟨first, rest⟩ := value
      simp only [embed, List.length_append] at fits
      obtain ⟨head, readsHead, sameHead⟩ := Form.reads_embed visible bounded reads
        (confined member List.mem_cons_self) first (by omega)
      obtain ⟨tail, readsTail, sameTail⟩ :=
        ih (fun member later => confined member (List.mem_cons_of_mem _ later)) rest (by omega)
      exact ⟨(head, tail), readsHead.bind (readsTail.map (fun rest => (head, rest))),
        sameHead, sameTail⟩

end Reading

private theorem Container.embed_visible {α : Type} (write : α → Bytes) (container : Container α) :
    0 < (container.embed write).length := by
  have one := Codec.text_visible container.name
  simp only [embed, List.length_append]
  omega

private theorem Form.embed_leading {form : Form} (leading : form.leading = true)
    (write : (type : ObjType) → Handle type → Bytes) (value : form.Val (.byValue Handle)) :
    0 < (form.embed write value).length := by
  cases form with
  | bare type =>
      cases type with
      | int kind => exact kind.codec_visible value
      | text => exact Codec.text_visible value
      | float32 | float64 | bool | option _ | vector _ | handle _ => cases leading
  | container type => exact Container.embed_visible (type.embed write) value
  | aside _ | loads | memo => cases leading

private theorem Members.embed_leading {members others : List Member} {first : Member}
    (split : members = first :: others) (leading : first.form.leading = true)
    (write : (type : ObjType) → Handle type → Bytes) (value : Members (.byValue Handle) members) :
    0 < (Members.embed write members value).length := by
  subst split
  obtain ⟨head, rest⟩ := value
  have one := Form.embed_leading leading write head
  simp only [embed, List.length_append]
  omega

theorem Tree.encode_visible {depth : Nat} {type : ObjType} (visible : type.visible = true)
    (tree : Tree depth type) : 0 < (tree.encode depth type).length := by
  match depth, type with
  | 0, _ => exact tree.elim
  | depth + 1, .list element =>
      exact Nat.lt_of_lt_of_le (Varint.encode_length_pos _)
        (List.length_append ▸ Nat.le_add_right _ _)
  | depth + 1, .record type =>
      have present : type ≠ .marker := by
        rintro rfl
        cases visible
      obtain ⟨first, others, split, leading, -, -⟩ := RecordType.members_confined present
      exact Members.embed_leading split leading (encode depth) tree

section Level

variable {write : (type : ObjType) → Handle type → Bytes}
  {read : (type : ObjType) → Decoder (Other type)}
  {same : (type : ObjType) → Handle type → Other type → Prop} (limit : Nat)
  (visible : ∀ type value, type.compact = true → 0 < (write type value).length)
  (bounded : limit + 1 < Bytes.limit)
  (reads : ∀ type value, type.compact = true → (write type value).length ≤ limit →
    ∃ found, (read type).Reads (write type value) found ∧ same type value found)

include visible bounded reads

private theorem Members.reads_leading {members others : List Member} {first : Member}
    (split : members = first :: others) (leading : first.form.leading = true)
    (plain : first.form.confined (fun _ => false) = true)
    (confined : ∀ member ∈ others, member.form.confined ObjType.compact = true)
    (value : Members (.byValue Handle) members)
    (fits : (Members.embed write members value).length ≤ limit + 1) :
    ∃ found, (Members.extract read members).Reads (Members.embed write members value) found ∧
      Members.Matches (.copies same) members value found := by
  subst split
  obtain ⟨head, rest⟩ := value
  have one := Form.embed_leading leading write head
  simp only [embed, List.length_append] at fits
  have within : (first.form.embed write head).length ≤ limit + 1 := by omega
  obtain ⟨newHead, readsHead, sameHead⟩ : ∃ found, (first.form.extract read).Reads
      (first.form.embed write head) found ∧ first.form.Matches (.copies same) head found :=
    Form.reads_embed (fun _ _ never => Bool.noConfusion never) bounded
      (fun _ _ never => Bool.noConfusion never) plain head within
  obtain ⟨newRest, readsRest, sameRest⟩ := Members.reads_embed visible (by omega) reads confined rest
    (by omega)
  exact ⟨(newHead, newRest), readsHead.bind (readsRest.map (fun rest => (newHead, rest))),
    sameHead, sameRest⟩

/-- An object of a compact type is read back when its handles are. -/
theorem ObjType.reads_embed {type : ObjType} (compact : type.compact = true)
    (value : type.Data (.byValue Handle))
    (fits : (type.shape.embed write value).length ≤ limit + 1) :
    ∃ found, (type.shape.extract read).Reads (type.shape.embed write value) found ∧
      type.shape.Matches (.copies same) value found := by
  obtain ⟨seen, countable⟩ := Bool.and_eq_true_iff.mp compact
  cases type with
  | record type =>
      have present : type ≠ .marker := by
        rintro rfl
        cases seen
      obtain ⟨first, others, split, leading, plain, confined⟩ :=
        RecordType.members_confined present
      exact Members.reads_leading limit visible bounded reads split leading plain confined value fits
  | list element =>
      have elementCompact : (record element).compact = true :=
        Bool.and_eq_true_iff.mpr ⟨countable, rfl⟩
      exact reads_counted (by omega) (fun item => visible _ item elementCompact) value fits
        fun item => reads _ item elementCompact

end Level

/-- The bytes of a copy are read back as the same copy by any decoder that has more levels than the
copy has bytes. -/
theorem Tree.reads_encode {depth budget : Nat} {type : ObjType} (compact : type.compact = true)
    (tree : Tree depth type) (fits : (tree.encode depth type).length < Bytes.limit)
    (enough : (tree.encode depth type).length < budget) :
    ∃ found, (decode budget type).Reads (tree.encode depth type) found ∧
      Same depth budget type tree found := by
  induction depth generalizing type budget with
  | zero => exact tree.elim
  | succ depth ih =>
      match budget with
      | 0 => exact absurd enough (Nat.not_lt_zero _)
      | budget + 1 =>
          have one := encode_visible (Bool.and_eq_true_iff.mp compact).1 tree
          refine ObjType.reads_embed ((tree.encode (depth + 1) type).length - 1)
            (fun _ value compact => encode_visible (Bool.and_eq_true_iff.mp compact).1 value)
            (by omega) (fun _ value compact within => ih compact value (by omega) (by omega)) compact
            tree ?_
          change (tree.encode (depth + 1) type).length ≤ _
          omega

/-- A copy is read back when its tree is read by a decoder that has a level for every byte. -/
theorem Embedded.decode_of_reads {type : ObjType} {copy : Embedded type} {rest : Bytes}
    (back : ∃ found, (Tree.decode ((copy.encode ++ rest).length + 1) type).Reads copy.encode found ∧
      Tree.Same copy.depth _ type copy.tree found) :
    ∃ found, Embedded.decode type (copy.encode ++ rest) = .ok (found, rest) ∧
      copy.Same type found := by
  obtain ⟨found, reads, alike⟩ := back
  refine ⟨⟨_, found⟩, ?_, alike⟩
  have taken : Tree.decode ((copy.encode ++ rest).length + 1) type (copy.encode ++ rest) =
      .ok (found, rest) := reads rest
  simp only [decode, taken]
  rfl

/-- A copy of a compact type is read back from its bytes. -/
theorem Embedded.reads_encode {type : ObjType} (compact : type.compact = true)
    (copy : Embedded type) (fits : copy.encode.length < Bytes.limit) (rest : Bytes) :
    ∃ found, Embedded.decode type (copy.encode ++ rest) = .ok (found, rest) ∧
      copy.Same type found := by
  have enough : copy.encode.length < (copy.encode ++ rest).length + 1 := by
    rw [List.length_append]
    omega
  exact decode_of_reads (Tree.reads_encode compact copy.tree fits enough)

end ObjectCourier
