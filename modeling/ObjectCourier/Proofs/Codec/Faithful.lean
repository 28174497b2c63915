import ObjectCourier.Codec.Varint

/-!
Codecs that read back what they write. A decoder reads a value from some bytes when it takes exactly
these bytes for it, whatever follows them; this composes along sequences of decoders. A codec is
faithful when its decoder reads every value from its encoding, as long as the encoding fits into a
memory.
-/

namespace ObjectCourier

variable {α β : Type}

namespace Decoder

/-- The decoder takes exactly these bytes for the value, whatever follows them. -/
def Reads (decoder : Decoder α) (bytes : Bytes) (value : α) : Prop :=
  ∀ rest, decoder (bytes ++ rest) = .ok (value, rest)

theorem Reads.pure (value : α) : Reads (Pure.pure value) [] value := fun _ => rfl

theorem Reads.bind {first : Decoder α} {next : α → Decoder β} {front back : Bytes} {value : α}
    {result : β} (head : first.Reads front value) (tail : (next value).Reads back result) :
    Reads (first >>= next) (front ++ back) result := by
  intro rest
  have step : (first >>= next) (front ++ (back ++ rest)) =
      (first (front ++ (back ++ rest)) >>= fun pair => next pair.1 pair.2) := rfl
  rw [List.append_assoc, step, head]
  exact tail rest

theorem Reads.map {first : Decoder α} {front : Bytes} {value : α} (head : first.Reads front value)
    (build : α → β) :
    Reads (do return build (← first)) front (build value) := by
  have whole : Reads (do return build (← first)) (front ++ []) (build value) :=
    head.bind (Reads.pure (build value))
  rwa [List.append_nil] at whole

theorem reads_byte (value : UInt8) : byte.Reads [value] value := fun _ => rfl

private theorem reads_take (bytes : Bytes) : (take bytes.length).Reads bytes bytes := by
  intro rest
  simp [take]

theorem reads_little (width number : Nat) (fits : number < Bytes.capacity width) :
    (little width).Reads (Bytes.little width number) number := by
  have front := reads_take (Bytes.little width number)
  rw [Bytes.length_little] at front
  have whole : (little width).Reads (Bytes.little width number)
      (Bytes.value (Bytes.little width number)) := front.map _
  rwa [Bytes.value_little width number fits] at whole

theorem reads_times {item : Decoder α} {write : α → Bytes} (values : List α)
    (each : ∀ value ∈ values, item.Reads (write value) value) :
    (item.times values.length).Reads (values.flatMap write) values := by
  induction values with
  | nil => exact Reads.pure []
  | cons first others ih =>
      have head := each first List.mem_cons_self
      have tail := ih fun value member => each value (List.mem_cons_of_mem _ member)
      exact head.bind (tail.map (fun others => first :: others))

end Decoder

open Decoder

namespace Varint

theorem reads_decode (width number : Nat) (small : number < 0x10000 ∨ 4 ≤ width)
    (medium : number < 0x100000000 ∨ 8 ≤ width) (large : number < bound) :
    (decode width).Reads (encode number) number := by
  unfold encode
  by_cases byteSized : number ≤ 250
  · rw [if_pos byteSized]
    have marker : (UInt8.ofNat number).toNat = number := by
      rw [UInt8.toNat_ofNat']
      omega
    have step : (decode width).Reads ([UInt8.ofNat number] ++ []) number := by
      apply (reads_byte (UInt8.ofNat number)).bind
      rw [if_pos (by omega), marker]
      exact Reads.pure number
    exact step
  rw [if_neg byteSized]
  by_cases twoBytes : number < 0x10000
  · rw [if_pos twoBytes]
    exact (reads_byte 0xfb).bind (reads_little _ _ twoBytes)
  rw [if_neg twoBytes]
  by_cases fourBytes : number < 0x100000000
  · rw [if_pos fourBytes]
    apply (reads_byte 0xfc).bind
    rw [if_neg (by decide), if_neg (by decide), if_pos ⟨rfl, small.resolve_left twoBytes⟩]
    exact reads_little _ _ fourBytes
  · rw [if_neg fourBytes]
    apply (reads_byte 0xfd).bind
    rw [if_neg (by decide), if_neg (by decide), if_neg (fun both => absurd both.1 (by decide)),
      if_pos ⟨rfl, medium.resolve_left fourBytes⟩]
    exact reads_little _ _ large

theorem reads_length {number : Nat} (fits : number < bound) :
    (decode 8).Reads (encode number) number :=
  reads_decode _ _ (Or.inr (by decide)) (Or.inr (by decide)) fits

/-- Every length that there can be is told by a varint. -/
theorem reads_size {number : Nat} (fits : number < Bytes.limit) :
    (decode 8).Reads (encode number) number :=
  reads_length (Nat.lt_trans fits (by decide))

/-- A case of a type is told by a number that fits into one byte. -/
theorem reads_case (width number : Nat) (small : number ≤ 250) :
    (decode width).Reads [UInt8.ofNat number] number := by
  have whole := reads_decode width number (Or.inl (by omega))
    (Or.inl (by omega)) (by unfold bound; omega)
  rwa [encode, if_pos small] at whole

theorem encode_length_pos (number : Nat) : 0 < (encode number).length := by
  unfold encode
  split
  · simp
  · split
    · simp
    · split <;> simp

end Varint

namespace Codec

/-- The decoder reads back every value whose encoding has a length that there can be. -/
def Faithful (codec : Codec α) : Prop :=
  ∀ value, (codec.encode value).length < Bytes.limit →
    codec.decode.Reads (codec.encode value) value

/-- No value is written as nothing, so a number of values never exceeds the number of bytes. -/
def Visible (codec : Codec α) : Prop := ∀ value, 0 < (codec.encode value).length

theorem length_le_flatMap (write : α → Bytes) (visible : ∀ value, 0 < (write value).length)
    (values : List α) : values.length ≤ (values.flatMap write).length := by
  induction values with
  | nil => simp
  | cons first others ih =>
      have one := visible first
      simp only [List.flatMap_cons, List.length_append, List.length_cons]
      omega

theorem length_le_flatMap_of_mem (write : α → Bytes) {values : List α} {value : α}
    (member : value ∈ values) : (write value).length ≤ (values.flatMap write).length := by
  induction values with
  | nil => cases member
  | cons first others ih =>
      simp only [List.flatMap_cons, List.length_append]
      rcases List.mem_cons.mp member with rfl | later
      · omega
      · have rest := ih later
        omega

theorem bool_faithful : bool.Faithful := by
  intro value _
  cases value
  · exact (reads_byte 0).bind (Reads.pure false)
  · exact (reads_byte 1).bind (Reads.pure true)

theorem bool_visible : bool.Visible := fun _ => by simp [bool]

theorem map_faithful {codec : Codec α} {pack : α → β} {unpack : β → α} (faithful : codec.Faithful)
    (inverse : ∀ value, pack (unpack value) = value) : (codec.map pack unpack).Faithful := by
  intro value fits
  have inner : (codec.map pack unpack).decode.Reads _ (pack (unpack value)) :=
    (faithful (unpack value) fits).map pack
  rwa [inverse] at inner

theorem pair_faithful {left : Codec α} {right : Codec β} (leftFaithful : left.Faithful)
    (rightFaithful : right.Faithful) : (pair left right).Faithful := by
  intro value fits
  simp only [pair, List.length_append] at fits
  have head := leftFaithful value.1 (by omega)
  have tail := rightFaithful value.2 (by omega)
  exact head.bind (tail.map (fun second => (value.1, second)))

theorem pair_visible {left : Codec α} {right : Codec β} (visible : left.Visible) :
    (pair left right).Visible := by
  intro value
  have one := visible value.1
  simp only [pair, List.length_append]
  omega

theorem option_faithful {codec : Codec α} (faithful : codec.Faithful) :
    (option codec).Faithful := by
  intro value fits
  cases value with
  | none => exact (reads_byte 0).bind (Reads.pure none)
  | some inner =>
      simp only [option, List.length_cons] at fits
      have tail := faithful inner (by omega)
      exact (reads_byte 1).bind (tail.map some)

theorem blob_faithful : blob.Faithful := by
  intro value fits
  simp only [blob, List.length_append] at fits
  exact (Varint.reads_size (by omega)).bind (reads_take value)

private theorem blob_visible : blob.Visible := by
  intro value
  have one := Varint.encode_length_pos value.length
  simp only [blob, List.length_append]
  omega

private theorem toText?_ofText (value : String) :
    Bytes.toText? (Bytes.ofText value) = some value := by
  simp only [Bytes.toText?, Bytes.ofText, String.fromUTF8?, Array.toArray_toList]
  exact dif_pos value.isValidUTF8

theorem text_faithful : text.Faithful := by
  intro value fits
  simp only [text, blob, List.length_append] at fits
  have short : ¬Bytes.limit ≤ (Bytes.ofText value).length := by omega
  have whole : text.decode.Reads (Varint.encode (Bytes.ofText value).length ++
      (Bytes.ofText value ++ [])) value := by
    refine (Varint.reads_size (by omega)).bind ?_
    rw [if_neg short]
    apply (reads_take (Bytes.ofText value)).bind
    rw [toText?_ofText]
    exact Reads.pure value
  rwa [List.append_nil] at whole

theorem text_visible : text.Visible := fun value => blob_visible (Bytes.ofText value)

theorem list_faithful {item : Codec α} (faithful : item.Faithful) (visible : item.Visible) :
    (list item).Faithful := by
  intro values fits
  simp only [list, List.length_append] at fits
  have count := length_le_flatMap item.encode visible values
  refine (Varint.reads_size (by omega)).bind (reads_times values fun value member => ?_)
  have within := length_le_flatMap_of_mem item.encode member
  exact faithful value (by omega)

end Codec

end ObjectCourier
