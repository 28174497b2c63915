import ObjectCourier.Proofs.Codec.Numbers
import ObjectCourier.Wire.Record

/-!
Records and payloads are read back as they are written. A wire value may hold lists of wire values;
each level of it takes a byte of its own, which is why the reader of the levels never runs out.
-/

namespace ObjectCourier

open Decoder

namespace WireValue

private theorem encodeAll_eq (items : List WireValue) : encodeAll items = items.flatMap encode := by
  induction items with
  | nil => rfl
  | cons first others ih => rw [encodeAll, ih, List.flatMap_cons]

theorem encode_visible : codec.Visible := by
  intro value
  cases value <;> simp [codec, encode]

private theorem reads_decodeBy {items : Nat → Decoder (List WireValue)} (value : WireValue)
    (fits : value.encode.length < Bytes.limit)
    (reads : ∀ values, value = list values → (items values.length).Reads (encodeAll values) values) :
    (decodeBy items).Reads value.encode value := by
  cases value with
  | null => exact (Varint.reads_case 4 0 (by decide)).bind (Reads.pure null)
  | bool value =>
      simp only [encode, List.length_cons] at fits
      exact (Varint.reads_case 4 1 (by decide)).bind
        ((Codec.bool_faithful value (by omega)).map bool)
  | int value =>
      simp only [encode, List.length_cons] at fits
      exact (Varint.reads_case 4 2 (by decide)).bind
        ((IntKind.codec_faithful .i64 value (by simp only [IntKind.codec]; omega)).map
          int)
  | uint value =>
      simp only [encode, List.length_cons] at fits
      exact (Varint.reads_case 4 3 (by decide)).bind
        ((IntKind.codec_faithful .u64 value (by simp only [IntKind.codec]; omega)).map
          uint)
  | float value =>
      simp only [encode, List.length_cons] at fits
      exact (Varint.reads_case 4 4 (by decide)).bind
        ((Codec.binary64_faithful value (by omega)).map float)
  | text value =>
      simp only [encode, List.length_cons] at fits
      exact (Varint.reads_case 4 5 (by decide)).bind
        ((Codec.text_faithful value (by omega)).map text)
  | bytes value =>
      simp only [encode, List.length_cons] at fits
      exact (Varint.reads_case 4 6 (by decide)).bind
        ((Codec.blob_faithful value (by omega)).map bytes)
  | list values =>
      simp only [encode, List.length_cons, List.length_append, encodeAll_eq] at fits
      have count := Codec.length_le_flatMap encode encode_visible values
      have length : (Varint.decode 8).Reads (Varint.encode values.length) values.length :=
        Varint.reads_size (by omega)
      exact (Varint.reads_case 4 7 (by decide)).bind
        (length.bind ((reads values rfl).map list))
  | embedded typeName body =>
      simp only [encode, List.length_cons, List.length_append] at fits
      have name := Codec.text_faithful typeName (by omega)
      have blob := Codec.blob_faithful body (by omega)
      exact (Varint.reads_case 4 8 (by decide)).bind
        (name.bind (blob.map (embedded typeName)))

private theorem reads_decodeWithin {depth : Nat} (value : WireValue)
    (deep : value.encode.length ≤ depth)
    (fits : value.encode.length < Bytes.limit) : (decodeWithin depth).Reads value.encode value := by
  induction depth generalizing value with
  | zero =>
      have one : 0 < value.encode.length := encode_visible value
      omega
  | succ depth ih =>
      refine reads_decodeBy value fits fun values same => ?_
      subst same
      rw [encodeAll_eq]
      refine reads_times values fun item member => ?_
      have within := Codec.length_le_flatMap_of_mem encode member
      simp only [encode, List.length_cons, List.length_append, encodeAll_eq] at deep fits
      exact ih item (by omega) (by omega)

theorem codec_faithful : codec.Faithful := by
  intro value fits
  refine reads_decodeBy value fits fun values same rest => ?_
  subst same
  rw [encodeAll_eq]
  refine reads_times values (fun item member => ?_) rest
  have within := Codec.length_le_flatMap_of_mem encode member
  simp only [codec, encode, List.length_cons, List.length_append, encodeAll_eq] at fits
  refine reads_decodeWithin item ?_ (by omega)
  rw [List.length_append]
  omega

end WireValue

namespace Codec

private theorem refId_faithful : refId.Faithful := by
  intro value _
  have small := value.number.toNat_lt
  have number := Varint.reads_decode 4 value.number.toNat
    (Or.inr (by decide)) (Or.inl small) (by unfold Varint.bound; omega)
  have whole := number.map (fun number => (⟨UInt32.ofNat number⟩ : RefId))
  rwa [UInt32.ofNat_toNat] at whole

private theorem refId_visible :
    refId.Visible := fun value => Varint.encode_length_pos value.number.toNat

private theorem childSlot_faithful : childSlot.Faithful := by
  intro slot fits
  simp only [childSlot, List.length_append] at fits
  have target := refId_faithful slot.target (by omega)
  have dirty := bool_faithful slot.dirty (by omega)
  exact target.bind (dirty.map (fun dirty =>
    ({ target := slot.target, dirty := dirty } : ChildSlot)))

private theorem record_faithful : record.Faithful := by
  intro value fits
  simp only [record, List.length_append] at fits
  have id := refId_faithful value.id (by omega)
  have key := text_faithful value.typeKey (by omega)
  have values := list_faithful (pair_faithful text_faithful WireValue.codec_faithful)
    (pair_visible text_visible) value.values (by omega)
  have children := list_faithful (pair_faithful text_faithful childSlot_faithful)
    (pair_visible text_visible) value.children (by omega)
  simp only [record, List.append_assoc]
  refine id.bind (key.bind (values.bind ?_))
  exact children.map (fun children =>
    ({ id := value.id, typeKey := value.typeKey, values := value.values
       children := children } : Record))

private theorem record_visible : record.Visible := by
  intro value
  have one := refId_visible value.id
  simp only [record, List.length_append]
  omega

theorem payload_faithful : payload.Faithful := by
  intro value fits
  simp only [payload, List.length_append] at fits
  have root := refId_faithful value.root (by omega)
  have records := list_faithful record_faithful record_visible value.records (by omega)
  exact root.bind (records.map (fun records =>
    ({ root := value.root, records := records } : Payload)))

end Codec

end ObjectCourier
