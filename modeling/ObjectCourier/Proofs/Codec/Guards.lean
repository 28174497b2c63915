import ObjectCourier.Proofs.Codec.Delivery

/-!
Frames that were cut or altered. Bytes begin with a header exactly when they begin with the bytes
that the header is written as. A frame tells where it ends, so what follows it changes nothing and
nothing of it can be missing; and no other mark, version, checksum or greater length is taken for
the one that was written.
-/

namespace ObjectCourier

namespace Bytes

private theorem little_value (bytes : Bytes) : little bytes.length (value bytes) = bytes := by
  induction bytes with
  | nil => rfl
  | cons byte rest ih =>
      have small := byte.toNat_lt
      have low : UInt8.ofNat (byte.toNat + 256 * value rest) = byte := by
        apply UInt8.toNat_inj.mp
        rw [UInt8.toNat_ofNat']
        omega
      have high : (byte.toNat + 256 * value rest) / 256 = value rest := by omega
      rw [value, List.length_cons, little, low, high, ih]

private theorem value_injective {left right : Bytes} (lengths : left.length = right.length)
    (same : value left = value right) : left = right := by
  rw [← little_value left, ← little_value right, lengths, same]

def patch (bytes : Bytes) (start : Nat) (field : Bytes) : Bytes :=
  bytes.take start ++ (field ++ bytes.drop (start + field.length))

private theorem patch_append {front old back field : Bytes} {start : Nat}
    (place : front.length = start) (width : old.length = field.length) :
    patch (front ++ (old ++ back)) start field = front ++ (field ++ back) := by
  rw [patch, List.take_left' place, ← List.append_assoc front old back, List.drop_left']
  rw [List.length_append, place, width]

end Bytes

namespace Frame

open Bytes

namespace Header

private theorem take_headerSize (bytes : Bytes) :
    bytes.take headerSize = bytes.take 4 ++ (bytes.drop 4).take 2 ++ (bytes.drop 6).take 1
      ++ (bytes.drop 7).take 8 ++ (bytes.drop 15).take 8 := by
  simp only [← List.take_add]
  rfl

private theorem length_field {bytes : Bytes} {start width : Nat}
    (inside : start + width ≤ bytes.length) : ((bytes.drop start).take width).length = width := by
  rw [List.length_take, List.length_drop]
  omega

private theorem little_field {bytes : Bytes} {start width : Nat}
    (inside : start + width ≤ bytes.length) :
    little width (value ((bytes.drop start).take width)) = (bytes.drop start).take width := by
  have written := little_value ((bytes.drop start).take width)
  rwa [length_field inside] at written

private theorem word_field {bytes : Bytes} {start : Nat} (inside : start + 8 ≤ bytes.length) :
    (UInt64.ofNat (value ((bytes.drop start).take 8))).toNat =
      value ((bytes.drop start).take 8) := by
  have bounded := value_lt ((bytes.drop start).take 8)
  rw [length_field inside] at bounded
  exact UInt64.toNat_ofNat_of_lt' bounded

private theorem toBytes_of_ofBytes {bytes : Bytes} {header : Header}
    (read : ofBytes bytes = .ok header) : header.toBytes = bytes.take headerSize := by
  dsimp only [ofBytes] at read
  split at read
  · cases read
  rename_i long
  split at read
  · cases read
  rename_i mark
  split at read
  · cases read
  rename_i number
  cases read
  have whole : 23 ≤ bytes.length := Nat.le_of_not_lt long
  have versionField := @little_field bytes 4 2 (by omega)
  rw [Classical.not_not.mp number] at versionField
  have compression : [UInt8.ofNat (value ((bytes.drop 6).take 1))] = (bytes.drop 6).take 1 :=
    @little_field bytes 6 1 (by omega)
  have checksum := @little_field bytes 7 8 (by omega)
  have bodyLength := @little_field bytes 15 8 (by omega)
  rw [take_headerSize, toBytes, word_field (by omega), word_field (by omega), checksum, bodyLength,
    versionField, compression, Classical.not_not.mp mark]

/-- Bytes begin with a header when they begin with what it is written as, and only then. -/
theorem ofBytes_eq_ok {bytes : Bytes} {header : Header} :
    ofBytes bytes = .ok header ↔ header.toBytes <+: bytes := by
  constructor
  · intro read
    rw [toBytes_of_ofBytes read]
    exact List.take_prefix _ _
  · rintro ⟨rest, rfl⟩
    exact ofBytes_toBytes header rest

variable {bytes rest field : Bytes} {header : Header}

private theorem ofBytes_of_wrongMagic (long : headerSize ≤ bytes.length)
    (other : bytes.take 4 ≠ magic) : ofBytes bytes = .error .wrongMagic := by
  dsimp only [ofBytes]
  rw [if_neg (by omega), if_pos other]

private theorem ofBytes_of_wrongVersion (long : headerSize ≤ bytes.length)
    (mark : bytes.take 4 = magic) (other : value ((bytes.drop 4).take 2) ≠ version) :
    ofBytes bytes = .error (.wrongVersion (value ((bytes.drop 4).take 2))) := by
  dsimp only [ofBytes]
  rw [if_neg (by omega), if_neg (not_not_intro mark), if_pos other]

private theorem patch_magic (width : field.length = 4) :
    (header.toBytes ++ rest).patch 0 field = field ++ (header.toBytes.drop 4 ++ rest) := by
  have whole : header.toBytes ++ rest = [] ++ (magic ++ (header.toBytes.drop 4 ++ rest)) := by
    simp [toBytes, magic]
  rw [whole, patch_append List.length_nil (by rw [width]; rfl), List.nil_append]

private theorem patch_version (width : field.length = 2) :
    (header.toBytes ++ rest).patch 4 field = magic ++ (field ++ (header.toBytes.drop 6 ++ rest)) := by
  have whole : header.toBytes ++ rest =
      magic ++ (little 2 version ++ (header.toBytes.drop 6 ++ rest)) := by
    simp [toBytes, magic, little]
  have place : magic.length = 4 := rfl
  rw [whole, patch_append place (by rw [width, length_little])]

def beforeChecksum (header : Header) : Bytes := magic ++ little 2 version ++ [header.compression]

def beforeBodyLength (header : Header) : Bytes :=
  header.beforeChecksum ++ little 8 header.checksum.toNat

private theorem length_beforeChecksum (header : Header) : header.beforeChecksum.length = 7 := rfl

private theorem length_beforeBodyLength (header : Header) :
    header.beforeBodyLength.length = 15 := by
  rw [beforeBodyLength, List.length_append, length_beforeChecksum, length_little]

private theorem toBytes_eq_checksum (header : Header) (rest : Bytes) : header.toBytes ++ rest =
    header.beforeChecksum ++ (little 8 header.checksum.toNat
      ++ (little 8 header.bodyLength.toNat ++ rest)) := by
  simp [toBytes, beforeChecksum]

private theorem toBytes_eq_bodyLength (header : Header) (rest : Bytes) : header.toBytes ++ rest =
    header.beforeBodyLength ++ (little 8 header.bodyLength.toNat ++ rest) := by
  simp [toBytes, beforeBodyLength, beforeChecksum]

private theorem field_checksum (header : Header) (rest : Bytes) :
    ((header.toBytes ++ rest).drop 7).take 8 = little 8 header.checksum.toNat := by
  rw [toBytes_eq_checksum, List.drop_left' header.length_beforeChecksum,
    List.take_left' (length_little _ _)]

private theorem field_bodyLength (header : Header) (rest : Bytes) :
    ((header.toBytes ++ rest).drop 15).take 8 = little 8 header.bodyLength.toNat := by
  rw [toBytes_eq_bodyLength, List.drop_left' header.length_beforeBodyLength,
    List.take_left' (length_little _ _)]

private theorem patch_checksum (checksum : UInt64) :
    (header.toBytes ++ rest).patch 7 (little 8 checksum.toNat) =
      toBytes { header with checksum := checksum } ++ rest := by
  rw [toBytes_eq_checksum, toBytes_eq_checksum, patch_append header.length_beforeChecksum]
  · rfl
  · rw [length_little, length_little]

private theorem patch_bodyLength (length : UInt64) :
    (header.toBytes ++ rest).patch 15 (little 8 length.toNat) =
      toBytes { header with bodyLength := length } ++ rest := by
  rw [toBytes_eq_bodyLength, toBytes_eq_bodyLength, patch_append header.length_beforeBodyLength]
  · rfl
  · rw [length_little, length_little]

end Header

section Refused

variable {α : Type} {codec : Codec α} {bytes packed field : Bytes} {header : Header}
  {compressors : Compressors} {fault : Fault}

private theorem decode_of_unwrap_error (refused : unwrap bytes compressors = .error fault) :
    decode codec bytes compressors = .error fault := by
  unfold decode
  rw [refused]
  rfl

private theorem decode_of_header_error (refused : Header.ofBytes bytes = .error fault) :
    decode codec bytes compressors = .error fault := by
  apply decode_of_unwrap_error
  unfold unwrap
  rw [refused]
  rfl

private theorem decode_of_short (read : Header.ofBytes bytes = .ok header)
    (short : bytes.length < headerSize + header.bodyLength.toNat) :
    decode codec bytes compressors =
      .error (if Varint.bound ≤ headerSize + header.bodyLength.toNat then .overflowingBody
        else .truncatedBody) := by
  apply decode_of_unwrap_error
  unfold unwrap
  rw [read]
  change (if Varint.bound ≤ headerSize + header.bodyLength.toNat then _ else _) = _
  by_cases overflows : Varint.bound ≤ headerSize + header.bodyLength.toNat
  · rw [if_pos overflows, if_pos overflows]
    rfl
  · rw [if_neg overflows, if_neg overflows]
    rw [if_pos short]
    rfl

private theorem decode_cut (fits : headerSize + packed.length < Varint.bound)
    (length : header.bodyLength = UInt64.ofNat packed.length)
    (part : bytes <+: header.toBytes ++ packed) (strict : bytes ≠ header.toBytes ++ packed) :
    decode codec bytes compressors =
      .error (if bytes.length < headerSize then .shortHeader else .truncatedBody) := by
  by_cases short : bytes.length < headerSize
  · rw [if_pos short]
    apply decode_of_header_error
    dsimp only [Header.ofBytes]
    rw [if_pos short]
  · rw [if_neg short]
    have told := bodyLength_toNat fits length
    have begins : header.toBytes <+: bytes :=
      List.prefix_of_prefix_length_le (List.prefix_append _ _) part (by
        rw [header.length_toBytes]
        omega)
    have less : bytes.length < headerSize + header.bodyLength.toNat := by
      have most := part.length_le
      have unequal : bytes.length ≠ (header.toBytes ++ packed).length :=
        fun same => strict (part.eq_of_length same)
      rw [List.length_append, header.length_toBytes] at most unequal
      omega
    rw [decode_of_short (Header.ofBytes_eq_ok.mpr begins) less, if_neg (by omega)]

private theorem decode_patched_magic (width : field.length = 4) (other : field ≠ magic) :
    decode codec ((header.toBytes ++ packed).patch 0 field) compressors =
      .error .wrongMagic := by
  rw [Header.patch_magic width]
  apply decode_of_header_error
  apply Header.ofBytes_of_wrongMagic
  · rw [List.length_append, List.length_append, List.length_drop, header.length_toBytes, width,
      headerSize]
    omega
  · rwa [List.take_left' width]

private theorem decode_patched_version (width : field.length = 2)
    (other : field ≠ little 2 version) :
    decode codec ((header.toBytes ++ packed).patch 4 field) compressors =
      .error (.wrongVersion (value field)) := by
  rw [Header.patch_version width]
  have place : magic.length = 4 := rfl
  have number : ((magic ++ (field ++ (header.toBytes.drop 6 ++ packed))).drop 4).take 2 = field := by
    rw [List.drop_left' place, List.take_left' width]
  apply decode_of_header_error
  rw [Header.ofBytes_of_wrongVersion _ (List.take_left' place), number]
  · rw [number]
    intro same
    exact other (value_injective (by rw [width, length_little]) same)
  · rw [List.length_append, List.length_append, List.length_append, List.length_drop,
      header.length_toBytes, width, place, headerSize]
    omega

private theorem exists_word (width : field.length = 8) : ∃ word :
    UInt64, field = little 8 word.toNat := by
  have bounded := value_lt field
  rw [width] at bounded
  refine ⟨UInt64.ofNat (value field), ?_⟩
  rw [UInt64.toNat_ofNat_of_lt' bounded, ← width, little_value]

private theorem decode_patched_checksum {compressor : Compressor} {body : Bytes}
    (fits : headerSize + packed.length < Varint.bound)
    (length : header.bodyLength = UInt64.ofNat packed.length)
    (hashed : header.checksum = XxHash.hash body)
    (known : compressors.get header.compression = .ok compressor)
    (unpacked : compressor.decompress packed = .ok body) (width : field.length = 8)
    (other : field ≠ little 8 header.checksum.toNat) :
    decode codec ((header.toBytes ++ packed).patch 7 field) compressors =
      .error .wrongChecksum := by
  obtain ⟨checksum, rfl⟩ := exists_word width
  have different : XxHash.hash body ≠ checksum := by
    rintro rfl
    exact other (by rw [hashed])
  rw [Header.patch_checksum, ← List.append_nil packed]
  apply decode_of_unwrap_error
  rw [@unwrap_packed { header with checksum := checksum } body packed compressor compressors fits
    length known unpacked []]
  exact if_pos different

private theorem decode_patched_bodyLength (fits : headerSize + packed.length < Varint.bound)
    (length : header.bodyLength = UInt64.ofNat packed.length) (width : field.length = 8)
    (longer : header.bodyLength.toNat < value field) :
    decode codec ((header.toBytes ++ packed).patch 15 field) compressors =
      .error (if Varint.bound ≤ headerSize + value field then .overflowingBody
        else .truncatedBody) := by
  obtain ⟨word, rfl⟩ := exists_word width
  rw [value_little 8 word.toNat word.toNat_lt] at longer ⊢
  rw [Header.patch_bodyLength]
  refine decode_of_short (Header.ofBytes_toBytes { header with bodyLength := word } packed) ?_
  rw [List.length_append, Header.length_toBytes]
  have told := bodyLength_toNat fits length
  change headerSize + packed.length < headerSize + word.toNat
  omega

end Refused

/-- What becomes of the frame of a value when it is carried on, cut or altered. It ends by itself;
none of its bytes can be missing, and no other bytes stand for its mark, its version, its checksum
or a greater length of its body. -/
structure Guarded {α : Type} (codec : Codec α) (value : α) (compressor : Compressor)
    (bytes : Bytes) : Prop where
  ends : ∀ compressors, compressors.get compressor.id = .ok compressor → ∀ rest,
    unwrap (bytes ++ rest) compressors = .ok (codec.encode value)
  cut : ∀ compressors front, front <+: bytes → front ≠ bytes →
    decode codec front compressors =
      .error (if front.length < headerSize then .shortHeader else .truncatedBody)
  mark : ∀ compressors field, field.length = 4 → field ≠ magic →
    decode codec (bytes.patch 0 field) compressors = .error .wrongMagic
  number : ∀ compressors field, field.length = 2 → field ≠ little 2 version →
    decode codec (bytes.patch 4 field) compressors = .error (.wrongVersion (Bytes.value field))
  checksum : ∀ compressors, compressors.get compressor.id = .ok compressor → ∀ field,
    field.length = 8 → field ≠ (bytes.drop 7).take 8 →
      decode codec (bytes.patch 7 field) compressors = .error .wrongChecksum
  length : ∀ compressors field, field.length = 8 →
    Bytes.value ((bytes.drop 15).take 8) < Bytes.value field →
      decode codec (bytes.patch 15 field) compressors =
        .error (if Varint.bound ≤ headerSize + Bytes.value field then .overflowingBody
          else .truncatedBody)

/-- The frame of any value is guarded, and of any bytes at all those that begin with the bytes of a
header have this header. -/
theorem guarded_at_header :
    (∀ {α : Type} (codec : Codec α) (value : α) (compressor : Compressor) (bytes : Bytes),
      (∀ body packed, compressor.compress body = .ok packed →
        compressor.decompress packed = .ok body) →
      encode codec value compressor = .ok bytes → Guarded codec value compressor bytes) ∧
    ∀ bytes header, Header.ofBytes bytes = .ok header ↔ header.toBytes <+: bytes := by
  refine ⟨?_, fun _ _ => Header.ofBytes_eq_ok⟩
  intro α codec value compressor bytes lossless written
  obtain ⟨-, packed, packing, fits, same⟩ := wrap_eq_ok written
  have unpacked := lossless _ _ packing
  refine ⟨?_, ?_, ?_, ?_, ?_, ?_⟩
  · exact fun compressors known rest => unwrap_wrap written known lossless rest
  · subst same
    exact fun compressors front part strict => decode_cut fits rfl part strict
  · subst same
    exact fun compressors field width other => decode_patched_magic width other
  · subst same
    exact fun compressors field width other => decode_patched_version width other
  · subst same
    intro compressors known field width other
    rw [Header.field_checksum] at other
    exact decode_patched_checksum fits rfl rfl known unpacked width other
  · subst same
    intro compressors field width longer
    rw [Header.field_bodyLength, value_little 8 _ (UInt64.toNat_lt _)] at longer
    exact decode_patched_bodyLength fits rfl width longer

/-- The masked frame of a request without its last byte, with another mark, another checksum and
the greatest length. -/
theorem guarded_masked_request :
    (∀ body packed, Compressor.mask.compress body = .ok packed →
      Compressor.mask.decompress packed = .ok body) ∧
    (Compressors.builtin.add .mask).get Compressor.mask.id = .ok .mask ∧
    ∃ bytes, encode Codec.request .sample .mask = .ok bytes ∧
      decode Codec.request (bytes.take 22) (Compressors.builtin.add .mask) =
        .error .shortHeader ∧
      decode Codec.request (bytes.patch 0 [0, 0, 0, 0]) (Compressors.builtin.add .mask) =
        .error .wrongMagic ∧
      decode Codec.request (bytes.patch 7 (List.replicate 8 0)) (Compressors.builtin.add .mask) =
        .error .wrongChecksum ∧
      decode Codec.request (bytes.patch 15 (List.replicate 8 0xff))
        (Compressors.builtin.add .mask) = .error .overflowingBody := by
  have known : (Compressors.builtin.add .mask).get Compressor.mask.id = .ok .mask := rfl
  have bodyFits : (Codec.request.encode .sample).length < Bytes.limit := by decide +kernel
  have packedFits : headerSize +
      ((Codec.request.encode .sample).map (fun byte => byte ^^^ 0x5a)).length < Varint.bound := by
    rw [List.length_map]
    decide +kernel
  obtain ⟨bytes, written⟩ := @wrap_ok _ _ .mask bodyFits rfl packedFits
  have guarded := guarded_at_header.1 Codec.request .sample .mask bytes Compressor.mask_lossless
    written
  obtain ⟨-, packed, packing, -, same⟩ := wrap_eq_ok written
  cases packing
  have checksum : List.replicate 8 0 ≠ (bytes.drop 7).take 8 := by
    rw [same, Header.field_checksum]
    decide +kernel
  have length : Bytes.value ((bytes.drop 15).take 8) < Bytes.value (List.replicate 8 0xff) := by
    rw [same, Header.field_bodyLength, value_little 8 _ (UInt64.toNat_lt _), List.length_map]
    decide +kernel
  have long : 22 < bytes.length := by
    rw [same, List.length_append, Header.length_toBytes, headerSize]
    omega
  have shortened : (bytes.take 22).length = 22 := by
    rw [List.length_take]
    omega
  have strict : bytes.take 22 ≠ bytes := by
    intro whole
    rw [whole] at shortened
    omega
  have cut := guarded.cut (Compressors.builtin.add .mask) _ (List.take_prefix 22 bytes) strict
  rw [shortened] at cut
  refine ⟨Compressor.mask_lossless, known, bytes, written, cut, ?_, ?_, ?_⟩
  · exact guarded.mark _ _ rfl (by decide)
  · exact guarded.checksum _ known _ rfl checksum
  · exact guarded.length _ _ rfl length

end Frame

end ObjectCourier
