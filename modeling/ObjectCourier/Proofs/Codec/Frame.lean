import ObjectCourier.Proofs.Codec.Faithful
import ObjectCourier.Wire.Frame

/-!
Frames give their values back. The header is read field by field at fixed places, and the length in
it separates the body from whatever follows the frame. What is needed of the algorithm is that it
undoes itself and is known by its own id; nothing is needed of the hash but that it is a function.
-/

namespace ObjectCourier

/-- Whatever the algorithm has packed it can unpack. -/
def Compressor.Lossless (compressor : Compressor) : Prop :=
  ∀ body packed, compressor.compress body = .ok packed → compressor.decompress packed = .ok body

namespace Frame

open Bytes

namespace Header

theorem length_toBytes (header : Header) : header.toBytes.length = headerSize := by
  simp [toBytes, magic, headerSize]

private theorem value_between {front back : Bytes} {width number start : Nat}
    (place : front.length = start) (fits : number < capacity width) :
    value (((front ++ (little width number ++ back)).drop start).take width) = number := by
  rw [List.drop_left' place, List.take_left' (length_little width number),
    value_little width number fits]

theorem ofBytes_toBytes (header : Header) (rest : Bytes) :
    ofBytes (header.toBytes ++ rest) = .ok header := by
  have length := header.length_toBytes
  have long : ¬(header.toBytes ++ rest).length < headerSize := by
    rw [List.length_append]
    omega
  have start : (header.toBytes ++ rest).take 4 = magic := by
    simp [toBytes, magic]
  have versionField : value (((header.toBytes ++ rest).drop 4).take 2) = version := by
    have whole : header.toBytes ++ rest = magic ++ (little 2 version ++ ([header.compression]
        ++ little 8 header.checksum.toNat ++ little 8 header.bodyLength.toNat ++ rest)) := by
      simp [toBytes]
    rw [whole]
    exact value_between rfl (by decide)
  have compressionField : value (((header.toBytes ++ rest).drop 6).take 1) =
      header.compression.toNat := by
    have whole : header.toBytes ++ rest = (magic ++ little 2 version) ++
        (little 1 header.compression.toNat ++ (little 8 header.checksum.toNat
          ++ little 8 header.bodyLength.toNat ++ rest)) := by
      simp [toBytes, little]
    rw [whole]
    exact value_between rfl (UInt8.toNat_lt _)
  have checksumField : value (((header.toBytes ++ rest).drop 7).take 8) =
      header.checksum.toNat := by
    have whole : header.toBytes ++ rest = (magic ++ little 2 version ++ [header.compression]) ++
        (little 8 header.checksum.toNat ++ (little 8 header.bodyLength.toNat ++ rest)) := by
      simp [toBytes]
    rw [whole]
    exact value_between rfl (UInt64.toNat_lt _)
  have lengthField : value (((header.toBytes ++ rest).drop 15).take 8) =
      header.bodyLength.toNat := by
    have whole : header.toBytes ++ rest = (magic ++ little 2 version ++ [header.compression]
        ++ little 8 header.checksum.toNat) ++ (little 8 header.bodyLength.toNat ++ rest) := by
      simp [toBytes]
    rw [whole]
    exact value_between (by simp [magic]) (UInt64.toNat_lt _)
  dsimp only [ofBytes]
  rw [if_neg long, if_neg (not_not_intro start), if_neg (not_not_intro versionField),
    compressionField, checksumField, lengthField, UInt8.ofNat_toNat, UInt64.ofNat_toNat,
    UInt64.ofNat_toNat]

end Header

/-- A frame that was written holds its body behind a header that tells the body's hash. -/
theorem wrap_eq_ok {body bytes : Bytes} {compressor : Compressor}
    (written : wrap body compressor = .ok bytes) :
    body.length < Bytes.limit ∧ ∃ packed, compressor.compress body = .ok packed ∧
      headerSize + packed.length < Varint.bound ∧
      bytes = Header.toBytes
        { compression := compressor.id
          checksum := XxHash.hash body
          bodyLength := UInt64.ofNat packed.length } ++ packed := by
  unfold wrap at written
  by_cases large : Bytes.limit ≤ body.length
  · rw [if_pos large] at written
    cases written
  rw [if_neg large] at written
  refine ⟨by omega, ?_⟩
  cases packing : compressor.compress body with
  | error fault =>
      rw [packing] at written
      cases written
  | ok packed =>
      rw [packing] at written
      change (if Varint.bound ≤ headerSize + packed.length then _ else _) = _ at written
      by_cases packedLarge : Varint.bound ≤ headerSize + packed.length
      · rw [if_pos packedLarge] at written
        cases written
      · rw [if_neg packedLarge] at written
        cases written
        exact ⟨packed, rfl, by omega, rfl⟩

/-- A body that is not too long for its length fields goes into a frame. -/
theorem wrap_ok {body packed : Bytes} {compressor : Compressor}
    (fits : body.length < Bytes.limit) (packing : compressor.compress body = .ok packed)
    (packedFits : headerSize + packed.length < Varint.bound) :
    ∃ bytes, wrap body compressor = .ok bytes := by
  unfold wrap
  rw [if_neg (by omega), packing]
  change ∃ bytes, (if Varint.bound ≤ headerSize + packed.length then _ else _) = _
  rw [if_neg (by omega)]
  exact ⟨_, rfl⟩

theorem wrap_unpacked {body : Bytes} {compressor : Compressor} {fault : Fault}
    (fits : body.length < Bytes.limit) (packing : compressor.compress body = .error fault) :
    wrap body compressor = .error fault := by
  unfold wrap
  rw [if_neg (by omega), packing]
  rfl

theorem ne_nil_of_wrap {body bytes : Bytes} {compressor : Compressor}
    (written : wrap body compressor = .ok bytes) : bytes ≠ [] := by
  obtain ⟨-, packed, -, -, rfl⟩ := wrap_eq_ok written
  intro empty
  have length := congrArg List.length empty
  simp [Header.length_toBytes, headerSize] at length

theorem bodyLength_toNat {header : Header} {packed : Bytes}
    (fits : headerSize + packed.length < Varint.bound)
    (length : header.bodyLength = UInt64.ofNat packed.length) :
    header.bodyLength.toNat = packed.length := by
  rw [length]
  exact UInt64.toNat_ofNat_of_lt' (by rw [UInt64.size]; unfold Varint.bound at fits; omega)

/-- A body that is there as a whole is unpacked and compared with its hash. -/
theorem unwrap_packed {header : Header} {body packed : Bytes} {compressor : Compressor}
    {compressors : Compressors} (fits : headerSize + packed.length < Varint.bound)
    (length : header.bodyLength = UInt64.ofNat packed.length)
    (known : compressors.get header.compression = .ok compressor)
    (unpacked : compressor.decompress packed = .ok body) (rest : Bytes) :
    unwrap (header.toBytes ++ (packed ++ rest)) compressors =
      if XxHash.hash body ≠ header.checksum then .error .wrongChecksum else .ok body := by
  have enough : ¬(header.toBytes ++ (packed ++ rest)).length < headerSize + packed.length := by
    rw [List.length_append, List.length_append, Header.length_toBytes]
    omega
  simp only [unwrap, Header.ofBytes_toBytes, bind, Except.bind, bodyLength_toNat fits length,
    if_neg (Nat.not_le.mpr fits), if_neg enough, known,
    List.drop_left' (Header.length_toBytes _), List.take_left' rfl, unpacked, pure, Except.pure]
  split <;> rfl

theorem unwrap_wrap {body bytes : Bytes} {compressor : Compressor} {compressors : Compressors}
    (written : wrap body compressor = .ok bytes)
    (known : compressors.get compressor.id = .ok compressor) (lossless : compressor.Lossless)
    (rest : Bytes) : unwrap (bytes ++ rest) compressors = .ok body := by
  obtain ⟨_, packed, packing, packedFits, rfl⟩ := wrap_eq_ok written
  rw [List.append_assoc, unwrap_packed packedFits rfl known (lossless body packed packing)]
  exact if_neg (not_not_intro rfl)

/-- The value in a frame is the value that was written, whatever follows the frame. -/
theorem decode_encode {α : Type} {codec : Codec α} {value : α} {bytes : Bytes}
    {compressor : Compressor} {compressors : Compressors} (faithful : codec.Faithful)
    (written : encode codec value compressor = .ok bytes)
    (known : compressors.get compressor.id = .ok compressor) (lossless : compressor.Lossless)
    (rest : Bytes) : decode codec (bytes ++ rest) compressors = .ok value := by
  have fits := (wrap_eq_ok written).1
  have reads := faithful value fits []
  rw [List.append_nil] at reads
  unfold decode
  rw [unwrap_wrap written known lossless rest]
  simp only [bind, Except.bind, reads]
  rfl

end Frame

end ObjectCourier
