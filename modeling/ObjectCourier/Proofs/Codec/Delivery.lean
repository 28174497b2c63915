import ObjectCourier.Business.Algorithms
import ObjectCourier.Proofs.Codec.Envelope
import ObjectCourier.Proofs.Codec.Frame

/-!
What crosses a border in a frame arrives as it was. Payloads, requests and responses are delivered
by every algorithm that undoes itself and is found under its own id, whatever bytes come behind the
frame. A value is framed whenever the algorithm packs its body and the lengths can be told.
-/

namespace ObjectCourier

/-- Frames of the values can be made exactly when the body fits into a memory and the algorithm packs
it into a length that can be told, and from such a frame the value is taken out again, whatever
follows. -/
structure Codec.Delivers {α : Type} (codec : Codec α) (compressor : Compressor)
    (compressors : Compressors) : Prop where
  framed : ∀ value, (∃ bytes, Frame.encode codec value compressor = .ok bytes) ↔
    (codec.encode value).length < Bytes.limit ∧
      ∃ packed, compressor.compress (codec.encode value) = .ok packed ∧
        Frame.headerSize + packed.length < Varint.bound
  taken : ∀ value bytes, Frame.encode codec value compressor = .ok bytes → ∀ rest,
    Frame.decode codec (bytes ++ rest) compressors = .ok value

private theorem Codec.Faithful.delivers {α : Type} {codec : Codec α} {compressor : Compressor}
    {compressors : Compressors} (faithful : codec.Faithful)
    (known : compressors.get compressor.id = .ok compressor) (lossless : compressor.Lossless) :
    codec.Delivers compressor compressors where
  framed value := by
    constructor
    · rintro ⟨bytes, written⟩
      obtain ⟨fits, packed, packing, packedFits, -⟩ := Frame.wrap_eq_ok written
      exact ⟨fits, packed, packing, packedFits⟩
    · rintro ⟨fits, packed, packing, packedFits⟩
      exact Frame.wrap_ok fits packing packedFits
  taken _ _ written rest := Frame.decode_encode faithful written known lossless rest

/-- Everything that crosses a border is delivered. -/
theorem Frame.delivers_all {compressor : Compressor} {compressors : Compressors}
    (known : compressors.get compressor.id = .ok compressor)
    (lossless : ∀ body packed, compressor.compress body = .ok packed →
      compressor.decompress packed = .ok body) :
    Codec.payload.Delivers compressor compressors ∧
    Codec.request.Delivers compressor compressors ∧
    Codec.response.Delivers compressor compressors := by
  refine ⟨?_, ?_, ?_⟩
  · exact Codec.payload_faithful.delivers known lossless
  · exact Codec.request_faithful.delivers known lossless
  · exact Codec.response_faithful.delivers known lossless

theorem Compressor.mask_lossless : mask.Lossless := by
  rintro body packed ⟨⟩
  have masked : (fun byte : UInt8 => byte ^^^ 0x5a ^^^ 0x5a) = fun byte => byte := by
    funext byte
    rw [UInt8.xor_assoc, UInt8.xor_self, UInt8.xor_zero]
  simp only [mask, List.map_map, Function.comp_def, masked, List.map_id']

def Request.sample : Request where
  operation := .update
  typeKey := "tests::Link"
  criteria := some ⟨[.list [.null, .list [.text "a", .int ⟨-300, by decide⟩], .embedded "T" [7]]]⟩
  object := some
    { root := ⟨1⟩
      records := [(Record.mk ⟨1⟩ "tests::Link" [] []).addValue "index" (.uint ⟨70000, by decide⟩)
        |>.addChild "next" ⟨1⟩ false] }
  context :=
    { principal := .user "ann" ["editor", "auditor"]
      values := Dictionary.empty.insert "tenant" "north"
      culture := some "de" }

theorem Frame.delivers_masked_request :
    (Compressors.builtin.add .mask).get Compressor.mask.id = .ok .mask ∧
    ∃ bytes, Frame.encode Codec.request .sample .mask = .ok bytes ∧
      Frame.decode Codec.request (bytes ++ [0xff, 0x00]) (Compressors.builtin.add .mask) =
        .ok .sample := by
  have known : (Compressors.builtin.add .mask).get Compressor.mask.id = .ok .mask := rfl
  obtain ⟨-, delivers, -⟩ := delivers_all known Compressor.mask_lossless
  have fits : (Codec.request.encode .sample).length < Bytes.limit := by decide +kernel
  obtain ⟨bytes, written⟩ := (delivers.framed .sample).mpr ⟨fits, _, rfl, by
    rw [List.length_map]
    decide +kernel⟩
  exact ⟨known, bytes, written, delivers.taken .sample bytes written [0xff, 0x00]⟩

end ObjectCourier
