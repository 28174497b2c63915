import Mathlib.Algebra.Group.Nat.Defs
import ObjectCourier.Number.Binary

/-!
A 32-bit number on its way through the 64-bit format. Widening loses nothing and narrowing undoes
it; only a not-a-number pattern comes back in its quiet form, and widening sees no difference
between a pattern and its quiet form.
-/

namespace ObjectCourier

namespace Binary32

def isNaN (number : Binary32) : Bool :=
  (number.bits.toNat >>> 23) % 0x100 = 0xff && number.bits.toNat % 0x800000 ≠ 0

/-- The quiet form of a not-a-number pattern; other patterns stay as they are. -/
def settle (number : Binary32) : Binary32 :=
  if number.isNaN then
    ⟨UInt32.ofNat (number.bits.toNat - number.bits.toNat % 0x800000 + 0x400000
      + number.bits.toNat % 0x400000)⟩
  else number

private theorem settle_of_not_isNaN {number : Binary32} (ordinary : number.isNaN = false) :
    number.settle = number := by
  rw [settle, ordinary]
  exact if_neg Bool.false_ne_true

end Binary32

private theorem divRoundEven_mul (quotient divisor : Nat) (positive : 0 < divisor) :
    divRoundEven (quotient * divisor) divisor = quotient := by
  simp [divRoundEven, Nat.mul_div_cancel _ positive, positive]

private theorem divRoundEven_zero (divisor : Nat) : divRoundEven 0 divisor = 0 := by
  simp [divRoundEven]

namespace Binary64

private theorem narrow_of_parts {number : Binary64} (sign exponent fraction : Nat)
    (exponentBits : exponent < 0x800) (fractionBits : fraction < 0x10000000000000)
    (parts : number.bits.toNat =
      sign * 0x8000000000000000 + exponent * 0x10000000000000 + fraction) :
    number.narrow =
      if exponent = 0x7ff then
        ⟨UInt32.ofNat (sign * 0x80000000 + 0x7f800000 +
          if fraction = 0 then 0 else 0x400000 + (fraction / 0x20000000) % 0x400000)⟩
      else
        ⟨UInt32.ofNat (sign * 0x80000000 + min ((exponent - 897) * 0x800000 +
          divRoundEven (if exponent = 0 then fraction else 0x10000000000000 + fraction)
            (1 <<< (29 + (897 - exponent)))) 0x7f800000)⟩ := by
  have signPart : number.bits.toNat >>> 63 = sign := by
    rw [Nat.shiftRight_eq_div_pow, parts]
    omega
  have exponentPart : (number.bits.toNat >>> 52) % 0x800 = exponent := by
    rw [Nat.shiftRight_eq_div_pow, parts]
    omega
  have fractionPart : number.bits.toNat % 0x10000000000000 = fraction := by
    rw [parts]
    omega
  simp only [narrow, signPart, exponentPart, fractionPart]
  simp only [Nat.shiftLeft_eq, Nat.shiftRight_eq_div_pow, Nat.reducePow, Nat.one_mul]

end Binary64

namespace Binary32

private theorem bits_of_parts (number : Binary32) :
    number.bits.toNat = number.bits.toNat / 0x80000000 * 0x80000000
      + number.bits.toNat / 0x800000 % 0x100 * 0x800000 + number.bits.toNat % 0x800000 := by
  omega

private theorem widen_of_parts {number : Binary32} {sign exponent fraction : Nat}
    (exponentBits : exponent < 0x100) (fractionBits : fraction < 0x800000)
    (parts : number.bits.toNat = sign * 0x80000000 + exponent * 0x800000 + fraction) :
    number.widen =
      if exponent = 0xff then
        ⟨UInt64.ofNat (sign * 0x8000000000000000 + 0x7ff0000000000000 +
          if fraction = 0 then 0 else 0x8000000000000 + fraction % 0x400000 * 0x20000000)⟩
      else if exponent = 0 then
        if fraction = 0 then ⟨UInt64.ofNat (sign * 0x8000000000000000)⟩
        else
          ⟨UInt64.ofNat (sign * 0x8000000000000000 + (fraction.log2 + 874) * 0x10000000000000
            + (fraction - 1 <<< fraction.log2) * 2 ^ (52 - fraction.log2))⟩
      else
        ⟨UInt64.ofNat (sign * 0x8000000000000000 + (exponent + 896) * 0x10000000000000
          + fraction * 0x20000000)⟩ := by
  have signPart : number.bits.toNat >>> 31 = sign := by
    rw [Nat.shiftRight_eq_div_pow, parts]
    omega
  have exponentPart : (number.bits.toNat >>> 23) % 0x100 = exponent := by
    rw [Nat.shiftRight_eq_div_pow, parts]
    omega
  have fractionPart : number.bits.toNat % 0x800000 = fraction := by
    rw [parts]
    omega
  simp only [widen, signPart, exponentPart, fractionPart]
  simp only [Nat.shiftLeft_eq, Nat.reducePow, Nat.one_mul]

private theorem isNaN_of_parts {number : Binary32} {sign exponent fraction : Nat}
    (exponentBits : exponent < 0x100) (fractionBits : fraction < 0x800000)
    (parts : number.bits.toNat = sign * 0x80000000 + exponent * 0x800000 + fraction) :
    number.isNaN = (decide (exponent = 0xff) && decide (fraction ≠ 0)) := by
  have exponentPart : (number.bits.toNat >>> 23) % 0x100 = exponent := by
    rw [Nat.shiftRight_eq_div_pow, parts]
    omega
  have fractionPart : number.bits.toNat % 0x800000 = fraction := by
    rw [parts]
    omega
  rw [isNaN, exponentPart, fractionPart]

/-- A not-a-number pattern becomes quiet by its uppermost fraction bit. -/
theorem settle_of_isNaN {number : Binary32} {sign fraction : Nat}
    (fractionBits : fraction < 0x800000) (present : fraction ≠ 0)
    (parts : number.bits.toNat = sign * 0x80000000 + 0xff * 0x800000 + fraction) :
    number.settle = ⟨UInt32.ofNat
      (sign * 0x80000000 + 0xff * 0x800000 + (0x400000 + fraction % 0x400000))⟩ := by
  have special : number.isNaN = true := by
    rw [isNaN_of_parts (by decide) fractionBits parts]
    simpa using present
  have quieted : number.bits.toNat - number.bits.toNat % 0x800000 + 0x400000
      + number.bits.toNat % 0x400000
        = sign * 0x80000000 + 0xff * 0x800000 + (0x400000 + fraction % 0x400000) := by
    omega
  rw [settle, if_pos special, quieted]

private theorem scaled_fraction {fraction : Nat} (present : fraction ≠ 0)
    (fractionBits : fraction < 0x800000) :
    fraction.log2 < 23 ∧
      0x10000000000000 + (fraction - 1 <<< fraction.log2) * 2 ^ (52 - fraction.log2)
        = fraction * 2 ^ (52 - fraction.log2) ∧
      (fraction - 1 <<< fraction.log2) * 2 ^ (52 - fraction.log2) < 0x10000000000000 := by
  have place : fraction.log2 < 23 := (Nat.log2_lt present).mpr (by simpa using fractionBits)
  have low : 2 ^ fraction.log2 ≤ fraction := Nat.log2_self_le present
  have high : fraction < 2 ^ (fraction.log2 + 1) := Nat.lt_log2_self
  have unit : 2 ^ fraction.log2 * 2 ^ (52 - fraction.log2) = 0x10000000000000 := by
    rw [← Nat.pow_add, Nat.add_sub_cancel' (by omega)]
  have positive : 0 < 2 ^ (52 - fraction.log2) := Nat.two_pow_pos _
  rw [Nat.shiftLeft_eq, Nat.one_mul, Nat.sub_mul, unit]
  have above : 0x10000000000000 ≤ fraction * 2 ^ (52 - fraction.log2) := by
    rw [← unit]
    exact Nat.mul_le_mul_right _ low
  have below : fraction * 2 ^ (52 - fraction.log2) < 2 * 0x10000000000000 := by
    rw [← unit, ← Nat.mul_assoc, ← Nat.pow_succ']
    exact Nat.mul_lt_mul_of_pos_right high positive
  omega

private theorem exists_parts (number : Binary32) :
    ∃ sign exponent fraction, sign < 2 ∧ exponent < 0x100 ∧ fraction < 0x800000 ∧
      number.bits.toNat = sign * 0x80000000 + exponent * 0x800000 + fraction := by
  have bounded := number.bits.toNat_lt
  exact ⟨_, _, _, by omega, Nat.mod_lt _ (by decide), Nat.mod_lt _ (by decide),
    number.bits_of_parts⟩

/-- Widening can be undone. Only a not-a-number pattern becomes quiet on the way. -/
theorem narrow_widen (number : Binary32) : number.widen.narrow = number.settle := by
  obtain ⟨sign, exponent, fraction, signBit, exponentBits, fractionBits, parts⟩ :=
    number.exists_parts
  have wide {bits : Nat} (fits : bits < 0x10000000000000000) :
      (⟨UInt64.ofNat bits⟩ : Binary64).bits.toNat = bits := UInt64.toNat_ofNat_of_lt' fits
  have same {bits : Nat} (whole : bits = number.bits.toNat) :
      (⟨UInt32.ofNat bits⟩ : Binary32) = number := by
    rw [whole, UInt32.ofNat_toNat]
  have nature := isNaN_of_parts exponentBits fractionBits parts
  rw [widen_of_parts exponentBits fractionBits parts]
  by_cases special : exponent = 0xff
  · subst special
    rw [if_pos rfl]
    by_cases infinite : fraction = 0
    · subst infinite
      rw [if_pos rfl, settle_of_not_isNaN (by simpa using nature),
        Binary64.narrow_of_parts sign 0x7ff 0 (by decide)
          (by decide) (by rw [wide (by omega)]), if_pos rfl, if_pos rfl]
      exact same (by omega)
    · rw [if_neg infinite, settle_of_isNaN fractionBits infinite parts,
        Binary64.narrow_of_parts sign 0x7ff
          (0x8000000000000 + fraction % 0x400000 * 0x20000000) (by decide) (by omega)
          (by rw [wide (by omega)]), if_pos rfl, if_neg (by omega)]
      have payload : (0x8000000000000 + fraction % 0x400000 * 0x20000000) / 0x20000000 % 0x400000
          = fraction % 0x400000 := by omega
      rw [payload]
  rw [if_neg special, settle_of_not_isNaN (by simp [nature, special])]
  by_cases small : exponent = 0
  · subst small
    rw [if_pos rfl]
    by_cases zero : fraction = 0
    · subst zero
      rw [if_pos rfl, Binary64.narrow_of_parts sign 0 0
        (by decide) (by decide) (by rw [wide (by omega)]; omega), if_neg (by decide), if_pos rfl,
        divRoundEven_zero]
      exact same (by omega)
    · obtain ⟨place, scaled, tail⟩ := scaled_fraction zero fractionBits
      rw [if_neg zero, Binary64.narrow_of_parts sign (fraction.log2 + 874) _
        (by omega) tail (wide (by omega)), if_neg (by omega), if_neg (by omega), scaled,
        Nat.one_shiftLeft, show 29 + (897 - (fraction.log2 + 874)) = 52 - fraction.log2 by omega,
        divRoundEven_mul _ _ (Nat.two_pow_pos _)]
      exact same (by omega)
  · rw [if_neg small]
    rw [Binary64.narrow_of_parts sign (exponent + 896)
      (fraction * 0x20000000) (by omega) (by omega) (wide (by omega)),
      if_neg (by omega), if_neg (by omega), show 897 - (exponent + 896) = 0 by omega]
    have exact29 := divRoundEven_mul (0x800000 + fraction) (1 <<< (29 + 0)) (by decide)
    rw [show (0x800000 + fraction) * 1 <<< (29 + 0) =
      0x10000000000000 + fraction * 0x20000000 by rw [Nat.shiftLeft_eq]; omega] at exact29
    rw [exact29]
    exact same (by omega)

theorem widen_settle (number : Binary32) : number.settle.widen = number.widen := by
  obtain ⟨sign, exponent, fraction, signBit, exponentBits, fractionBits, parts⟩ :=
    number.exists_parts
  have nature := isNaN_of_parts exponentBits fractionBits parts
  by_cases special : exponent = 0xff ∧ fraction ≠ 0
  · obtain ⟨rfl, present⟩ := special
    have quiet : (⟨UInt32.ofNat (sign * 0x80000000 + 0xff * 0x800000 +
        (0x400000 + fraction % 0x400000))⟩ : Binary32).bits.toNat =
          sign * 0x80000000 + 0xff * 0x800000 + (0x400000 + fraction % 0x400000) :=
      UInt32.toNat_ofNat_of_lt' (by
        change _ < 0x100000000
        omega)
    rw [settle_of_isNaN fractionBits present parts, widen_of_parts (by decide) (by omega) quiet,
      widen_of_parts exponentBits fractionBits parts, if_pos rfl, if_pos rfl, if_neg (by omega),
      if_neg present, show (0x400000 + fraction % 0x400000) % 0x400000 = fraction % 0x400000 by
        omega]
  · rw [settle_of_not_isNaN]
    rw [nature]
    simpa using special

end Binary32

end ObjectCourier
