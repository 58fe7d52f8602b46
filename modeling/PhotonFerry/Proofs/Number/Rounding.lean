import Mathlib.Algebra.Group.Nat.Defs
import PhotonFerry.Number.Single
/-!
# Rounding undoes widening

A double has room for every single, so that widening keeps the value and narrowing finds
it again: a number comes back bit for bit, infinities and the two zeros among them, and so
does what is not a number if it is quiet. Only a signalling pattern is lost, since widening
makes it quiet.
-/

namespace PhotonFerry

theorem twoTo_eq_pow (exponent : Nat) : twoTo exponent = 2 ^ exponent := rfl

namespace Double

/-- The fields of a double. -/
structure Fits (sign exponent fraction : Nat) : Prop where
  sign_lt : sign < 2
  exponent_lt : exponent < 2 ^ 11
  fraction_lt : fraction < 2 ^ 52

variable {sign exponent fraction : Nat}

/-- The word of a double is made of its fields. -/
theorem toNat_bits_join (fits : Fits sign exponent fraction) :
    (join sign exponent fraction).bits.toNat = sign * 2 ^ 63 + exponent * 2 ^ 52 + fraction := by
  obtain ⟨signBound, exponentBound, fractionBound⟩ := fits
  exact UInt64.toNat_ofNat_of_lt' (by simp only [UInt64.size, twoTo_eq_pow]; omega)

/-- A double is narrowed field by field. -/
theorem toSingle_join (fits : Fits sign exponent fraction) :
    (join sign exponent fraction).toSingle =
      if exponent = 2047 then
        if fraction = 0 then ⟨.ofNat (sign * 2 ^ 31 + 0x7f800000)⟩
        else ⟨.ofNat (sign * 2 ^ 31 + 0x7fc00000 + fraction / 2 ^ 29 % 2 ^ 22)⟩
      else if exponent = 0 then ⟨.ofNat (sign * 2 ^ 31)⟩
      else if 897 ≤ exponent then
        ⟨.ofNat (sign * 2 ^ 31 + min ((exponent - 897) * 2 ^ 23 +
          Single.roundQuotient (2 ^ 52 + fraction) (2 ^ 29)) 0x7f800000)⟩
      else
        ⟨.ofNat (sign * 2 ^ 31 +
          Single.roundQuotient (2 ^ 52 + fraction) (2 ^ (926 - exponent)))⟩ := by
  obtain ⟨signBound, exponentBound, fractionBound⟩ := id fits
  have signField : (sign * 2 ^ 63 + exponent * 2 ^ 52 + fraction) / 2 ^ 63 = sign := by omega
  have exponentField :
      (sign * 2 ^ 63 + exponent * 2 ^ 52 + fraction) / 2 ^ 52 % 2 ^ 11 = exponent := by omega
  have fractionField : (sign * 2 ^ 63 + exponent * 2 ^ 52 + fraction) % 2 ^ 52 = fraction := by
    omega
  simp only [toSingle, toNat_bits_join fits, twoTo_eq_pow, signField, exponentField,
    fractionField]

end Double

namespace Single

open Double (join toSingle_join)

/-- A quotient that is whole is not rounded. -/
theorem roundQuotient_mul {quotient denominator : Nat} (positive : 0 < denominator) :
    roundQuotient (quotient * denominator) denominator = quotient := by
  simp [roundQuotient, Nat.mul_div_cancel _ positive, positive]

section Narrowing

variable {sign exponent fraction : Nat}

/-- The double of a number with a leading one is narrowed to that number. -/
theorem toSingle_normal (signBound : sign < 2) (exponentBound : exponent < 255)
    (normal : exponent ≠ 0) (fractionBound : fraction < 2 ^ 23) :
    (join sign (exponent + 896) (fraction * 2 ^ 29)).toSingle =
      ⟨.ofNat (sign * 2 ^ 31 + exponent * 2 ^ 23 + fraction)⟩ := by
  have exact : 2 ^ 52 + fraction * 2 ^ 29 = (2 ^ 23 + fraction) * 2 ^ 29 := by omega
  have magnitude : min ((exponent + 896 - 897) * 2 ^ 23 + (2 ^ 23 + fraction)) 0x7f800000 =
      exponent * 2 ^ 23 + fraction := by omega
  rw [toSingle_join ⟨signBound, by omega, by omega⟩, if_neg (by omega), if_neg (by omega),
    if_pos (by omega), exact, roundQuotient_mul (by decide), magnitude, Nat.add_assoc]

/-- The double of a number without a leading one has one, and is narrowed to that number. -/
theorem toSingle_subnormal (signBound : sign < 2) (nonzero : fraction ≠ 0)
    (fractionBound : fraction < 2 ^ 23) :
    (join sign (fraction.log2 + 874)
        ((fraction - 2 ^ fraction.log2) * 2 ^ (52 - fraction.log2))).toSingle =
      ⟨.ofNat (sign * 2 ^ 31 + fraction)⟩ := by
  have lower : 2 ^ fraction.log2 ≤ fraction := Nat.log2_self_le nonzero
  have upper : fraction < 2 ^ (fraction.log2 + 1) := Nat.lt_log2_self
  have short : fraction.log2 < 23 := (Nat.log2_lt nonzero).mpr fractionBound
  generalize fraction.log2 = top at lower upper short ⊢
  have room : 2 ^ top * 2 ^ (52 - top) = 2 ^ 52 := by
    rw [← Nat.pow_add, Nat.add_sub_cancel' (by omega)]
  have shifted : (fraction - 2 ^ top) * 2 ^ (52 - top) < 2 ^ 52 := by
    rw [← room]
    exact Nat.mul_lt_mul_of_pos_right (by omega) (Nat.two_pow_pos _)
  have exact : 2 ^ 52 + (fraction - 2 ^ top) * 2 ^ (52 - top) = fraction * 2 ^ (52 - top) := by
    rw [← room, ← Nat.add_mul, Nat.add_sub_cancel' lower]
  have places : 926 - (top + 874) = 52 - top := by omega
  rw [toSingle_join ⟨signBound, by omega, shifted⟩, if_neg (by omega), if_neg (by omega),
    if_neg (by omega), exact, places, roundQuotient_mul (Nat.two_pow_pos _)]

/-- The double of what is not a number is narrowed to the quiet pattern with its sign and
payload. -/
theorem toSingle_quiet (signBound : sign < 2) (fractionBound : fraction < 2 ^ 22) :
    (join sign 2047 (2 ^ 51 + fraction * 2 ^ 29)).toSingle =
      ⟨.ofNat (sign * 2 ^ 31 + 0x7fc00000 + fraction)⟩ := by
  have payload : (2 ^ 51 + fraction * 2 ^ 29) / 2 ^ 29 % 2 ^ 22 = fraction := by omega
  rw [toSingle_join ⟨signBound, by omega, by omega⟩, if_pos rfl, if_neg (by omega), payload]

end Narrowing

variable {single : Single}

/-- It is not a number, and its quiet bit is not set: the exponent field is full, and of the
fraction only bits below the first. -/
def IsSignalling (single : Single) : Prop :=
  0x7f800000 < single.bits.toNat % 2 ^ 31 ∧ single.bits.toNat % 2 ^ 31 < 0x7fc00000

/-- A single is known by the number of its word. -/
theorem mk_ofNat_eq_iff {word : Nat} (bound : word < 2 ^ 32) :
    (⟨.ofNat word⟩ : Single) = single ↔ word = single.bits.toNat := by
  constructor
  · rintro rfl
    exact (UInt32.toNat_ofNat_of_lt' bound).symm
  · rintro rfl
    rw [UInt32.ofNat_toNat]

/-- A single is widened field by field. -/
theorem toDouble_of_fields {sign exponent fraction : Nat}
    (signField : single.bits.toNat / 2 ^ 31 = sign)
    (exponentField : single.bits.toNat / 2 ^ 23 % 2 ^ 8 = exponent)
    (fractionField : single.bits.toNat % 2 ^ 23 = fraction) :
    single.toDouble =
      if exponent = 255 then
        if fraction = 0 then join sign 2047 0
        else join sign 2047 (2 ^ 51 + fraction % 2 ^ 22 * 2 ^ 29)
      else if exponent = 0 then
        if fraction = 0 then join sign 0 0
        else join sign (fraction.log2 + 874)
          ((fraction - 2 ^ fraction.log2) * 2 ^ (52 - fraction.log2))
      else join sign (exponent + 896) (fraction * 2 ^ 29) := by
  subst signField exponentField fractionField
  rfl

/-- Rounding undoes widening of everything but the signalling patterns. -/
theorem toSingle_toDouble_iff : single.toDouble.toSingle = single ↔ ¬single.IsSignalling := by
  have wordBound : single.bits.toNat < 2 ^ 32 := single.bits.toNat_lt
  unfold IsSignalling
  obtain ⟨sign, signField⟩ : ∃ sign, single.bits.toNat / 2 ^ 31 = sign := ⟨_, rfl⟩
  obtain ⟨exponent, exponentField⟩ : ∃ exponent, single.bits.toNat / 2 ^ 23 % 2 ^ 8 = exponent :=
    ⟨_, rfl⟩
  obtain ⟨fraction, fractionField⟩ : ∃ fraction, single.bits.toNat % 2 ^ 23 = fraction := ⟨_, rfl⟩
  rw [toDouble_of_fields signField exponentField fractionField]
  -- An infinity, not a number, a zero, a number without a leading one, and one that has it.
  split
  case isTrue full =>
    split
    case isTrue none =>
      rw [toSingle_join ⟨by omega, by omega, by omega⟩, if_pos rfl, if_pos rfl,
        mk_ofNat_eq_iff (by omega)]
      omega
    case isFalse payload =>
      rw [toSingle_quiet (by omega) (by omega), mk_ofNat_eq_iff (by omega)]
      omega
  case isFalse finite =>
    split
    case isTrue low =>
      split
      case isTrue none =>
        rw [toSingle_join ⟨by omega, by omega, by omega⟩, if_neg (by decide), if_pos rfl,
          mk_ofNat_eq_iff (by omega)]
        omega
      case isFalse subnormal =>
        rw [toSingle_subnormal (by omega) subnormal (by omega), mk_ofNat_eq_iff (by omega)]
        omega
    case isFalse normal =>
      rw [toSingle_normal (by omega) (by omega) normal (by omega), mk_ofNat_eq_iff (by omega)]
      omega

end Single

end PhotonFerry
