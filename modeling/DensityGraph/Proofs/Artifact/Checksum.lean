import DensityGraph.Artifact.Frame
import Mathlib.Data.Nat.Bitwise
import Mathlib.Logic.Function.Basic

/-!
# Checksums of changed bytes

No step of the division loses anything: the lowest bit of a remainder is the
highest bit of the shifted one, because the polynomial has that bit.  So a byte
that is changed is still seen in the remainder behind it, and in the checksum,
however many bytes follow.
-/

namespace DensityGraph.Artifact

variable {remainder : UInt32} {bytes : Bytes}

theorem odd_iff : remainder &&& 1 = 1 ↔ remainder.toNat % 2 = 1 := by
  rw [← UInt32.toNat_inj, UInt32.toNat_and]
  exact iff_of_eq (congrArg (· = 1) (Nat.and_one_is_mod remainder.toNat))

theorem toNat_half : (remainder >>> 1).toNat = remainder.toNat / 2 := by
  rw [UInt32.toNat_shiftRight]
  exact Nat.shiftRight_eq_div_pow _ 1

theorem half_inj {other : UInt32} (sameParity : remainder.toNat % 2 = other.toNat % 2)
    (sameHalf : remainder >>> 1 = other >>> 1) : remainder = other := by
  rw [← UInt32.toNat_inj, toNat_half, toNat_half] at sameHalf
  rw [← UInt32.toNat_inj]
  omega

/-- The polynomial takes a half out of the range of halves. -/
theorem half_xor_ne (remainder other : UInt32) : (remainder >>> 1) ^^^ polynomial ≠ other >>> 1 := by
  intro same
  have isolated : polynomial = (remainder >>> 1) ^^^ (other >>> 1) := by
    rw [← same, ← UInt32.xor_assoc, UInt32.xor_self, UInt32.zero_xor]
  -- two halves leave the highest bit clear, which the polynomial has set
  have low : ((remainder >>> 1) ^^^ (other >>> 1)).toNat < 2 ^ 31 := by
    rw [UInt32.toNat_xor, toNat_half, toNat_half]
    have bounded := remainder.toNat_lt
    have boundedToo := other.toNat_lt
    apply Nat.xor_lt_two_pow
    · omega
    · omega
  rw [← isolated] at low
  exact absurd low (by decide)

theorem shift_injective : Function.Injective shift := by
  intro first second same
  unfold shift at same
  split at same
  case isTrue odd =>
    split at same
    case isTrue oddToo =>
      rw [odd_iff] at odd oddToo
      exact half_inj (odd.trans oddToo.symm) (UInt32.xor_left_inj _ |>.1 same)
    case isFalse => exact absurd same (half_xor_ne first second)
  case isFalse even =>
    split at same
    case isTrue => exact absurd same.symm (half_xor_ne second first)
    case isFalse evenToo =>
      rw [odd_iff] at even evenToo
      exact half_inj (by omega) same

theorem shifts_injective (count : Nat) : Function.Injective (shifts count) := by
  induction count with
  | zero => exact Function.injective_id
  | succ count ih => exact ih.comp shift_injective

theorem feed_left_injective (byte : UInt8) : Function.Injective fun remainder => feed remainder byte := by
  intro first second same
  exact (UInt32.xor_left_inj _).1 (shifts_injective 8 same)

theorem feed_right_injective (remainder : UInt32) : Function.Injective (feed remainder) := by
  intro first second same
  exact UInt8.toUInt32_inj.1 ((UInt32.xor_right_inj _).1 (shifts_injective 8 same))

/-- What is fed to two different remainders does not make them the same. -/
theorem foldl_feed_injective (bytes : Bytes) : Function.Injective fun remainder => bytes.foldl feed remainder := by
  induction bytes with
  | nil => exact Function.injective_id
  | cons byte rest ih => exact ih.comp (feed_left_injective byte)

/-- A single byte that is changed changes the remainder. -/
theorem foldl_feed_set_ne {position : Nat} {old new : UInt8} (found : bytes[position]? = some old)
    (different : new ≠ old) : (bytes.set position new).foldl feed remainder ≠ bytes.foldl feed remainder := by
  induction bytes generalizing position remainder with
  | nil => cases found
  | cons byte rest ih =>
      cases position with
      | zero =>
          obtain rfl : byte = old := Option.some.inj found
          intro same
          have sameHere : feed remainder new = feed remainder byte := foldl_feed_injective rest same
          exact different (feed_right_injective remainder sameHere)
      | succ position => exact ih found

theorem checksum_set_ne {position : Nat} {old new : UInt8} (found : bytes[position]? = some old)
    (different : new ≠ old) : checksum (bytes.set position new) ≠ checksum bytes := by
  intro same
  exact foldl_feed_set_ne found different ((UInt32.xor_left_inj _).1 same)

end DensityGraph.Artifact
