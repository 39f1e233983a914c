import Mathlib.Algebra.Field.ZMod
import Mathlib.Data.Nat.Bitwise
import Mathlib.RingTheory.AdjoinRoot
import Mathlib.Tactic.ComputeDegree
import SlotRouter.Slot.Checksum

/-!
# The checksum is the remainder of a division

Bits are read as the coefficients of a polynomial over the field of two elements.

* `toPoly n` : the polynomial with the bits of a number; exclusive or is its sum (`toPoly_xor`) and
  a shift its product with a power of `X` (`toPoly_shiftLeft`);
* `checksumDivisor`, `messagePoly bytes` : what is divided by, and the bits of all bytes in turn;
* `residue p` : what is left of `p` modulo the divisor; one step of the division multiplies it by
  `X` (`residue_shiftBit`), a byte is taken in by eight of them (`residue_pushByte`);
* `checksum_remainder` : the checksum is the remainder of the message with sixteen zero bits after
  it, by induction on the bytes.
-/

namespace SlotRouter
open Polynomial

/-! ## Bits as coefficients -/

/-- The polynomial with bit `i` of a number as its coefficient `i`. -/
noncomputable def toPoly (n : ℕ) : (ZMod 2)[X] :=
  ∑ i ∈ Finset.range n, if n.testBit i then X ^ i else 0

section Bits

variable {n : ℕ}

theorem coeff_toPoly (n i : ℕ) : (toPoly n).coeff i = if n.testBit i then 1 else 0 := by
  have hterm : ∀ j, (if n.testBit j then (X : (ZMod 2)[X]) ^ j else 0).coeff i =
      if j = i then (if n.testBit i then 1 else 0) else 0 := by
    intro j
    by_cases hj : j = i
    · subst hj
      cases n.testBit j <;> simp
    · cases n.testBit j <;> simp [coeff_X_pow, hj, Ne.symm hj]
  rw [toPoly, finsetSum_coeff, Finset.sum_congr rfl fun j _ => hterm j, Finset.sum_ite_eq']
  by_cases hi : i < n
  · rw [if_pos (Finset.mem_range.2 hi)]
  · -- a number has no bits from its own value on
    have hlt : n < 2 ^ i := (Nat.le_of_not_lt hi).trans_lt Nat.lt_two_pow_self
    rw [if_neg (fun h => hi (Finset.mem_range.1 h)), Nat.testBit_lt_two_pow hlt,
      if_neg Bool.false_ne_true]

theorem toPoly_zero : toPoly 0 = 0 := rfl

theorem bit_add (x y : Bool) : ((if x then 1 else 0) + (if y then 1 else 0) : ZMod 2) =
    if x ^^ y then 1 else 0 := by
  cases x <;> cases y <;> decide

theorem toPoly_xor (a b : ℕ) : toPoly (a ^^^ b) = toPoly a + toPoly b := by
  ext i
  rw [coeff_add, coeff_toPoly, coeff_toPoly, coeff_toPoly, Nat.testBit_xor, bit_add]

theorem toPoly_shiftLeft (n k : ℕ) : toPoly (n <<< k) = X ^ k * toPoly n := by
  ext i
  rw [coeff_X_pow_mul', coeff_toPoly, Nat.testBit_shiftLeft, coeff_toPoly]
  by_cases h : k ≤ i <;> simp [h]

/-- The bits below `k + 1` are those below `k` and bit `k`. -/
theorem toPoly_mod_two_pow_succ (n k : ℕ) : toPoly (n % 2 ^ (k + 1)) =
    toPoly (n % 2 ^ k) + if n.testBit k then X ^ k else 0 := by
  ext i
  rw [coeff_add, coeff_toPoly, coeff_toPoly, Nat.testBit_mod_two_pow, Nat.testBit_mod_two_pow]
  rcases lt_trichotomy i k with hik | rfl | hik
  · cases n.testBit k <;> simp [coeff_X_pow, hik, hik.ne, Nat.lt_succ_of_lt hik]
  · cases n.testBit i <;> simp
  · have hout : ¬ i < k + 1 := by omega
    cases n.testBit k <;> simp [coeff_X_pow, hik.ne', hik.not_gt, hout]

theorem degree_toPoly_lt {w : ℕ} (h : n < 2 ^ w) : (toPoly n).degree < w := by
  rw [degree_lt_iff_coeff_zero]
  intro i hi
  have hbit : n.testBit i = false :=
    Nat.testBit_lt_two_pow (h.trans_le (Nat.pow_le_pow_right two_pos hi))
  rw [coeff_toPoly, hbit, if_neg Bool.false_ne_true]

end Bits

/-! ## The division -/

/-- The polynomial that is divided by. -/
noncomputable def checksumDivisor : (ZMod 2)[X] := X ^ 16 + X ^ 12 + X ^ 5 + 1

/-- The bits of all bytes in turn, the first one as the leading coefficient. -/
noncomputable def messagePoly (bytes : List UInt8) : (ZMod 2)[X] :=
  bytes.foldl (fun m b => X ^ 8 * m + toPoly b.toNat) 0

theorem checksumDivisor_monic : checksumDivisor.Monic := by
  unfold checksumDivisor
  monicity!

theorem degree_checksumDivisor : checksumDivisor.degree = 16 := by
  unfold checksumDivisor
  compute_degree!

theorem toPoly_checksumPolynomial : toPoly checksumPolynomial.toNat = X ^ 12 + X ^ 5 + 1 := by
  have hbits : checksumPolynomial.toNat = (1 <<< 12) ^^^ (1 <<< 5) ^^^ 1 := by decide
  have hone : toPoly 1 = 1 := by simp [toPoly]
  rw [hbits, toPoly_xor, toPoly_xor, toPoly_shiftLeft, toPoly_shiftLeft, hone, mul_one, mul_one]

/-- What is left of a polynomial modulo the divisor. -/
noncomputable def residue (p : (ZMod 2)[X]) : AdjoinRoot checksumDivisor :=
  AdjoinRoot.mk checksumDivisor p

theorem residue_eq_iff {p q : (ZMod 2)[X]} : residue p = residue q ↔ checksumDivisor ∣ p - q :=
  AdjoinRoot.mk_eq_mk

theorem residue_add (p q : (ZMod 2)[X]) : residue (p + q) = residue p + residue q :=
  map_add (AdjoinRoot.mk checksumDivisor) p q

theorem residue_mul (p q : (ZMod 2)[X]) : residue (p * q) = residue p * residue q :=
  map_mul (AdjoinRoot.mk checksumDivisor) p q

/-- The bits of a checksum. -/
noncomputable def crcPoly (crc : UInt16) : (ZMod 2)[X] := toPoly crc.toNat

theorem crcPoly_xor (a b : UInt16) : crcPoly (a ^^^ b) = crcPoly a + crcPoly b := by
  rw [crcPoly, UInt16.toNat_xor, toPoly_xor]
  rfl

/-- A shift loses the highest bit. -/
theorem crcPoly_shiftLeft_one (crc : UInt16) :
    crcPoly (crc <<< 1) + (if crc.toNat.testBit 15 then X ^ 16 else 0) = X * crcPoly crc := by
  have hlt : crc.toNat <<< 1 < 2 ^ 17 := by
    have := crc.toNat_lt
    omega
  have hshift : (crc <<< 1).toNat = crc.toNat <<< 1 % 2 ^ 16 := by
    rw [UInt16.toNat_shiftLeft]
    rfl
  have htop : crc.toNat.testBit 15 = (crc.toNat <<< 1).testBit 16 := by
    rw [Nat.testBit_shiftLeft]
    rfl
  rw [crcPoly, crcPoly, hshift, htop, ← toPoly_mod_two_pow_succ, Nat.mod_eq_of_lt hlt,
    toPoly_shiftLeft, pow_one]

theorem and_highest_eq_zero_iff (crc : UInt16) :
    crc &&& 0x8000 = 0 ↔ crc.toNat.testBit 15 = false := by
  have hand : (crc &&& 0x8000).toNat = (crc.toNat.testBit 15).toNat * 2 ^ 15 := by
    rw [UInt16.toNat_and, ← Nat.and_two_pow]
    rfl
  rw [← UInt16.toNat_inj, hand]
  cases crc.toNat.testBit 15 <;> simp

theorem residue_shiftBit (crc : UInt16) :
    residue (crcPoly (shiftBit crc)) = residue (X * crcPoly crc) := by
  rw [shiftBit, ← crcPoly_shiftLeft_one]
  cases htop : crc.toNat.testBit 15 with
  | false => rw [if_pos ((and_highest_eq_zero_iff crc).2 htop), if_neg Bool.false_ne_true, add_zero]
  | true =>
    have hhigh : ¬ crc &&& 0x8000 = 0 := by
      rw [and_highest_eq_zero_iff, htop]
      exact nofun
    rw [if_neg hhigh, if_pos rfl, crcPoly_xor, residue_eq_iff]
    -- the two differ by the divisor, as a sign does not matter
    have hsub : crcPoly (crc <<< 1) + crcPoly checksumPolynomial - (crcPoly (crc <<< 1) + X ^ 16) =
        checksumDivisor := by
      rw [crcPoly, crcPoly, toPoly_checksumPolynomial, checksumDivisor, add_sub_add_left_eq_sub,
        CharTwo.sub_eq_add]
      ring
    rw [hsub]

theorem residue_repeat (k : ℕ) (crc : UInt16) :
    residue (crcPoly (Nat.repeat shiftBit k crc)) = residue (X ^ k * crcPoly crc) := by
  induction k with
  | zero =>
    rw [pow_zero, one_mul]
    rfl
  | succ k ih =>
    calc residue (crcPoly (shiftBit (Nat.repeat shiftBit k crc)))
        = residue X * residue (crcPoly (Nat.repeat shiftBit k crc)) := by
          rw [residue_shiftBit, residue_mul]
      _ = residue X * residue (X ^ k * crcPoly crc) := by rw [ih]
      _ = residue (X ^ (k + 1) * crcPoly crc) := by rw [← residue_mul, pow_succ', mul_assoc]

theorem crcPoly_high (b : UInt8) : crcPoly (b.toUInt16 <<< 8) = X ^ 8 * toPoly b.toNat := by
  have hshift : (b.toUInt16 <<< 8).toNat = b.toNat <<< 8 := by
    have := b.toNat_lt
    rw [UInt16.toNat_shiftLeft, UInt8.toNat_toUInt16]
    have hlt : b.toNat <<< 8 < 2 ^ 16 := by omega
    exact Nat.mod_eq_of_lt hlt
  rw [crcPoly, hshift, toPoly_shiftLeft]

theorem residue_pushByte (crc : UInt16) (b : UInt8) : residue (crcPoly (pushByte crc b)) =
    residue (X ^ 8 * (crcPoly crc + X ^ 8 * toPoly b.toNat)) := by
  rw [pushByte, residue_repeat, crcPoly_xor, crcPoly_high]

/-- Taking in bytes keeps the checksum the residue of the message so far. -/
theorem residue_foldl (bytes : List UInt8) {crc : UInt16} {m : (ZMod 2)[X]}
    (h : residue (crcPoly crc) = residue (X ^ 16 * m)) :
    residue (crcPoly (bytes.foldl pushByte crc)) =
      residue (X ^ 16 * bytes.foldl (fun m b => X ^ 8 * m + toPoly b.toNat) m) := by
  induction bytes generalizing crc m with
  | nil => exact h
  | cons b rest ih =>
    apply ih
    have hmessage : X ^ 8 * (X ^ 16 * m + X ^ 8 * toPoly b.toNat) =
        X ^ 16 * (X ^ 8 * m + toPoly b.toNat) := by
      ring
    rw [residue_pushByte, residue_mul, residue_add, h, ← residue_add, ← residue_mul, hmessage]

/-- The checksum is the remainder of the message, with sixteen zero bits after it, modulo the
divisor. -/
theorem checksum_remainder (bytes : List UInt8) :
    toPoly (checksum bytes).toNat = (X ^ 16 * messagePoly bytes) %ₘ checksumDivisor := by
  have hstart : residue (crcPoly 0) = residue (X ^ 16 * 0) := by
    rw [mul_zero]
    exact congrArg residue toPoly_zero
  obtain ⟨q, hq⟩ := residue_eq_iff.1 (residue_foldl bytes hstart)
  have hdegree : (toPoly (checksum bytes).toNat).degree < checksumDivisor.degree := by
    rw [degree_checksumDivisor]
    exact degree_toPoly_lt (checksum bytes).toNat_lt
  have hdivision : toPoly (checksum bytes).toNat + checksumDivisor * -q =
      X ^ 16 * messagePoly bytes := by
    rw [mul_neg, ← hq]
    change toPoly (checksum bytes).toNat + -(toPoly (checksum bytes).toNat - _) = _
    rw [neg_sub, add_sub_cancel]
    rfl
  exact ((div_modByMonic_unique (-q) _ checksumDivisor_monic ⟨hdivision, hdegree⟩).2).symm

end SlotRouter
