import Mathlib.Algebra.Order.Field.Basic
import Mathlib.Algebra.Order.Field.Power
import Mathlib.Data.Int.Log
import Mathlib.Data.Rat.Floor
import Mathlib.Tactic.FieldSimp
import Mathlib.Tactic.Linarith
import Mathlib.Tactic.Ring
import CypherLink.Number.Binary64

/-!
Rounding to floating-point numbers. The result depends on the quotient alone, and a number that can
be held is its own rounding. Main statements: `ofFraction_mul` and `ofFraction_fraction`.
-/

namespace CypherLink.Binary64

/-- The exponent at which the mantissa of a positive fraction has 53 bits. -/
def topExponent (num den : Nat) : Int :=
  let low : Int := (Nat.log2 num : Int) - (Nat.log2 den : Int) - 53
  if 2 ^ (53 : Nat) * (scaled num den low).2 ≤ (scaled num den low).1 then low + 1 else low

/-- The fraction rounded at an exponent. -/
def rounded (negative : Bool) (num den : Nat) (e : Int) : Binary64 :=
  let m := roundDiv (scaled num den e).1 (scaled num den e).2
  let r := if m = 2 ^ (53 : Nat) then (2 ^ (52 : Nat), e + 1) else (m, e)
  if greatestExponent < r.2 then .infinity negative
  else .finite negative r.1 (if r.1 = 0 then leastExponent else r.2)

theorem ofFraction_eq (negative : Bool) (num den : Nat) :
    ofFraction negative num den =
      rounded negative num den (max (topExponent num den) leastExponent) := rfl

section Scaled

variable {num den : Nat} (e : Int)

theorem scaled_pos (hd : 0 < den) : 0 < (scaled num den e).2 := by
  unfold scaled
  split
  · exact Nat.mul_pos hd (Nat.pow_pos (by decide))
  · exact hd

theorem scaled_mul (c : Nat) :
    scaled (num * c) (den * c) e = ((scaled num den e).1 * c, (scaled num den e).2 * c) := by
  unfold scaled
  split
  · rw [Nat.mul_right_comm]
  · rw [Nat.mul_right_comm]

/-- The quotient is divided by the power of two. -/
theorem scaled_div (num den : Nat) (e : Int) :
    ((scaled num den e).1 : ℚ) / (scaled num den e).2 = num / den * 2 ^ (-e) := by
  unfold scaled
  split
  · next he =>
    obtain ⟨n, rfl⟩ := Int.eq_ofNat_of_zero_le he
    have hn : (n : Int).toNat = n := Int.toNat_natCast n
    rw [hn]
    push_cast
    rw [zpow_neg, zpow_natCast]
    field_simp
  · next he =>
    obtain ⟨n, hn⟩ := Int.eq_ofNat_of_zero_le (show 0 ≤ -e by omega)
    rw [hn, Int.toNat_natCast, zpow_natCast]
    push_cast
    ring

end Scaled

/-- The integer logarithm is told by the powers on both sides. -/
theorem log_eq {q : ℚ} {k : Int} (hq : 0 < q) (hlow : 2 ^ k ≤ q) (hhigh : q < 2 ^ (k + 1)) :
    Int.log 2 q = k := by
  have hle : k ≤ Int.log 2 q := (Int.zpow_le_iff_le_log (by decide) hq).mp (by exact_mod_cast hlow)
  have hlt : Int.log 2 q < k + 1 :=
    (Int.lt_zpow_iff_log_lt (by decide) hq).mp (by exact_mod_cast hhigh)
  omega

section TopExponent

variable {num den : Nat} (hn : 0 < num) (hd : 0 < den)

include hn hd

theorem bounds_of_log2 :
    (2 : ℚ) ^ ((Nat.log2 num : Int) - Nat.log2 den - 1) < num / den ∧
      (num : ℚ) / den < 2 ^ ((Nat.log2 num : Int) - Nat.log2 den + 1) := by
  have hnum : (2 : ℚ) ^ (Nat.log2 num : Int) ≤ num := by
    rw [zpow_natCast]
    exact_mod_cast Nat.log2_self_le (by omega)
  have hnum' : (num : ℚ) < 2 ^ ((Nat.log2 num : Int) + 1) := by
    have h := Nat.lt_log2_self (n := num)
    exact_mod_cast h
  have hden : (2 : ℚ) ^ (Nat.log2 den : Int) ≤ den := by
    rw [zpow_natCast]
    exact_mod_cast Nat.log2_self_le (by omega)
  have hden' : (den : ℚ) < 2 ^ ((Nat.log2 den : Int) + 1) := by
    have h := Nat.lt_log2_self (n := den)
    exact_mod_cast h
  have hpos : (0 : ℚ) < den := by exact_mod_cast hd
  constructor
  · rw [lt_div_iff₀ hpos]
    calc (2 : ℚ) ^ ((Nat.log2 num : Int) - Nat.log2 den - 1) * den
        < 2 ^ ((Nat.log2 num : Int) - Nat.log2 den - 1) * 2 ^ ((Nat.log2 den : Int) + 1) := by
          gcongr
      _ = 2 ^ (Nat.log2 num : Int) := by
          rw [← zpow_add₀ two_ne_zero]
          congr 1
          ring
      _ ≤ num := hnum
  · rw [div_lt_iff₀ hpos]
    calc (num : ℚ) < 2 ^ ((Nat.log2 num : Int) + 1) := hnum'
      _ = 2 ^ ((Nat.log2 num : Int) - Nat.log2 den + 1) * 2 ^ (Nat.log2 den : Int) := by
          rw [← zpow_add₀ two_ne_zero]
          congr 1
          ring
      _ ≤ 2 ^ ((Nat.log2 num : Int) - Nat.log2 den + 1) * den := by
          gcongr

theorem topExponent_eq : topExponent num den = Int.log 2 ((num : ℚ) / den) - 52 := by
  obtain ⟨hlow, hhigh⟩ := bounds_of_log2 hn hd
  have hq : (0 : ℚ) < num / den := by positivity
  unfold topExponent
  generalize hl : (Nat.log2 num : Int) - (Nat.log2 den : Int) - 53 = low at *
  have hpos : (0 : ℚ) < (scaled num den low).2 := by exact_mod_cast scaled_pos low hd
  have htest : 2 ^ (53 : Nat) * (scaled num den low).2 ≤ (scaled num den low).1 ↔
      (2 : ℚ) ^ (low + 53) ≤ num / den := by
    have hcast : 2 ^ (53 : Nat) * (scaled num den low).2 ≤ (scaled num den low).1 ↔
        (2 : ℚ) ^ (53 : Nat) * (scaled num den low).2 ≤ (scaled num den low).1 := by
      exact_mod_cast Iff.rfl
    rw [hcast, ← le_div_iff₀ hpos, scaled_div, zpow_neg, ← div_eq_mul_inv,
      le_div_iff₀ (by positivity), ← zpow_natCast, ← zpow_add₀ two_ne_zero, add_comm low]
    rfl
  have hlow : (2 : ℚ) ^ (low + 52) ≤ num / den := by
    rw [show low + 52 = (Nat.log2 num : Int) - Nat.log2 den - 1 by omega]
    exact le_of_lt hlow
  have hhigh : (num : ℚ) / den < 2 ^ (low + 53 + 1) := by
    rw [show low + 53 + 1 = (Nat.log2 num : Int) - Nat.log2 den + 1 by omega]
    exact hhigh
  dsimp only
  split
  · next h =>
    have hk : Int.log 2 ((num : ℚ) / den) = low + 53 := log_eq hq (htest.mp h) hhigh
    omega
  · next h =>
    have htop : (num : ℚ) / den < 2 ^ (low + 52 + 1) := by
      rw [htest, not_le] at h
      rw [show low + 52 + 1 = low + 53 by omega]
      exact h
    have hk : Int.log 2 ((num : ℚ) / den) = low + 52 := log_eq hq hlow htop
    omega

end TopExponent

theorem roundDiv_mul_mul (num den : Nat) {c : Nat} (hc : 0 < c) :
    roundDiv (num * c) (den * c) = roundDiv num den := by
  have hbelow : 2 * (num % den * c) < den * c ↔ 2 * (num % den) < den := by
    rw [← Nat.mul_assoc, Nat.mul_lt_mul_right hc]
  have habove : den * c < 2 * (num % den * c) ↔ den < 2 * (num % den) := by
    rw [← Nat.mul_assoc, Nat.mul_lt_mul_right hc]
  unfold roundDiv
  simp only [Nat.mul_div_mul_right _ _ hc, Nat.mul_mod_mul_right, hbelow, habove]

/-- A fraction is rounded as the quotient that it is. -/
theorem ofFraction_mul (negative : Bool) {num den c : Nat} (hn : 0 < num) (hd : 0 < den)
    (hc : 0 < c) : ofFraction negative (num * c) (den * c) = ofFraction negative num den := by
  have hquotient : ((num * c : Nat) : ℚ) / (den * c : Nat) = num / den := by
    push_cast
    rw [mul_div_mul_right]
    exact_mod_cast hc.ne'
  have htop : topExponent (num * c) (den * c) = topExponent num den := by
    rw [topExponent_eq (Nat.mul_pos hn hc) (Nat.mul_pos hd hc), topExponent_eq hn hd, hquotient]
  rw [ofFraction_eq, ofFraction_eq, htop, rounded, rounded, scaled_mul, roundDiv_mul_mul _ _ hc]

/-- A finite number has at most 53 bits, and less only at the least exponent. -/
def Proper : Binary64 → Prop
  | .finite _ m e =>
    m < 2 ^ (53 : Nat) ∧ leastExponent ≤ e ∧ e ≤ greatestExponent ∧
      (2 ^ (52 : Nat) ≤ m ∨ e = leastExponent)
  | _ => True

instance (x : Binary64) : Decidable x.Proper := by
  cases x <;> (unfold Proper; infer_instance)

section Fraction

variable {m : Nat} {e : Int}

theorem fraction_pos : 0 < (fraction m e).2 := by
  unfold fraction
  split
  · exact Nat.one_pos
  · exact Nat.pow_pos (by decide)

theorem fraction_div : ((fraction m e).1 : ℚ) / (fraction m e).2 = m * 2 ^ e := by
  unfold fraction
  split
  · next he =>
    obtain ⟨n, rfl⟩ := Int.eq_ofNat_of_zero_le he
    rw [Int.toNat_natCast, zpow_natCast]
    push_cast
    rw [div_one]
  · next he =>
    obtain ⟨n, hn⟩ := Int.eq_ofNat_of_zero_le (show 0 ≤ -e by omega)
    obtain rfl : e = -n := by omega
    rw [neg_neg, Int.toNat_natCast, zpow_neg, zpow_natCast]
    push_cast
    rw [div_eq_mul_inv]

theorem fraction_pos_left (hm : m ≠ 0) : 0 < (fraction m e).1 := by
  unfold fraction
  split
  · exact Nat.mul_pos (Nat.pos_of_ne_zero hm) (Nat.pow_pos (by decide))
  · exact Nat.pos_of_ne_zero hm

/-- The exponent of a number is the one at which it is rounded. -/
theorem max_topExponent {negative : Bool} (h : Proper (.finite negative m e)) (hm : m ≠ 0) :
    max (topExponent (fraction m e).1 (fraction m e).2) leastExponent = e := by
  obtain ⟨hbits, hleast, -, hcanonical⟩ := h
  have hpos : (0 : ℚ) < m * 2 ^ e := by positivity
  have hhigh : (m : ℚ) * 2 ^ e < 2 ^ (e + 53) := by
    rw [add_comm, zpow_add₀ two_ne_zero]
    gcongr
    exact_mod_cast hbits
  rw [topExponent_eq (fraction_pos_left hm) fraction_pos, fraction_div]
  by_cases hfull : 2 ^ (52 : Nat) ≤ m
  · have hlow : (2 : ℚ) ^ (e + 52) ≤ m * 2 ^ e := by
      rw [add_comm, zpow_add₀ two_ne_zero]
      gcongr
      exact_mod_cast hfull
    have hk : Int.log 2 ((m : ℚ) * 2 ^ e) = e + 52 := by
      apply log_eq hpos hlow
      rw [show e + 52 + 1 = e + 53 by omega]
      exact hhigh
    omega
  · have hsmall : (m : ℚ) * 2 ^ e < 2 ^ (e + 52) := by
      rw [add_comm, zpow_add₀ two_ne_zero]
      gcongr
      exact_mod_cast Nat.lt_of_not_le hfull
    have hk : Int.log 2 ((m : ℚ) * 2 ^ e) < e + 52 :=
      (Int.lt_zpow_iff_log_lt (by decide) hpos).mp (by exact_mod_cast hsmall)
    have he : e = leastExponent := hcanonical.resolve_left hfull
    omega

/-- A number that can be held is its own rounding. -/
theorem ofFraction_fraction {negative : Bool} (h : Proper (.finite negative m e)) (hm : m ≠ 0) :
    ofFraction negative (fraction m e).1 (fraction m e).2 = .finite negative m e := by
  have hexact : (scaled (fraction m e).1 (fraction m e).2 e).1 =
      m * (scaled (fraction m e).1 (fraction m e).2 e).2 := by
    have hden : (0 : ℚ) < (scaled (fraction m e).1 (fraction m e).2 e).2 := by
      exact_mod_cast scaled_pos e fraction_pos
    have hdiv := scaled_div (fraction m e).1 (fraction m e).2 e
    rw [fraction_div, mul_assoc, ← zpow_add₀ two_ne_zero, add_neg_cancel, zpow_zero, mul_one,
      div_eq_iff hden.ne'] at hdiv
    exact_mod_cast hdiv
  obtain ⟨hbits, -, hgreatest, -⟩ := id h
  rw [ofFraction_eq, max_topExponent h hm, rounded, hexact,
    roundDiv_mul _ _ (scaled_pos e fraction_pos), if_neg (Nat.ne_of_lt hbits)]
  dsimp only
  rw [if_neg (by omega), if_neg hm]

end Fraction

end CypherLink.Binary64
