import CypherLink.Number.Shortest
import CypherLink.Proofs.Number.Digits
import CypherLink.Proofs.Number.Rounding

/-!
Decimals and the numbers that they read as. Zeros at the end of the digits may be moved to the
exponent, and the shortest decimal of a number reads as that number. Main statements:
`ofDecimal_mul_pow` and `ofDecimal_shortest`.
-/

namespace CypherLink.Binary64

/-- The number nearest to `digits · 10 ^ e`, without regard to its size. -/
def nearest (negative : Bool) (digits : Nat) (e : Int) : Binary64 :=
  if 0 ≤ e then ofFraction negative (digits * 10 ^ e.toNat) 1
  else ofFraction negative digits (10 ^ (-e).toNat)

theorem ofDecimal_eq (negative : Bool) (digits : Nat) (e : Int) :
    ofDecimal negative digits e =
      if digits = 0 ∨ (Nat.toDigits 10 digits).length + e < -400 then zero negative
      else if 400 < (Nat.toDigits 10 digits).length + e then .infinity negative
      else nearest negative digits e := rfl

/-- The exponent may be split into one above and one below the line. -/
theorem nearest_sub (negative : Bool) {digits : Nat} (h : digits ≠ 0) (a b : Nat) :
    nearest negative digits (a - b) = ofFraction negative (digits * 10 ^ a) (10 ^ b) := by
  have hpos : 0 < digits := Nat.pos_of_ne_zero h
  have hpow : ∀ k : Nat, 0 < 10 ^ k := fun k => Nat.pow_pos (by decide)
  unfold nearest
  split
  · next hab =>
    obtain ⟨c, rfl⟩ := Nat.exists_eq_add_of_le (show b ≤ a by omega)
    rw [show ((b + c : Nat) - b : Int).toNat = c by omega, Nat.add_comm, Nat.pow_add, ← Nat.mul_assoc]
    have hmul := ofFraction_mul negative (Nat.mul_pos hpos (hpow c)) Nat.one_pos (hpow b)
    rw [Nat.one_mul] at hmul
    exact hmul.symm
  · next hab =>
    obtain ⟨c, rfl⟩ := Nat.exists_eq_add_of_le (show a ≤ b by omega)
    rw [show (-((a : Int) - (a + c : Nat))).toNat = c by omega, Nat.add_comm, Nat.pow_add]
    exact (ofFraction_mul negative hpos (hpow c) (hpow a)).symm

theorem ofDecimal_mul_pow (negative : Bool) (digits k : Nat) (e : Int) :
    ofDecimal negative (digits * 10 ^ k) e = ofDecimal negative digits (e + k) := by
  rw [ofDecimal_eq, ofDecimal_eq]
  by_cases h : digits = 0
  · subst h
    rw [Nat.zero_mul, if_pos (.inl rfl), if_pos (.inl rfl)]
  · have hmul : digits * 10 ^ k ≠ 0 := Nat.mul_ne_zero h (Nat.ne_of_gt (Nat.pow_pos (by decide)))
    have hlength : ((Nat.toDigits 10 (digits * 10 ^ k)).length : Int) + e =
        (Nat.toDigits 10 digits).length + (e + k) := by
      rw [Json.toDigits_mul_pow h, List.length_append, List.length_replicate]
      omega
    have hnearest : nearest negative (digits * 10 ^ k) e = nearest negative digits (e + k) := by
      obtain ⟨a, b, rfl⟩ : ∃ a b : Nat, e = a - b := ⟨e.toNat, (-e).toNat, by omega⟩
      rw [nearest_sub negative hmul, show (a : Int) - b + k = (a + k : Nat) - b by omega,
        nearest_sub negative h, Nat.mul_assoc, ← Nat.pow_add, Nat.add_comm k]
    simp only [h, hmul, false_or, hlength, hnearest]

end CypherLink.Binary64

namespace CypherLink.Decimal

open Binary64

theorem ofDecimal_trim (negative : Bool) (fuel : Nat) (d : Decimal) :
    ofDecimal negative (trim fuel d).digits (trim fuel d).exponent =
      ofDecimal negative d.digits d.exponent := by
  induction fuel generalizing d with
  | zero => rfl
  | succ fuel ih =>
    rw [trim]
    split
    · next hd =>
      have hten : d.digits = d.digits / 10 * 10 ^ 1 := by omega
      rw [ih, hten, ofDecimal_mul_pow, ← hten]
      rfl
    · rfl

theorem trim_digits_ne_zero {fuel : Nat} {d : Decimal} (h : d.digits ≠ 0) :
    (trim fuel d).digits ≠ 0 := by
  induction fuel generalizing d with
  | zero => exact h
  | succ fuel ih =>
    rw [trim]
    split
    · apply ih
      dsimp only
      omega
    · exact h

section Shortest

variable {negative : Bool} {m : Nat} {e : Int}

theorem ofDecimal_of_size {digits : Nat} (h : digits ≠ 0)
    (hlow : -400 ≤ (Nat.toDigits 10 digits).length + e)
    (hhigh : (Nat.toDigits 10 digits).length + e ≤ 400) :
    ofDecimal negative digits e = nearest negative digits e := by
  rw [ofDecimal_eq, if_neg (by omega), if_neg (by omega)]

theorem ofDecimal_whole (hbits : m < 2 ^ (53 : Nat)) (hm : m ≠ 0) {n : Nat} (hn : n ≤ 971) :
    ofDecimal negative (m * 2 ^ n) 0 = ofFraction negative (m * 2 ^ n) 1 := by
  have hne : m * 2 ^ n ≠ 0 := Nat.mul_ne_zero hm (Nat.ne_of_gt (Nat.pow_pos (by decide)))
  have hsmall : m * 2 ^ n < 10 ^ 400 := by
    calc m * 2 ^ n < 2 ^ (53 : Nat) * 2 ^ n :=
          Nat.mul_lt_mul_of_pos_right hbits (Nat.pow_pos (by decide))
      _ ≤ 2 ^ (53 : Nat) * 2 ^ 971 :=
          Nat.mul_le_mul_left _ (Nat.pow_le_pow_right (by decide) hn)
      _ ≤ 10 ^ 400 := by decide +kernel
  have hlength := Json.length_toDigits_le (by decide) hsmall
  rw [ofDecimal_of_size hne (by omega) (by omega)]
  have hsplit := nearest_sub negative hne 0 0
  rw [Nat.pow_zero, Nat.mul_one] at hsplit
  exact hsplit

theorem two_pow_le_five_pow {j n : Nat} (h : j ≤ 2 * n) : 2 ^ j ≤ 5 ^ n := by
  calc 2 ^ j ≤ 2 ^ (2 * n) := Nat.pow_le_pow_right (by decide) h
    _ = (2 ^ 2) ^ n := Nat.pow_mul 2 2 n
    _ ≤ 5 ^ n := Nat.pow_le_pow_left (by decide) n

theorem ten_pow_le_five_pow {k n : Nat} (h : k ≤ 3 * n) : 10 ^ (k - n) ≤ 5 ^ k := by
  by_cases hk : k ≤ n
  · rw [show k - n = 0 by omega, Nat.pow_zero]
    exact Nat.pow_pos (by decide)
  · obtain ⟨j, rfl⟩ := Nat.exists_eq_add_of_le (Nat.le_of_not_le hk)
    calc 10 ^ (n + j - n) = 2 ^ j * 5 ^ j := by rw [Nat.add_sub_cancel_left, ← Nat.mul_pow]
      _ ≤ 5 ^ n * 5 ^ j := Nat.mul_le_mul_right _ (two_pow_le_five_pow (by omega))
      _ = 5 ^ (n + j) := (Nat.pow_add 5 n j).symm

theorem ofDecimal_places (hbits : m < 2 ^ (53 : Nat)) (hm : m ≠ 0) {k : Nat} (hk : k ≤ 1074) :
    ofDecimal negative (m * 5 ^ k) (-k) = ofFraction negative m (2 ^ k) := by
  have hfive : 0 < 5 ^ k := Nat.pow_pos (by decide)
  have hne : m * 5 ^ k ≠ 0 := Nat.mul_ne_zero hm (Nat.ne_of_gt hfive)
  have hbig : 10 ^ (k - 400) ≤ m * 5 ^ k := by
    calc 10 ^ (k - 400) ≤ 5 ^ k := ten_pow_le_five_pow (by omega)
      _ ≤ m * 5 ^ k := Nat.le_mul_of_pos_left _ (Nat.pos_of_ne_zero hm)
  have hsmall : m * 5 ^ k < 10 ^ (16 + k) := by
    calc m * 5 ^ k < 10 ^ 16 * 5 ^ k :=
          Nat.mul_lt_mul_of_pos_right (Nat.lt_trans hbits (by norm_num)) hfive
      _ ≤ 10 ^ 16 * 10 ^ k := Nat.mul_le_mul_left _ (Nat.pow_le_pow_left (by decide) k)
      _ = 10 ^ (16 + k) := (Nat.pow_add _ _ _).symm
  have hlong := Json.lt_length_toDigits hbig
  have hshort := Json.length_toDigits_le (by omega) hsmall
  rw [ofDecimal_of_size hne (by omega) (by omega)]
  have hsplit := nearest_sub negative hne 0 k
  rw [Nat.pow_zero, Nat.mul_one, show ((0 : Nat) : Int) - k = -k by omega] at hsplit
  rw [hsplit, show (10 : Nat) = 2 * 5 by rfl, Nat.mul_pow]
  exact ofFraction_mul negative (Nat.pos_of_ne_zero hm) (Nat.pow_pos (by decide)) hfive

/-- Written with all its digits a number reads as itself. -/
theorem ofDecimal_exact (h : Proper (.finite negative m e)) (hm : m ≠ 0) :
    ofDecimal negative ((fraction m e).1 * 5 ^ (-e).toNat) (min e 0) = .finite negative m e := by
  have hfraction := ofFraction_fraction h hm
  obtain ⟨hbits, hleast, hgreatest, -⟩ := h
  unfold leastExponent at hleast
  unfold greatestExponent at hgreatest
  unfold fraction at hfraction ⊢
  split at hfraction
  · next he =>
    rw [if_pos he, show (-e).toNat = 0 by omega, Nat.pow_zero, Nat.mul_one,
      show min e 0 = 0 by omega, ← hfraction]
    exact ofDecimal_whole hbits hm (by omega)
  · next he =>
    rw [if_neg he, show min e 0 = -((-e).toNat : Int) by omega, ← hfraction]
    exact ofDecimal_places hbits hm (by omega)

theorem findSome?_spec {x : Binary64} {num den : Nat} {place : Int} {n : Nat} {d : Decimal}
    (h : (List.range n).findSome? (fun k : Nat => neighbour? x negative num den (place - k)) =
      some d) :
    ofDecimal negative d.digits d.exponent = x := by
  obtain ⟨k, -, hk⟩ := List.exists_of_findSome?_eq_some h
  exact ofDecimal_neighbour? hk

/-- The shortest decimal of a number reads as that number. -/
theorem ofDecimal_shortest (h : Proper (.finite negative m e)) (hm : m ≠ 0) :
    (shortest (.finite negative m e) negative m e).digits ≠ 0 ∧
      ofDecimal negative (shortest (.finite negative m e) negative m e).digits
        (shortest (.finite negative m e) negative m e).exponent = .finite negative m e := by
  unfold shortest
  dsimp only
  split
  · next d hd =>
    have hread := findSome?_spec hd
    have hdigits : d.digits ≠ 0 := by
      intro hzero
      rw [hzero, ofDecimal_eq, if_pos (.inl rfl), zero] at hread
      exact hm (Binary64.finite.inj hread).2.1.symm
    exact ⟨trim_digits_ne_zero hdigits, (ofDecimal_trim negative 20 d).trans hread⟩
  · refine ⟨?_, ofDecimal_exact h hm⟩
    exact Nat.mul_ne_zero (Nat.ne_of_gt (fraction_pos_left hm))
      (Nat.ne_of_gt (Nat.pow_pos (by decide)))

end Shortest

end CypherLink.Decimal
