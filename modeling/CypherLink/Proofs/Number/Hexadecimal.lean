import Mathlib.Data.Nat.Basic
import CypherLink.Text.Hex

/-!
Hexadecimal numbers read back. Main statements: `worth_padded` and `padded_injective`.
-/

namespace CypherLink.Hex

/-- What digits are worth together, the first the most. -/
def worth (cs : List Char) : Nat := cs.foldl (fun n c => 16 * n + (value? c).getD 0) 0

theorem value?_digitChar : ∀ d < 16, value? d.digitChar = some d := by decide

theorem worth_concat (cs : List Char) (c : Char) :
    worth (cs ++ [c]) = 16 * worth cs + (value? c).getD 0 := by
  simp [worth]

theorem worth_zeros (k : Nat) (cs : List Char) : worth (List.replicate k '0' ++ cs) = worth cs := by
  have hzero : (value? '0').getD 0 = 0 := by decide
  induction k with
  | zero => rfl
  | succ k ih => simpa [worth, List.replicate_succ, hzero] using ih

/-- A number below sixteen is one digit; a greater one has its last digit behind its sixteenth. -/
theorem digits_eq (n : Nat) :
    n < 16 ∧ digits n = [n.digitChar] ∨
      16 ≤ n ∧ digits n = digits (n / 16) ++ [(n % 16).digitChar] := by
  by_cases h : n < 16
  · exact .inl ⟨h, Nat.toDigits_of_lt_base h⟩
  · exact .inr ⟨by omega, Nat.toDigits_of_base_le (by decide) (by omega)⟩

theorem worth_digits (n : Nat) : worth (digits n) = n := by
  induction n using Nat.strong_induction_on with
  | _ n ih =>
    obtain ⟨hn, hdigits⟩ | ⟨hn, hdigits⟩ := digits_eq n
    · rw [hdigits]
      simp [worth, value?_digitChar n hn]
    · have hlast : n % 16 < 16 := Nat.mod_lt n (by decide)
      rw [hdigits, worth_concat, ih (n / 16) (by omega), value?_digitChar _ hlast]
      exact Nat.div_add_mod n 16

theorem worth_padded (width n : Nat) : worth (padded width n) = n := by
  rw [padded, worth_zeros, worth_digits]

theorem padded_injective (width : Nat) : Function.Injective (padded width) :=
  Function.LeftInverse.injective (worth_padded width)

theorem isSome_value?_of_mem_digits {n : Nat} {c : Char} (h : c ∈ digits n) :
    (value? c).isSome = true := by
  induction n using Nat.strong_induction_on with
  | _ n ih =>
    obtain ⟨hn, hdigits⟩ | ⟨hn, hdigits⟩ := digits_eq n
    · rw [hdigits, List.mem_singleton] at h
      rw [h, value?_digitChar n hn]
      rfl
    · rw [hdigits, List.mem_append, List.mem_singleton] at h
      obtain hfront | rfl := h
      · exact ih (n / 16) (by omega) hfront
      · rw [value?_digitChar _ (Nat.mod_lt n (by decide))]
        rfl

theorem isSome_value?_of_mem_padded {width n : Nat} {c : Char} (h : c ∈ padded width n) :
    (value? c).isSome = true := by
  rw [padded, List.mem_append] at h
  obtain hzero | hdigit := h
  · rw [List.eq_of_mem_replicate hzero]
    decide
  · exact isSome_value?_of_mem_digits hdigit

end CypherLink.Hex
