import Mathlib.Logic.Function.Basic
import CypherLink.Text.Name

/-!
Quoted names and their reader. What the reader takes off the front of a text is always a quoted
name, and a quoted name is taken off whole, whatever backticks it holds, as long as the text goes on
without one. Main statements: `read?_eq_some_iff` and `quoted_read_back`.
-/

namespace CypherLink.Name

/-- Reading stops at the first backtick that has no other behind it. -/
theorem readInside_sound {cs name rest : List Char} (h : readInside cs = some (name, rest)) :
    cs = escape name ++ tick :: rest ∧ rest.head? ≠ some tick := by
  fun_induction readInside cs generalizing name with
  | case1 => cases h
  | case2 =>
    simp only [Option.some.injEq, Prod.mk.injEq] at h
    obtain ⟨rfl, rfl⟩ := h
    exact ⟨rfl, nofun⟩
  | case3 cs ih =>
    -- a doubled backtick belongs to the name
    obtain ⟨⟨inner, tail⟩, hr, hs⟩ := Option.map_eq_some_iff.mp h
    simp only [Prod.mk.injEq] at hs
    obtain ⟨rfl, rfl⟩ := hs
    obtain ⟨hcs, hrest⟩ := ih hr
    exact ⟨by simp [escape, hcs], hrest⟩
  | case4 c cs hc =>
    simp only [Option.some.injEq, Prod.mk.injEq] at h
    obtain ⟨rfl, rfl⟩ := h
    exact ⟨rfl, by simpa using hc⟩
  | case5 c cs hc ih =>
    obtain ⟨⟨inner, tail⟩, hr, hs⟩ := Option.map_eq_some_iff.mp h
    simp only [Prod.mk.injEq] at hs
    obtain ⟨rfl, rfl⟩ := hs
    obtain ⟨hcs, hrest⟩ := ih hr
    exact ⟨by simp [escape, hc, hcs], hrest⟩

theorem readInside_eq_some_iff {cs name rest : List Char} : readInside cs = some (name, rest) ↔
    cs = escape name ++ tick :: rest ∧ rest.head? ≠ some tick := by
  constructor
  · exact readInside_sound
  · rintro ⟨rfl, h⟩
    exact readInside_escape name rest h

theorem read?_tick (cs : List Char) : read? (tick :: cs) = readInside cs := by
  rw [read?, if_pos rfl]

/-- A name is read off the front of a text exactly if the text begins with that name in quotes and
no backtick follows. -/
theorem read?_eq_some_iff {cs rest : List Char} {name : String} :
    read? cs = some (name.toList, rest) ↔
      cs = (quoted name).toList ++ rest ∧ rest.head? ≠ some tick := by
  have hquoted : (quoted name).toList ++ rest =
      tick :: (escape name.toList ++ tick :: rest) := by simp [toList_quoted]
  rw [hquoted]
  cases cs with
  | nil => simp [read?]
  | cons c cs =>
    by_cases hc : c = tick
    · subst hc
      rw [read?_tick, readInside_eq_some_iff, List.cons.injEq, eq_self, true_and]
    · simp [read?, hc]

theorem read?_quoted (name : String) {rest : List Char} (h : rest.head? ≠ some tick) :
    read? ((quoted name).toList ++ rest) = some (name.toList, rest) :=
  read?_eq_some_iff.mpr ⟨rfl, h⟩

theorem quoted_injective : Function.Injective quoted := by
  intro x y h
  have hnil : ([] : List Char).head? ≠ some tick := nofun
  have hx := read?_quoted x hnil
  have hy := read?_quoted y hnil
  rw [h, hy] at hx
  exact String.toList_inj.mp (Prod.mk.inj (Option.some.inj hx)).1.symm

theorem placeholder_injective : Function.Injective placeholder := by
  intro x y h
  rw [placeholder, placeholder, String.append_left_inj, String.append_right_inj] at h
  exact quoted_injective h

/-- Quoting is undone by reading. A text is read as a name and what is left exactly if it is that
name in quotes and then what is left, which begins with no backtick; so no two names have one quoted
form or one placeholder. -/
theorem quoted_read_back :
    (∀ name text rest : String, read? text.toList = some (name.toList, rest.toList) ↔
        text = quoted name ++ rest ∧ rest.toList.head? ≠ some tick) ∧
      Function.Injective quoted ∧ Function.Injective placeholder := by
  refine ⟨fun name text rest => ?_, quoted_injective, placeholder_injective⟩
  rw [read?_eq_some_iff, ← String.toList_append, String.toList_inj]

/-- A name of backticks alone is still told from the empty one. -/
example : read? (quoted "``" ++ " x").toList = some (['\x60', '\x60'], [' ', 'x']) ∧
    read? (quoted "" ++ " x").toList = some ([], [' ', 'x']) := by decide +kernel

end CypherLink.Name
