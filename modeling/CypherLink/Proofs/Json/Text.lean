import CypherLink.Json.Writer

/-!
Texts on the wire: what is escaped when a text is written comes back when it is read. Main statements:
`standsFor_escapeChar` and `stringBody_escaped`.
-/

namespace CypherLink.Json

/-- In a string these characters are read as that one. -/
def StandsFor (cs : List Char) (c : Char) : Prop :=
  ∀ fuel tail, stringBody (fuel + 1) (cs ++ tail) =
    (stringBody fuel tail).map fun r => (c :: r.1, r.2)

section Escape

variable {c : Char} {tail : List Char}

theorem standsFor_self (hquote : c ≠ '"') (hslash : c ≠ '\\') (hcontrol : ¬c.toNat < 0x20) :
    StandsFor [c] c := by
  intro fuel tail
  rw [List.singleton_append, stringBody.eq_def]
  dsimp only
  rw [if_neg hquote, if_neg hslash, if_neg hcontrol]

theorem bind_cons (c : Char) (x : Option (List Char × List Char)) :
    (do
      let (s, rest) ← x
      return (c :: s, rest)) = x.map fun r => (c :: r.1, r.2) := by
  cases x <;> rfl

theorem standsFor_simple {mark : Char} (hmark : mark ≠ 'u') (h : simpleEscape mark = some c) :
    StandsFor ['\\', mark] c := by
  intro fuel tail
  rw [List.cons_append, List.singleton_append, stringBody, if_neg (by decide), if_pos rfl, h]
  · exact bind_cons c _
  · exact hmark

theorem hex4_append {cs : List Char} {n : Nat} (h : hex4 cs = some (n, [])) :
    hex4 (cs ++ tail) = some (n, tail) := by
  match cs, h with
  | a :: b :: c :: d :: rest, h =>
    simp only [hex4, Option.bind_eq_bind, Option.bind_eq_some_iff] at h
    obtain ⟨a', ha, b', hb, c', hc, d', hd, h⟩ := h
    obtain ⟨rfl, rfl⟩ := Prod.mk.inj (Option.some.inj h)
    simp only [List.cons_append, List.nil_append, hex4, ha, hb, hc, hd]
    rfl

/-- A control character is written by its number. -/
theorem unicodeEscape_control (h : c.toNat < 0x20) :
    unicodeEscape (Hex.padded 4 c.toNat ++ tail) = some (c, tail) := by
  have hall : ∀ n < 0x20, hex4 (Hex.padded 4 n) = some (n, []) := by decide
  have hunit : ofUnit c.toNat = c := by
    rw [ofUnit, if_neg (by omega), Char.ofNat_toNat]
  unfold unicodeEscape
  rw [hex4_append (hall _ h)]
  change (if 0xD800 ≤ c.toNat ∧ c.toNat ≤ 0xDBFF then _ else some (ofUnit c.toNat, tail)) = _
  rw [if_neg (by omega), hunit]

theorem standsFor_unit (h : c.toNat < 0x20) : StandsFor (unit c.toNat) c := by
  intro fuel tail
  rw [unit, List.cons_append, List.cons_append, stringBody, if_neg (by decide), if_pos rfl,
    unicodeEscape_control h]
  exact bind_cons c _

theorem standsFor_escapeChar (c : Char) : StandsFor (escapeChar false c) c := by
  unfold escapeChar
  -- seven characters have an escape of their own
  iterate 7
    refine iteInduction (motive := (StandsFor · c)) (fun h => ?_) fun _ => ?_
    · subst h
      exact standsFor_simple (by decide) rfl
  refine iteInduction (motive := (StandsFor · c)) standsFor_unit fun hcontrol => ?_
  rename_i hquote hslash _ _ _ _ _
  exact standsFor_self hquote hslash hcontrol

end Escape

/-- A text that was written is read back up to its closing quote. -/
theorem stringBody_escaped (cs rest : List Char) {fuel : Nat} (h : cs.length < fuel) :
    stringBody fuel (cs.flatMap (escapeChar false) ++ '"' :: rest) = some (cs, rest) := by
  induction cs generalizing fuel with
  | nil =>
    obtain ⟨fuel, rfl⟩ := Nat.exists_eq_add_of_lt h
    rfl
  | cons c cs ih =>
    cases fuel with
    | zero => exact absurd h (Nat.not_lt_zero _)
    | succ fuel =>
      rw [List.flatMap_cons, List.append_assoc, standsFor_escapeChar c,
        ih (Nat.lt_of_succ_lt_succ h)]
      rfl

theorem escapeChar_ne_nil (c : Char) : escapeChar false c ≠ [] := by
  intro h
  have hread := standsFor_escapeChar c 0 ['"']
  rw [h] at hread
  exact nomatch hread

theorem length_le_escaped (cs : List Char) : cs.length ≤ (cs.flatMap (escapeChar false)).length := by
  induction cs with
  | nil => exact Nat.le_refl 0
  | cons c cs ih =>
    have hc := List.length_pos_iff.mpr (escapeChar_ne_nil c)
    rw [List.flatMap_cons, List.length_append, List.length_cons]
    omega

end CypherLink.Json
