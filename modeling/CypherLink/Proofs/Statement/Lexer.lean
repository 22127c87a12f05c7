import CypherLink.Text.Name

/-!
Reading a statement from left to right: a backtick opens a name, a doubled one inside stands for
itself, and a single one closes it. Main statements: `lex_append`, text without a backtick is read
as it stands, and `lex_quoted`, a quoted name is read as one name.
-/

namespace CypherLink

open Name (tick escape quoted readInside)

/-- A character outside the names, or a name. -/
inductive Token where
  | outside (c : Char)
  | name (text : String)
  deriving DecidableEq

namespace Token

def name? : Token → Option String
  | .outside _ => none
  | .name text => some text

end Token

theorem length_readInside {cs name rest : List Char} (h : readInside cs = some (name, rest)) :
    rest.length < cs.length := by
  fun_induction readInside cs generalizing name with
  | case1 => cases h
  | case2 => simp_all
  | case3 cs ih =>
    obtain ⟨⟨inner, tail⟩, hr, hs⟩ := Option.map_eq_some_iff.mp h
    simp only [Prod.mk.injEq] at hs
    obtain ⟨-, rfl⟩ := hs
    have := ih hr
    simp only [List.length_cons]
    omega
  | case4 =>
    simp only [Option.some.injEq, Prod.mk.injEq] at h
    obtain ⟨-, rfl⟩ := h
    simp
  | case5 c cs hc ih =>
    obtain ⟨⟨inner, tail⟩, hr, hs⟩ := Option.map_eq_some_iff.mp h
    simp only [Prod.mk.injEq] at hs
    obtain ⟨-, rfl⟩ := hs
    have := ih hr
    simp only [List.length_cons]
    omega

/-- The tokens of a statement, unless it ends inside a name. -/
def lex : List Char → Option (List Token)
  | [] => some []
  | c :: cs =>
    if c = tick then
      match _h : readInside cs with
      | none => none
      | some (name, rest) => (lex rest).map (.name (String.ofList name) :: ·)
    else (lex cs).map (.outside c :: ·)
termination_by cs => cs.length
decreasing_by
  · have := length_readInside _h
    simp only [List.length_cons]
    omega
  · simp

theorem lex_nil : lex [] = some [] := by
  rw [lex]

theorem lex_cons {c : Char} (hc : c ≠ tick) (cs : List Char) :
    lex (c :: cs) = (lex cs).map (.outside c :: ·) := by
  rw [lex, if_neg hc]

theorem lex_append {cs : List Char} (hc : tick ∉ cs) (rest : List Char) :
    lex (cs ++ rest) = (lex rest).map (cs.map .outside ++ ·) := by
  induction cs with
  | nil => simp
  | cons c cs ih =>
    simp only [List.mem_cons, not_or] at hc
    rw [List.cons_append, lex_cons (Ne.symm hc.1), ih hc.2, Option.map_map]
    rfl

theorem lex_quoted (name : String) {rest : List Char} (h : rest.head? ≠ some tick) :
    lex ((quoted name).toList ++ rest) = (lex rest).map (.name name :: ·) := by
  have hr := Name.readInside_escape name.toList rest h
  have hq : (quoted name).toList ++ rest = tick :: (escape name.toList ++ tick :: rest) := by
    simp [Name.toList_quoted]
  rw [hq, lex, if_pos rfl]
  split
  · simp_all
  · simp_all

end CypherLink
