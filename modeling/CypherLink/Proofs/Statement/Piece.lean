import CypherLink.Proofs.Match.Condition
import CypherLink.Proofs.Statement.Lexer

/-!
Statements in pieces. A statement is put together from a fixed stock of phrases, generated
identifiers, numbers of hops, and quoted names, each of which follows a phrase. Main statement:
`lex_render`, the reader finds exactly the names of the pieces.
-/

namespace CypherLink

open Name (tick quoted)

/-- Whatever statements say apart from names, identifiers and numbers. -/
def phrases : List String :=
  ["MATCH (", ":", ") ", ")", "<", "-[", "]-", ">", "(",
    ".", "exists(", " IS NULL", " = true", " ", "\x7b ", " \x7d",
    "=", "<>", ">=", "<=", "STARTS WITH", "ENDS WITH", "CONTAINS", "IN", "=~",
    "EXISTS", "IS NULL", "IS TRUE",
    "distance(point(", "),point(\x7blatitude:", ", longitude:", "\x7d)) ", "NOT(", "WHERE ",
    "AND", "OR",
    " ORDER BY ", ",", " DESC", " SKIP \x7b skip \x7d LIMIT \x7b limit \x7d",
    "RETURN n", "WITH n", " RETURN n", " MATCH ", "p=(n)-[*0..", "]-(m)", "p=(n)-[*0..]-(m)",
    " RETURN p", ", ID(n)",
    "MATCH ", "(n)", "(n:", " WHERE id(n) in \x7b ids \x7d ", "MATCH (n) WHERE id(n) = \x7b id \x7d ",
    "MATCH p=()-->() RETURN p", "MATCH (n", ") RETURN COUNT(n)", "MATCH (:", ")-[r:", "]->(:",
    ") RETURN count(r)"]

theorem tick_notMem_of_mem_phrases {s : String} (h : s ∈ phrases) : tick ∉ s.toList := by
  have hall : ∀ s ∈ phrases, tick ∉ s.toList := by decide +kernel
  exact hall s h

theorem ne_nil_of_mem_phrases {s : String} (h : s ∈ phrases) : s.toList ≠ [] := by
  have hempty : "" ∉ phrases := by decide +kernel
  rw [ne_eq, String.toList_eq_nil_iff]
  rintro rfl
  exact hempty h

/-- A piece of a statement. A name stands together with the phrase before it. -/
inductive Piece where
  | phrase (text : String) (mem : text ∈ phrases)
  | identifier (i : Identifier)
  | hops (n : Nat)
  | name (opening : String) (mem : opening ∈ phrases) (text : String)

namespace Piece

/-- The text of a piece up to the name that it ends in, if it does. -/
def opening : Piece → String
  | .phrase text _ => text
  | .identifier i => i.text
  | .hops n => toString n
  | .name opening _ _ => opening

def name? : Piece → Option String
  | .name _ _ text => some text
  | _ => none

def text (p : Piece) : String :=
  p.opening ++ (p.name?.map quoted).getD ""

def tokens (p : Piece) : List Token :=
  p.opening.toList.map .outside ++ (p.name?.map .name).toList

def render (ps : List Piece) : String := String.join (ps.map text)

def names (ps : List Piece) : List String := ps.filterMap name?

theorem tick_notMem_opening (p : Piece) : tick ∉ p.opening.toList := by
  intro h
  cases p with
  | phrase text mem => exact tick_notMem_of_mem_phrases mem h
  | name opening mem text => exact tick_notMem_of_mem_phrases mem h
  | identifier i =>
    rcases i.mem_text h with hm | hd
    · simp [tick] at hm
    · exact absurd hd (by decide)
  | hops n => exact absurd (isDigit_of_mem_toString h) (by decide)

theorem opening_ne_nil (p : Piece) : p.opening.toList ≠ [] := by
  cases p with
  | phrase text mem => exact ne_nil_of_mem_phrases mem
  | name opening mem text => exact ne_nil_of_mem_phrases mem
  | identifier i =>
    cases i <;> simp [opening, Identifier.text, Clause.rootIdentifier,
      Clause.relationshipIdentifier, Composed.farIdentifier]
  | hops n =>
    simp only [opening, Nat.toString_eq_repr, Nat.toList_repr]
    exact Nat.toDigits_ne_nil

theorem render_nil : render [] = "" := rfl

theorem render_cons (p : Piece) (ps : List Piece) : render (p :: ps) = p.text ++ render ps := by
  rw [render, List.map_cons, String.join_cons, render]

theorem render_singleton (p : Piece) : render [p] = p.text := by
  rw [render_cons, render_nil, String.append_empty]

theorem render_append (ps qs : List Piece) : render (ps ++ qs) = render ps ++ render qs := by
  rw [render, List.map_append, String.join_append, render, render]

theorem head?_render (ps : List Piece) : (render ps).toList.head? ≠ some tick := by
  cases ps with
  | nil => simp [render_nil]
  | cons p ps =>
    obtain ⟨c, cs, hc⟩ := List.exists_cons_of_ne_nil p.opening_ne_nil
    have ht := p.tick_notMem_opening
    rw [hc, List.mem_cons, not_or] at ht
    rw [render_cons, text, String.toList_append, String.toList_append, hc]
    simpa using Ne.symm ht.1

theorem lex_text (p : Piece) {rest : List Char} (h : rest.head? ≠ some tick) :
    lex (p.text.toList ++ rest) = (lex rest).map (p.tokens ++ ·) := by
  rw [text, String.toList_append, List.append_assoc, lex_append p.tick_notMem_opening, tokens]
  cases p.name? with
  | none => simp
  | some name => simp [lex_quoted name h, Function.comp_def]

theorem lex_render (ps : List Piece) : lex (render ps).toList = some (ps.flatMap tokens) := by
  induction ps with
  | nil => exact lex_nil
  | cons p ps ih =>
    rw [render_cons, String.toList_append, lex_text p (head?_render ps), ih]
    rfl

theorem names_cons (p : Piece) (ps : List Piece) : names (p :: ps) = p.name?.toList ++ names ps := by
  rw [names, List.filterMap_cons, names]
  cases p.name? <;> rfl

theorem names_append (ps qs : List Piece) : names (ps ++ qs) = names ps ++ names qs :=
  List.filterMap_append

theorem name?_tokens (p : Piece) : p.tokens.filterMap Token.name? = p.name?.toList := by
  have ho : (p.opening.toList.map Token.outside).filterMap Token.name? = [] := by
    rw [List.filterMap_map]
    exact List.filterMap_eq_nil_iff.mpr fun _ _ => rfl
  rw [tokens, List.filterMap_append, ho, List.nil_append]
  cases p.name? <;> rfl

theorem names_tokens (ps : List Piece) : (ps.flatMap tokens).filterMap Token.name? = names ps := by
  induction ps with
  | nil => rfl
  | cons p ps ih => rw [List.flatMap_cons, List.filterMap_append, ih, name?_tokens, names_cons]

end Piece

/-- The text is made of pieces that have these names. -/
def Built (text : String) (names : List String) : Prop :=
  ∃ ps, Piece.render ps = text ∧ Piece.names ps = names

end CypherLink
