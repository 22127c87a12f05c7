import Mathlib.Data.List.TakeWhile
import CypherLink.Proofs.Statement.Clause
import CypherLink.Proofs.Statement.Quoting

/-!
What the predicate of a filter on a property says, and how it is read back from its text, whatever
the names in it look like. Main statements: `Assertion.read?_text` and `Filter.render_determines`,
two predicates with one text say the same.
-/

namespace CypherLink

open Name (tick quoted placeholder)

namespace Comparison

/-- What stands before the identifier of a property. -/
def call (c : Comparison) : String := if c = .present then "exists(" else ""

/-- What stands behind a property, up to the parameter if there is one. -/
def mark : Comparison → String
  | .present => ")"
  | .isNull => " IS NULL"
  | .isTrue => " = true"
  | c => " " ++ c.symbol ++ " "

end Comparison

/-- What a predicate on a property says. Without a connective it opens the condition; a unary
comparison has no parameter. -/
structure Assertion where
  connective : Option Connective
  negated : Bool
  identifier : Identifier
  property : String
  comparison : Comparison
  parameter : Option String
  asks : parameter.isSome = !comparison.isUnary

namespace Assertion

def word : Option Connective → String
  | none => "WHERE "
  | some c => c.symbol ++ " "

def opening (negated : Bool) : String := if negated then "NOT(" else ""

def closing (negated : Bool) : String := if negated then ") " else " "

/-- The part that is wrapped when the predicate is negated. -/
def core (a : Assertion) : String :=
  a.comparison.call ++ a.identifier.text ++ "." ++ quoted a.property ++ a.comparison.mark ++
    (a.parameter.map placeholder).getD ""

def text (a : Assertion) : String :=
  word a.connective ++ opening a.negated ++ a.core ++ closing a.negated

def readWord? : List Char → Option (Option Connective × List Char)
  | 'W' :: 'H' :: 'E' :: 'R' :: 'E' :: ' ' :: cs => some (none, cs)
  | ' ' :: cs => some (some .none, cs)
  | 'A' :: 'N' :: 'D' :: ' ' :: cs => some (some .and, cs)
  | 'O' :: 'R' :: ' ' :: cs => some (some .or, cs)
  | _ => none

def readOpening : List Char → Bool × List Char
  | 'N' :: 'O' :: 'T' :: '(' :: cs => (true, cs)
  | cs => (false, cs)

def skipCall : List Char → List Char
  | 'e' :: 'x' :: 'i' :: 's' :: 't' :: 's' :: '(' :: cs => cs
  | cs => cs

def readIdentifier? : List Char → Option (Identifier × List Char)
  | 'n' :: '.' :: cs => some (.root, cs)
  | 'r' :: '.' :: cs => some (.relationship, cs)
  | 'm' :: cs =>
    some (.far (Nat.ofDigitChars 10 (cs.takeWhile (· ≠ '.')) 0), (cs.dropWhile (· ≠ '.')).tail)
  | _ => none

/-- The text from a property on, up to the parameter if there is one. -/
def ending (negated : Bool) (c : Comparison) : List Char :=
  c.mark.toList ++ if c.isUnary then (closing negated).toList else []

def readComparison? (negated : Bool) (cs : List Char) : Option Comparison :=
  Comparison.vocabulary.members.find? fun c => ending negated c = cs.takeWhile (· ≠ '\x7b')

def readParameter? (cs : List Char) : Option String :=
  (Name.read? ((cs.dropWhile (· ≠ '\x7b')).drop 2)).map fun r => String.ofList r.1

/-- Reads a predicate once, from left to right. -/
def read? (cs : List Char) : Option Assertion := do
  let (connective, cs) ← readWord? cs
  let (negated, cs) := readOpening cs
  let (identifier, cs) ← readIdentifier? (skipCall cs)
  let (property, cs) ← Name.read? cs
  let comparison ← readComparison? negated cs
  let parameter := if comparison.isUnary then none else readParameter? cs
  if h : parameter.isSome = !comparison.isUnary then
    return ⟨connective, negated, identifier, String.ofList property, comparison, parameter, h⟩
  else none

section Reading

variable {cs : List Char}

theorem readWord?_append (connective : Option Connective) :
    readWord? ((word connective).toList ++ cs) = some (connective, cs) := by
  cases connective with
  | none => rfl
  | some c => cases c <;> rfl

theorem readOpening_append (negated : Bool) (h : cs.head? ≠ some 'N') :
    readOpening ((opening negated).toList ++ cs) = (negated, cs) := by
  cases negated with
  | true => rfl
  | false =>
    change readOpening cs = (false, cs)
    unfold readOpening
    split
    · simp at h
    · rfl

/-- An identifier begins with a letter of its own. -/
theorem head?_identifier (i : Identifier) :
    (i.text.toList ++ cs).head? ∈ [some 'n', some 'r', some 'm'] := by
  cases i <;> simp [Identifier.text, Clause.rootIdentifier, Clause.relationshipIdentifier,
    Composed.farIdentifier]

theorem skipCall_append (c : Comparison) (i : Identifier) :
    skipCall (c.call.toList ++ (i.text.toList ++ cs)) = i.text.toList ++ cs := by
  have hhead : (i.text.toList ++ cs).head? ∈ [some 'n', some 'r', some 'm'] := head?_identifier i
  unfold Comparison.call
  split
  · rfl
  · change skipCall (i.text.toList ++ cs) = _
    unfold skipCall
    split
    · next he =>
      rw [he] at hhead
      simp at hhead
    · rfl

theorem head?_call (c : Comparison) (i : Identifier) :
    (c.call.toList ++ (i.text.toList ++ cs)).head? ≠ some 'N' := by
  have hhead : (i.text.toList ++ cs).head? ∈ [some 'n', some 'r', some 'm'] := head?_identifier i
  unfold Comparison.call
  split
  · exact nofun
  · intro h
    change (i.text.toList ++ cs).head? = some 'N' at h
    rw [h] at hhead
    simp at hhead

theorem readIdentifier?_append (i : Identifier) :
    readIdentifier? (i.text.toList ++ '.' :: cs) = some (i, cs) := by
  cases i with
  | root => rfl
  | relationship => rfl
  | far k =>
    have hdigits : ∀ c ∈ (toString k).toList, decide (c ≠ '.') = true := by
      intro c hc
      have hd := isDigit_of_mem_toString hc
      rw [decide_eq_true_iff]
      rintro rfl
      exact absurd hd (by decide)
    have htext : (Identifier.far k).text.toList ++ '.' :: cs =
        'm' :: ((toString k).toList ++ '.' :: cs) := by
      simp [Identifier.text, Composed.farIdentifier]
    rw [htext, readIdentifier?, List.takeWhile_append_of_pos hdigits,
      List.dropWhile_append_of_pos hdigits]
    simp [Nat.ofDigitChars_ten_toDigits]

theorem head?_mark (c : Comparison) : (c.mark.toList ++ cs).head? ≠ some tick := by
  cases c <;> simp [Comparison.mark, Comparison.symbol, Comparison.vocabulary, tick]

theorem find?_ending (negated : Bool) (c : Comparison) :
    (Comparison.vocabulary.members.find? fun d => ending negated d = ending negated c) =
      some c := by
  cases negated <;> cases c <;> rfl

theorem ne_brace_of_mem_ending (negated : Bool) (c : Comparison) :
    ∀ d ∈ ending negated c, decide (d ≠ '\x7b') = true := by
  apply List.all_eq_true.mp
  cases negated <;> cases c <;> rfl

end Reading

/-- What stands behind the property. -/
def rest (a : Assertion) : List Char :=
  a.comparison.mark.toList ++ ((a.parameter.map placeholder).getD "").toList ++
    (closing a.negated).toList

theorem parameter_of_unary {a : Assertion} (h : a.comparison.isUnary = true) :
    a.parameter = none := by
  have hasks := a.asks
  rw [h] at hasks
  simpa using hasks

theorem rest_of_unary {a : Assertion} (h : a.comparison.isUnary = true) :
    a.rest = ending a.negated a.comparison := by
  rw [rest, ending, parameter_of_unary h, h]
  simp

theorem rest_of_binary {a : Assertion} (h : a.comparison.isUnary = false) :
    ∃ p, a.parameter = some p ∧ a.rest = ending a.negated a.comparison ++
      '\x7b' :: ' ' :: ((quoted p).toList ++ ' ' :: '\x7d' :: (closing a.negated).toList) := by
  have hsome : a.parameter.isSome = true := by rw [a.asks, h, Bool.not_false]
  obtain ⟨p, hp⟩ := Option.isSome_iff_exists.mp hsome
  refine ⟨p, hp, ?_⟩
  rw [rest, ending, hp, h]
  simp [Name.toList_placeholder]

theorem takeWhile_rest (a : Assertion) :
    a.rest.takeWhile (· ≠ '\x7b') = ending a.negated a.comparison := by
  have hending := ne_brace_of_mem_ending a.negated a.comparison
  cases h : a.comparison.isUnary with
  | true =>
    rw [rest_of_unary h]
    exact List.takeWhile_eq_self_iff.mpr hending
  | false =>
    obtain ⟨p, -, hrest⟩ := rest_of_binary h
    rw [hrest, List.takeWhile_append_of_pos hending, List.takeWhile_cons_of_neg (by decide),
      List.append_nil]

theorem readComparison?_rest (a : Assertion) :
    readComparison? a.negated a.rest = some a.comparison := by
  rw [readComparison?, takeWhile_rest]
  exact find?_ending a.negated a.comparison

theorem readParameter?_rest (a : Assertion) :
    (if a.comparison.isUnary then none else readParameter? a.rest) = a.parameter := by
  cases h : a.comparison.isUnary with
  | true => rw [if_pos rfl, parameter_of_unary h]
  | false =>
    obtain ⟨p, hp, hrest⟩ := rest_of_binary h
    rw [if_neg (by decide), readParameter?, hrest,
      List.dropWhile_append_of_pos (ne_brace_of_mem_ending _ _),
      List.dropWhile_cons_of_neg (by decide), List.drop_succ_cons, List.drop_succ_cons,
      List.drop_zero, Name.read?_quoted p (by simp [tick]), hp, Option.map_some, String.ofList_toList]

theorem toList_text (a : Assertion) : a.text.toList =
    (word a.connective).toList ++ ((opening a.negated).toList ++ (a.comparison.call.toList ++
      (a.identifier.text.toList ++ '.' :: ((quoted a.property).toList ++ a.rest)))) := by
  simp [text, core, rest]

/-- A predicate is read back, whatever its names look like. -/
theorem read?_text (a : Assertion) : read? a.text.toList = some a := by
  have hrest : a.rest.head? ≠ some tick := by
    rw [rest, List.append_assoc]
    exact head?_mark a.comparison
  rw [toList_text, read?]
  simp only [Option.bind_eq_bind, readWord?_append, Option.bind_some,
    readOpening_append _ (head?_call _ _), skipCall_append, readIdentifier?_append,
    Name.read?_quoted _ hrest, readComparison?_rest, readParameter?_rest, String.ofList_toList,
    dif_pos a.asks]
  rfl

theorem text_injective : Function.Injective text := fun a b h =>
  Option.some.inj (by rw [← read?_text a, h, read?_text])

end Assertion

namespace Filter

/-- What a filter on a property says where it stands in a clause and in its chain. -/
def assertion (f : Filter) (i : Identifier) (first : Bool) (index : Int) : Assertion where
  connective := if first then none else some f.connective
  negated := f.negated
  identifier := i
  property := f.property
  comparison := f.comparison
  parameter := if f.comparison.isUnary then none else some (f.parameterName index)
  asks := by cases f.comparison.isUnary <;> rfl

theorem assertion_eq_iff {f g : Filter} {i j : Identifier} {first first' : Bool}
    {index index' : Int} : f.assertion i first index = g.assertion j first' index' ↔
      i = j ∧ f.property = g.property ∧ f.comparison = g.comparison ∧ f.negated = g.negated ∧
        (first = first' ∧ (first = false → f.connective = g.connective)) ∧
        (f.comparison.isUnary = false → f.parameterName index = g.parameterName index') := by
  have hword : ((if first then none else some f.connective) =
      if first' then none else some g.connective) ↔
        first = first' ∧ (first = false → f.connective = g.connective) := by
    cases first <;> cases first' <;> simp
  rw [assertion, assertion, Assertion.mk.injEq, hword]
  constructor
  · rintro ⟨hw, hn, hi, hp, hc, ha⟩
    refine ⟨hi, hp, hc, hn, hw, fun hu => ?_⟩
    rw [← hc, hu] at ha
    exact Option.some.inj ha
  · rintro ⟨hi, hp, hc, hn, hw, ha⟩
    refine ⟨hw, hn, hi, hp, hc, ?_⟩
    rw [← hc]
    cases hu : f.comparison.isUnary with
    | true => rfl
    | false => exact congrArg some (ha hu)

section Property

variable {f g : Filter} (hf : f.measure = .property)

include hf

theorem expression_eq_core (i : Identifier) (first : Bool) (index : Int) :
    f.expression i.text (f.parameterName index) = (f.assertion i first index).core ++ " " := by
  rw [expression, hf]
  unfold propertyExpression Assertion.core
  cases hc : f.comparison <;>
    simp [assertion, hc, Comparison.isUnary, Comparison.call, Comparison.mark, String.append_assoc]

theorem render_eq_text (i : Identifier) (first : Bool) (index : Int) :
    f.render i.text first index = (f.assertion i first index).text := by
  obtain ⟨core, htext, hlast, -⟩ := f.spelled_expression i (f.parameterName index)
  have hcore : core = (f.assertion i first index).core :=
    (String.append_left_inj " ").mp (htext.symm.trans (expression_eq_core hf i first index))
  have hword : f.introduction first = Assertion.word (f.assertion i first index).connective := by
    cases first <;> rfl
  rw [render, hword, fragment_of_expression htext hlast, hcore, Assertion.text, assertion]
  cases f.negated <;> simp [Assertion.opening, Assertion.closing, String.append_assoc]

/-- The text of a predicate on a property is read back, and two such predicates have one text
exactly if they agree in what it says: the word before them, the negation, the identifier, the
property, the comparison, and the parameter if the comparison has one. -/
theorem render_determines (hg : g.measure = .property) (i j : Identifier) (first first' : Bool)
    (index index' : Int) :
    Assertion.read? (f.render i.text first index).toList = some (f.assertion i first index) ∧
      (f.render i.text first index = g.render j.text first' index' ↔
        i = j ∧ f.property = g.property ∧ f.comparison = g.comparison ∧ f.negated = g.negated ∧
          (first = first' ∧ (first = false → f.connective = g.connective)) ∧
          (f.comparison.isUnary = false → f.parameterName index = g.parameterName index')) := by
  rw [render_eq_text hf, render_eq_text hg, Assertion.text_injective.eq_iff, assertion_eq_iff]
  exact ⟨Assertion.read?_text _, Iff.rfl⟩

end Property

/-- The property looks like the end of the predicate, and the way to it like the parameter. -/
def deceptive : Filter :=
  { property := "a` IS NULL) ", value := .int 1, comparison := .equal, connective := .or,
    negated := true, measure := .property, subject := .node "\x7b `" "b" "c" .outgoing }

def deceptiveTwin : Filter :=
  { deceptive with value := .null, subject := .relationship "\x7b `" "d" .incoming }

theorem render_of_deceptive : deceptive.measure = .property ∧ deceptiveTwin.measure = .property ∧
    deceptive.render "m3" false 2 = deceptiveTwin.render "m3" false 2 ∧
    deceptive.render "m3" false 2 ≠ deceptiveTwin.render "m3" true 2 := by
  have hsame := (render_determines (f := deceptive) (g := deceptiveTwin) rfl rfl (.far 3) (.far 3)
    false false 2 2).2
  have hother := (render_determines (f := deceptive) (g := deceptiveTwin) rfl rfl (.far 3) (.far 3)
    false true 2 2).2
  refine ⟨rfl, rfl, hsame.mpr ⟨rfl, rfl, rfl, rfl, ⟨rfl, fun _ => rfl⟩, fun _ => rfl⟩, fun h => ?_⟩
  exact Bool.false_ne_true (hother.mp h).2.2.2.2.1.1

end Filter

end CypherLink
