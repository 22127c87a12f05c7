import CypherLink.Proofs.Match.Introduction
import CypherLink.Proofs.Statement.Assertion
import CypherLink.Proofs.Statement.Parameter
import CypherLink.Proofs.Statement.Path

/-!
Operands. A predicate is to ask for parameters, and a filter to bind some, exactly if its comparison
is binary. Main statements: `Filter.unaryOperand_iff`, `Filter.regular_iff` and
`Grouping.regular_iff_of_compose`.
-/

namespace CypherLink

open Composed (compose)
open Name (quoted placeholder)

/-- A reader finds the outline outside the names of the text. -/
def Shows (text outline : String) : Prop := ∃ ts, Lexes text ts ∧ outside ts = outline.toList

namespace Shows

variable {s t x y : String}

theorem empty : Shows "" "" := ⟨[], .empty, rfl⟩

theorem append (hs : Shows s x) (ht : Shows t y) : Shows (s ++ t) (x ++ y) := by
  obtain ⟨ts, hts, hx⟩ := hs
  obtain ⟨us, hus, hy⟩ := ht
  exact ⟨ts ++ us, hts.append hus, by rw [outside_append, hx, hy, String.toList_append]⟩

theorem piece (p : Piece) : Shows p.text p.opening := by
  refine ⟨p.tokens, .piece p, ?_⟩
  rw [Piece.tokens, outside_append, outside_map]
  cases p.name? <;> simp [outside, Token.outside?]

theorem phrase (h : s ∈ phrases) : Shows s s := by
  have hp := piece (.phrase s h)
  simpa [Piece.text, Piece.opening, Piece.name?] using hp

theorem identifier (i : Identifier) : Shows i.text i.text := by
  have hp := piece (.identifier i)
  simpa [Piece.text, Piece.opening, Piece.name?] using hp

theorem name (h : s ∈ phrases) (name : String) : Shows (s ++ quoted name) s :=
  piece (.name s h name)

theorem concat (hs : Shows s x) (ht : t ∈ phrases) : Shows (s ++ t) (x ++ t) :=
  hs.append (.phrase ht)

theorem concat_name (hs : Shows s x) (ht : t ∈ phrases) (n : String) :
    Shows (s ++ t ++ quoted n) (x ++ t) := by
  rw [String.append_assoc]
  exact hs.append (.name ht n)

theorem placeholder (name : String) : Shows (placeholder name) "\x7b  \x7d" := by
  have hopen : Shows ("\x7b " ++ quoted name) "\x7b " := .name (by simp [phrases]) name
  exact hopen.concat (t := " \x7d") (by simp [phrases])

end Shows

/-- The symbol of a unary comparison with an operand behind it. -/
def UnaryOperand (ts : List Token) : Prop :=
  ∃ c : Comparison, c.isUnary = true ∧ (" " ++ c.symbol ++ " \x7b").toList <:+: outside ts

theorem not_unaryOperand_of_brace {ts : List Token} (h : '\x7b' ∉ outside ts) :
    ¬ UnaryOperand ts := by
  rintro ⟨c, -, hc⟩
  exact h (hc.subset (by simp))

/-- The symbols of unary comparisons, and only they, have one of these letters. -/
theorem not_unaryOperand_of_letters {ts : List Token} (hx : 'X' ∉ outside ts)
    (hu : 'U' ∉ outside ts) : ¬ UnaryOperand ts := by
  rintro ⟨c, hc, h⟩
  cases c with
  | present => exact hx (h.subset (by decide))
  | isNull | isTrue => exact hu (h.subset (by decide))
  | _ => cases hc

namespace Comparison

/-- What stands for a parameter outside its name. -/
def gap (c : Comparison) : String := if c.isUnary then "" else "\x7b  \x7d"

theorem shows_call (c : Comparison) : Shows c.call c.call := by
  unfold call
  split
  · exact .phrase (by simp [phrases])
  · exact .empty

theorem mark_of_binary {c : Comparison} (h : c.isUnary = false) :
    c.mark = " " ++ c.symbol ++ " " := by
  cases c with
  | present | isNull | isTrue => cases h
  | _ => rfl

theorem shows_mark (c : Comparison) : Shows c.mark c.mark := by
  cases c with
  | present | isNull | isTrue => exact .phrase (by simp [mark, phrases])
  | _ =>
    have hblank : Shows " " " " := .phrase (by simp [phrases])
    exact (hblank.concat (symbol_mem_phrases _)).append hblank

end Comparison

theorem Assertion.shows_core (a : Assertion) : Shows a.core
    (a.comparison.call ++ a.identifier.text ++ "." ++ a.comparison.mark ++ a.comparison.gap) := by
  have hgap : Shows ((a.parameter.map placeholder).getD "") a.comparison.gap := by
    have hasks := a.asks
    unfold Comparison.gap
    cases hp : a.parameter with
    | none =>
      rw [hp] at hasks
      rw [if_pos (by simpa using hasks)]
      exact .empty
    | some p =>
      rw [hp] at hasks
      rw [if_neg (by simpa using hasks)]
      exact .placeholder p
  have hproperty := (a.comparison.shows_call.append (.identifier a.identifier)).concat_name
    (t := ".") (by simp [phrases]) a.property
  exact (hproperty.append a.comparison.shows_mark).append hgap

namespace Filter

/-- What a predicate says outside its names. -/
def outline (f : Filter) (i : Identifier) : String :=
  Assertion.opening f.negated ++
    (match f.measure with
    | .property => f.comparison.call ++ i.text ++ "." ++ f.comparison.mark ++ f.comparison.gap
    | .distance => "distance(point(" ++ i.text ++ "),point(\x7blatitude:" ++ "\x7b  \x7d" ++
        ", longitude:" ++ "\x7b  \x7d" ++ "\x7d)) " ++ f.comparison.symbol ++ " " ++
        "\x7b  \x7d") ++
    Assertion.closing f.negated

theorem shows_expression (f : Filter) (i : Identifier) (index : Nat) :
    ∃ core outline, f.expression i.text (f.parameterName index) = core ++ " " ∧
      core.toList.getLast? ≠ some ' ' ∧ Shows core outline ∧
      f.outline i = Assertion.opening f.negated ++ outline ++ Assertion.closing f.negated := by
  unfold outline
  cases hm : f.measure with
  | property =>
    obtain ⟨core, htext, hlast, -⟩ := f.spelled_expression i (f.parameterName index)
    have hcore : core = (f.assertion i true index).core :=
      (String.append_left_inj " ").mp (htext.symm.trans (expression_eq_core hm i true index))
    exact ⟨core, _, htext, hlast, hcore ▸ Assertion.shows_core _, rfl⟩
  | distance =>
    have hopen : Shows "distance(point(" "distance(point(" := .phrase (by simp [phrases])
    have hlatitude := ((hopen.append (.identifier i)).concat (t := "),point(\x7blatitude:")
      (by simp [phrases])).append (.placeholder (latitudeName (f.parameterName index)))
    have hlongitude := (hlatitude.concat (t := ", longitude:") (by simp [phrases])).append
      (.placeholder (longitudeName (f.parameterName index)))
    have hsymbol := ((hlongitude.concat (t := "\x7d)) ") (by simp [phrases])).concat
      (symbol_mem_phrases f.comparison)).concat (t := " ") (by simp [phrases])
    have hdistance := hsymbol.append (.placeholder (distanceName (f.parameterName index)))
    refine ⟨_, _, ?_, getLast?_append_placeholder _ _, hdistance, rfl⟩
    rw [expression, hm]
    rfl

theorem shows_fragment (f : Filter) (i : Identifier) (index : Nat) :
    Shows (f.fragment i.text (f.parameterName index)) (f.outline i) := by
  obtain ⟨core, outline, htext, hlast, hcore, houtline⟩ := f.shows_expression i index
  rw [fragment_of_expression htext hlast, houtline]
  cases f.negated with
  | false => simpa [Assertion.opening, Assertion.closing] using
      hcore.concat (t := " ") (by simp [phrases])
  | true =>
    have hopen : Shows "NOT(" "NOT(" := .phrase (by simp [phrases])
    exact (hopen.append hcore).concat (t := ") ") (by simp [phrases])

theorem brace_notMem_outline {f : Filter} (hm : f.measure = .property)
    (hc : f.comparison.isUnary = true) (i : Identifier) : '\x7b' ∉ (f.outline i).toList := by
  have hi : '\x7b' ∉ i.text.toList := i.framed.notMem (by decide) (by decide)
  have hcall : '\x7b' ∉ f.comparison.call.toList := by
    unfold Comparison.call
    split <;> decide
  have hmark : '\x7b' ∉ f.comparison.mark.toList := by
    cases hf : f.comparison with
    | present | isNull | isTrue => decide
    | _ => rw [hf] at hc; cases hc
  have hnegated : '\x7b' ∉ (Assertion.opening f.negated).toList ∧
      '\x7b' ∉ (Assertion.closing f.negated).toList := by cases f.negated <;> decide
  rw [outline, hm, Comparison.gap, if_pos hc]
  simp [hi, hcall, hmark, hnegated]

/-- Neither of the letters is in the symbol of a binary comparison. -/
theorem letter_notMem_outline {f : Filter} (hc : f.comparison.isUnary = false) (i : Identifier)
    {x : Char} (hx : x = 'X' ∨ x = 'U') : x ∉ (f.outline i).toList := by
  have hi : x ∉ i.text.toList := by
    rcases hx with rfl | rfl <;> exact i.framed.notMem (by decide) (by decide)
  have hcall : x ∉ f.comparison.call.toList := by
    unfold Comparison.call
    rcases hx with rfl | rfl <;> split <;> decide
  have hsymbol : x ∉ f.comparison.symbol.toList := by
    cases hf : f.comparison with
    | present | isNull | isTrue => rw [hf] at hc; cases hc
    | _ => rcases hx with rfl | rfl <;> decide
  have hnegated : x ∉ (Assertion.opening f.negated).toList ∧
      x ∉ (Assertion.closing f.negated).toList := by
    rcases hx with rfl | rfl <;> cases f.negated <;> decide
  rw [outline, Comparison.gap, hc, Comparison.mark_of_binary hc]
  cases f.measure <;> rcases hx with rfl | rfl <;> simp [hi, hcall, hsymbol, hnegated]

theorem outline_of_distance {f : Filter} (hm : f.measure = .distance) (i : Identifier) :
    ∃ before after, f.outline i = before ++ (" " ++ f.comparison.symbol ++ " \x7b") ++ after := by
  refine ⟨Assertion.opening f.negated ++ ("distance(point(" ++ i.text ++ "),point(\x7blatitude:" ++
    "\x7b  \x7d" ++ ", longitude:" ++ "\x7b  \x7d" ++ "\x7d))"), "  \x7d" ++
    Assertion.closing f.negated, ?_⟩
  rw [outline, hm]
  simp [← String.toList_inj]

theorem unaryOperand_iff (f : Filter) (i : Identifier) (index : Nat) :
    ∃ ts, lex (f.fragment i.text (f.parameterName index)).toList = some ts ∧
      placeholders ts = f.asked (f.parameterName index) ∧
      (UnaryOperand ts ↔ f.measure = .distance ∧ f.comparison.isUnary = true) := by
  obtain ⟨ts, hlex, hasked⟩ := (f.spelled_fragment i (f.parameterName index)).lex_asked
  obtain ⟨us, hus, houtline⟩ := f.shows_fragment i index
  obtain rfl : us = ts := Option.some.inj (hus.lex.symm.trans hlex)
  refine ⟨us, hlex, hasked, ?_⟩
  cases hc : f.comparison.isUnary with
  | false =>
    refine iff_of_false ?_ (by simp)
    apply not_unaryOperand_of_letters <;> rw [houtline]
    · exact letter_notMem_outline hc i (.inl rfl)
    · exact letter_notMem_outline hc i (.inr rfl)
  | true =>
    cases hm : f.measure with
    | property =>
      refine iff_of_false (not_unaryOperand_of_brace ?_) (by simp)
      rw [houtline]
      exact brace_notMem_outline hm hc i
    | distance =>
      refine iff_of_true ⟨f.comparison, hc, ?_⟩ ⟨rfl, rfl⟩
      obtain ⟨before, after, hsplit⟩ := outline_of_distance hm i
      exact ⟨before.toList, after.toList, by rw [houtline, hsplit]; simp⟩

theorem asked_ne_nil_iff (f : Filter) (parameter : String) :
    f.asked parameter ≠ [] ↔ f.measure = .distance ∨ f.comparison.isUnary = false := by
  unfold asked
  cases f.measure with
  | property => cases f.comparison.isUnary <;> simp
  | distance => simp

/-- The predicate asks for parameters, and the filter binds some, exactly if the comparison is
binary, and no unary comparison has an operand. -/
def Regular (f : Filter) (i : Identifier) (index : Nat) : Prop :=
  ∃ ts new, lex (f.fragment i.text (f.parameterName index)).toList = some ts ∧
    f.parameters index = .ok new ∧
    (placeholders ts ≠ [] ↔ f.comparison.isUnary = false) ∧
    (new ≠ [] ↔ f.comparison.isUnary = false) ∧ ¬ UnaryOperand ts

theorem regular_iff {f : Filter} {index : Nat} {new : Entries String Value}
    (h : f.parameters index = .ok new) (i : Identifier) :
    f.Regular i index ↔ (f.measure = .distance → f.comparison.isUnary = false) := by
  obtain ⟨ts, hlex, hasked, hunary⟩ := f.unaryOperand_iff i index
  have hnew : new ≠ [] ↔ f.measure = .distance ∨ f.comparison.isUnary = false := by
    rw [← asked_ne_nil_iff f (f.parameterName index), asked_eq_keys h, ← parameters_eq_bound h,
      Entries.keys, ne_eq, ne_eq, List.map_eq_nil_iff]
  constructor
  · rintro ⟨us, new', hus, hnew', -, hbinds, -⟩ hm
    obtain rfl : new = new' := Except.ok.inj (h.symm.trans hnew')
    exact hbinds.mp (hnew.mpr (.inl hm))
  · intro hbinary
    have hiff : f.measure = .distance ∨ f.comparison.isUnary = false ↔
        f.comparison.isUnary = false := ⟨fun hor => hor.elim hbinary id, .inr⟩
    refine ⟨ts, new, hlex, h, ?_, hnew.trans hiff, fun hu => ?_⟩
    · rw [hasked, asked_ne_nil_iff, hiff]
    · obtain ⟨hm, hc⟩ := hunary.mp hu
      rw [hbinary hm] at hc
      cases hc

end Filter

namespace Grouping

/-- In a composed statement a filter is regular exactly if it does not measure a distance with a
unary comparison, and so all filters are exactly if none does that. -/
theorem regular_iff_of_compose {root : String} {fs : List Filter} {c : Composed}
    (h : compose root fs = .ok c) :
    c.text = (Layout.ofChain root fs).text ∧ c.parameters = bindingsFrom 0 fs ∧
      (∀ (k : Nat) (f : Filter) (i : Identifier), fs[k]? = some f →
        (f.Regular i k ↔ (f.measure = .distance → f.comparison.isUnary = false))) ∧
      ((∀ (k : Nat) (f : Filter) (i : Identifier), fs[k]? = some f → f.Regular i k) ↔
        ∀ f ∈ fs, f.measure = .distance → f.comparison.isUnary = false) := by
  have hregular : ∀ (k : Nat) (f : Filter) (i : Identifier), fs[k]? = some f →
      (f.Regular i k ↔ (f.measure = .distance → f.comparison.isUnary = false)) := by
    intro k f i hf
    obtain ⟨_, hpass⟩ := (Composed.accepted_of_compose h).passes hf
    obtain ⟨new, hnew⟩ := hpass.bindings
    rw [Nat.zero_add] at hnew
    exact Filter.regular_iff hnew i
  refine ⟨Composed.text_of_compose h, Composed.parameters_of_compose h, hregular, ?_, ?_⟩
  · intro hall f hf
    obtain ⟨k, hk⟩ := List.getElem?_of_mem hf
    exact (hregular k f .root hk).mp (hall k f .root hk)
  · intro hall k f i hf
    exact (hregular k f i hf).mpr (hall f (List.mem_of_getElem? hf))

def ferry : Value := .point (.int 57) (.int 24) (.int 5)

/-- Stations away from a point, near a stop that has a name. -/
def nearby : List Filter :=
  [⟨"location", ferry, .less, .none, true, .distance, .root⟩,
    ⟨"name", .null, .present, .and, false, .property, .node "near" "Stop" "NEAR" .undirected⟩]

/-- The distance from a point, of which it is asked whether it exists. -/
def measured : List Filter := [⟨"location", ferry, .present, .none, false, .distance, .root⟩]

theorem regular_nearby_not_measured :
    (∃ c, compose "Station" nearby = .ok c ∧
        ∀ (k : Nat) (f : Filter) (i : Identifier), nearby[k]? = some f → f.Regular i k) ∧
      ∃ c, compose "Stop" measured = .ok c ∧ ¬ measured[0].Regular .root 0 ∧
        Entries.keys c.parameters = ["lat_0", "lon_0", "distance_0"] ∧
        c.text = "MATCH (n:`Stop`) WHERE distance(point(n),point(\x7blatitude:\x7b `lat_0` \x7d, " ++
          "longitude:\x7b `lon_0` \x7d\x7d)) EXISTS \x7b `distance_0` \x7d " := by
  constructor
  · obtain ⟨c, hc⟩ : ∃ c, compose "Station" nearby = .ok c := ⟨_, rfl⟩
    obtain ⟨-, -, -, hiff⟩ := regular_iff_of_compose hc
    have hbinary : ∀ f ∈ nearby, f.measure = .distance → f.comparison.isUnary = false := by decide
    exact ⟨c, hc, hiff.mpr hbinary⟩
  · obtain ⟨c, hc⟩ : ∃ c, compose "Stop" measured = .ok c := ⟨_, rfl⟩
    obtain ⟨htext, hparameters, hiff, -⟩ := regular_iff_of_compose hc
    refine ⟨c, hc, fun h => ?_, ?_, ?_⟩
    · cases (hiff 0 measured[0] .root rfl).mp h rfl
    · rw [hparameters]
      rfl
    · rw [htext]
      rfl

end Grouping

end CypherLink
