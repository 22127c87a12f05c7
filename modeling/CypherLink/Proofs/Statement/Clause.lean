import CypherLink.Proofs.Statement.Placeholder

/-!
The clauses of a composed statement, built from pieces. Main statement: `Layout.spelled_text`, which
also says which names the clauses hold, for which parameters they ask, and in which order.
-/

namespace CypherLink

open Name (quoted placeholder)

theorem spelled_node (i : Identifier) (label : String) :
    Spelled (Clause.node i.text label) [label] [] := by
  have hopen : Spelled ("MATCH (" ++ i.text) [] [] :=
    (Spelled.phrase (by simp [phrases]) (by decide)).append (.identifier i)
  have hlabel : Spelled ("MATCH (" ++ i.text ++ ":" ++ quoted label) [label] [] :=
    hopen.concat_name (by simp [phrases]) (by decide) label
  exact hlabel.concat (by simp [phrases]) (by decide)

theorem spelled_leftArrow (direction : Direction) : Spelled (Clause.leftArrow direction) [] [] := by
  cases direction with
  | incoming => exact .phrase (by simp [Clause.leftArrow, phrases]) (by decide)
  | _ => exact .empty

theorem spelled_rightArrow (direction : Direction) :
    Spelled (Clause.rightArrow direction) [] [] := by
  cases direction with
  | outgoing => exact .phrase (by simp [Clause.rightArrow, phrases]) (by decide)
  | _ => exact .empty

theorem spelled_relationship (type : String) (direction : Direction) (k : Nat) (bound : Bool) :
    Spelled (Clause.relationship type direction (Composed.farIdentifier k) bound) [type] [] := by
  have hroot : Spelled ("MATCH (" ++ Clause.rootIdentifier ++ ")") [] [] :=
    ((Spelled.phrase (by simp [phrases]) (by decide)).append (.identifier .root)).concat
      (by simp [phrases]) (by decide)
  have hbound : Spelled (if bound then Clause.relationshipIdentifier else "") [] [] := by
    cases bound with
    | true => exact .identifier .relationship
    | false => exact .empty
  have hleft := ((hroot.append (spelled_leftArrow direction)).concat (t := "-[")
    (by simp [phrases]) (by decide)).append hbound
  have hname := hleft.concat_name (t := ":") (by simp [phrases]) (by decide) type
  have htype := hname.concat (t := "]-") (by simp [phrases]) (by decide)
  have hfar := ((htype.append (spelled_rightArrow direction)).concat (t := "(")
    (by simp [phrases]) (by decide)).append (.identifier (.far k))
  unfold Clause.relationship
  exact hfar.concat (by simp [phrases]) (by decide)

theorem spelled_pattern (p : Pattern) : Spelled p.text [p.word] [] := by
  cases p with
  | node i label => exact spelled_node i label
  | relationship type direction k bound => exact spelled_relationship type direction k bound

theorem symbol_mem_phrases (c : Comparison) : c.symbol ∈ phrases := by
  cases c <;> simp [Comparison.symbol, Comparison.vocabulary, phrases]

theorem brace_notMem_symbol (c : Comparison) : '\x7b' ∉ c.symbol.toList := by
  cases c <;> decide

namespace Filter

/-- The parameters that the predicate of a filter asks for. -/
def asked (f : Filter) (parameter : String) : List String :=
  match f.measure with
  | .property => if f.comparison.isUnary then [] else [parameter]
  | .distance => [latitudeName parameter, longitudeName parameter, distanceName parameter]

/-- The names in the predicate of a filter. -/
def names (f : Filter) (parameter : String) : List String :=
  match f.measure with
  | .property => f.property :: if f.comparison.isUnary then [] else [parameter]
  | .distance => [latitudeName parameter, longitudeName parameter, distanceName parameter]

theorem propertyExpression_binary {f : Filter} (h : f.comparison.isUnary = false)
    (identifier parameter : String) : f.propertyExpression identifier parameter =
      identifier ++ "." ++ quoted f.property ++ " " ++ f.comparison.symbol ++ " " ++
        placeholder parameter ++ " " := by
  unfold propertyExpression
  cases hc : f.comparison <;> simp_all [Comparison.isUnary]

theorem getLast?_append_ne {s t : String} {c : Char} (ht : t.toList.getLast? = some c)
    (hc : c ≠ ' ') : (s ++ t).toList.getLast? ≠ some ' ' := by
  rw [String.toList_append, List.getLast?_append, ht]
  simpa using hc

theorem getLast?_append_placeholder (s name : String) :
    (s ++ placeholder name).toList.getLast? ≠ some ' ' := by
  rw [placeholder, ← String.append_assoc]
  exact getLast?_append_ne (c := '\x7d') (by simp) (by decide)

theorem spelled_propertyExpression (f : Filter) (i : Identifier) (parameter : String) :
    ∃ core, f.propertyExpression i.text parameter = core ++ " " ∧ core.toList.getLast? ≠ some ' ' ∧
      Spelled core (f.property :: if f.comparison.isUnary then [] else [parameter])
        (if f.comparison.isUnary then [] else [parameter]) := by
  have hp : Spelled (i.text ++ "." ++ quoted f.property) [f.property] [] :=
    (Spelled.identifier i).concat_name (by simp [phrases]) (by decide) f.property
  cases hu : f.comparison.isUnary with
  | false =>
    refine ⟨_, propertyExpression_binary hu i.text parameter, getLast?_append_placeholder _ _, ?_⟩
    have hs := ((hp.concat (t := " ") (by simp [phrases]) (by decide)).concat
      (symbol_mem_phrases f.comparison) (brace_notMem_symbol f.comparison)).concat (t := " ")
        (by simp [phrases]) (by decide)
    exact hs.append (Spelled.placeholder parameter)
  | true =>
    unfold propertyExpression
    cases hc : f.comparison with
    | present =>
      refine ⟨"exists(" ++ (i.text ++ "." ++ quoted f.property) ++ ")", ?_, ?_, ?_⟩
      · simp [String.append_assoc]
      · exact getLast?_append_ne (c := ')') (by simp) (by decide)
      · have hopen := (Spelled.phrase (s := "exists(") (by simp [phrases]) (by decide)).append hp
        exact hopen.concat (by simp [phrases]) (by decide)
    | isNull =>
      refine ⟨i.text ++ "." ++ quoted f.property ++ " IS NULL", ?_, ?_, ?_⟩
      · simp [String.append_assoc]
      · exact getLast?_append_ne (c := 'L') (by simp) (by decide)
      · exact hp.concat (by simp [phrases]) (by decide)
    | isTrue =>
      refine ⟨i.text ++ "." ++ quoted f.property ++ " = true", ?_, ?_, ?_⟩
      · simp [String.append_assoc]
      · exact getLast?_append_ne (c := 'e') (by simp) (by decide)
      · exact hp.concat (by simp [phrases]) (by decide)
    | _ => simp [hc, Comparison.isUnary] at hu

theorem spelled_distanceExpression (f : Filter) (i : Identifier) (parameter : String) :
    ∃ core, f.distanceExpression i.text parameter = core ++ " " ∧ core.toList.getLast? ≠ some ' ' ∧
      Spelled core [latitudeName parameter, longitudeName parameter, distanceName parameter]
        [latitudeName parameter, longitudeName parameter, distanceName parameter] := by
  have hopen := Spelled.phrase (s := "distance(point(") (by simp [phrases]) (by decide)
  have hidentifier := hopen.append (.identifier i)
  -- a brace that no blank follows opens a map
  have hpoint := hidentifier.concat_asking (t := "),point(\x7blatitude:") []
    (by simp [phrases]) fun _ => rfl
  have hlatitude := (hpoint.append (.placeholder (latitudeName parameter))).concat
    (t := ", longitude:") (by simp [phrases]) (by decide)
  have hlongitude := (hlatitude.append (.placeholder (longitudeName parameter))).concat
    (t := "\x7d)) ") (by simp [phrases]) (by decide)
  have hsymbol := (hlongitude.concat (symbol_mem_phrases f.comparison)
    (brace_notMem_symbol f.comparison)).concat (t := " ") (by simp [phrases]) (by decide)
  have hdistance := hsymbol.append (.placeholder (distanceName parameter))
  exact ⟨_, rfl, getLast?_append_placeholder _ _, hdistance⟩

theorem spelled_expression (f : Filter) (i : Identifier) (parameter : String) :
    ∃ core, f.expression i.text parameter = core ++ " " ∧ core.toList.getLast? ≠ some ' ' ∧
      Spelled core (f.names parameter) (f.asked parameter) := by
  unfold expression names asked
  cases f.measure with
  | property => exact f.spelled_propertyExpression i parameter
  | distance => exact f.spelled_distanceExpression i parameter

/-- Only the one blank goes, since what stands before it does not end in another. -/
theorem fragment_of_expression {f : Filter} {identifier parameter core : String}
    (h : f.expression identifier parameter = core ++ " ") (hlast : core.toList.getLast? ≠ some ' ') :
    f.fragment identifier parameter = if f.negated then "NOT(" ++ core ++ ") " else core ++ " " := by
  have hdrop : String.ofList (dropTrailingBlanks (core ++ " ").toList) = core := by
    rw [String.toList_append]
    change String.ofList (dropTrailingBlanks (core.toList ++ [' '])) = core
    rw [dropTrailingBlanks_blank _ hlast, String.ofList_toList]
  rw [fragment, h, hdrop]

theorem spelled_fragment (f : Filter) (i : Identifier) (parameter : String) :
    Spelled (f.fragment i.text parameter) (f.names parameter) (f.asked parameter) := by
  obtain ⟨core, htext, hlast, hcore⟩ := f.spelled_expression i parameter
  rw [fragment_of_expression htext hlast]
  cases f.negated with
  | false => exact hcore.concat (by simp [phrases]) (by decide)
  | true =>
    have hopen := (Spelled.phrase (s := "NOT(") (by simp [phrases]) (by decide)).append hcore
    exact hopen.concat (by simp [phrases]) (by decide)

theorem spelled_introduction (f : Filter) (first : Bool) :
    Spelled (f.introduction first) [] [] := by
  unfold introduction
  cases first with
  | true => exact Spelled.phrase (s := "WHERE ") (by simp [phrases]) (by decide)
  | false =>
    cases f.connective with
    | none => exact Spelled.empty.concat (t := " ") (by simp [phrases]) (by decide)
    | and =>
      have hword := Spelled.phrase (s := "AND") (by simp [phrases]) (by decide)
      exact hword.concat (by simp [phrases]) (by decide)
    | or =>
      have hword := Spelled.phrase (s := "OR") (by simp [phrases]) (by decide)
      exact hword.concat (by simp [phrases]) (by decide)

end Filter

namespace Placed

def names (p : Placed) : List String := p.filter.names (p.filter.parameterName p.position)

def asked (p : Placed) : List String := p.filter.asked (p.filter.parameterName p.position)

theorem spelled_text (p : Placed) (first : Bool) : Spelled (p.text first) p.names p.asked :=
  (p.filter.spelled_introduction first).append (p.filter.spelled_fragment p.identifier _)

theorem spelled_texts (first : Bool) (ps : List Placed) :
    Spelled (texts first ps) (ps.flatMap names) (ps.flatMap asked) := by
  induction ps generalizing first with
  | nil => exact .empty
  | cons p ps ih => exact (p.spelled_text first).append (ih false)

end Placed

/-- The names in a match clause: its label or type, then those of its predicates. -/
def Group.names (g : Group) : List String := g.pattern.word :: g.placed.flatMap Placed.names

def Group.asked (g : Group) : List String := g.placed.flatMap Placed.asked

theorem Group.spelled_text (g : Group) : Spelled g.text g.names g.asked :=
  (spelled_pattern g.pattern).append (Placed.spelled_texts _ g.placed)

/-- The names in all clauses of a layout, in the order of the clauses. -/
def Layout.names (l : Layout) : List String :=
  (l.nodes.flatMap fun e => e.2.names) ++ l.links.map fun e => e.2.word

/-- The parameters that all clauses of a layout ask for, in the order of the clauses. -/
def Layout.asked (l : Layout) : List String := l.nodes.flatMap fun e => e.2.asked

theorem Layout.spelled_text (l : Layout) : Spelled l.text l.names l.asked := by
  have hnodes : Spelled (String.join (l.nodes.map fun e => e.2.text))
      (l.nodes.flatMap fun e => e.2.names) (l.nodes.flatMap fun e => e.2.asked) :=
    .join fun e _ => e.2.spelled_text
  have hlinks : Spelled (String.join (l.links.map fun e => e.2.text))
      (l.links.map fun e => e.2.word) [] := .join_names fun e _ => spelled_pattern e.2
  have hall := hnodes.append hlinks
  rwa [List.append_nil] at hall

end CypherLink
