import CypherLink.Proofs.Match.Placement
import CypherLink.Proofs.Statement.Lexer

/-!
How the predicates of a clause are introduced. The first one is to open the condition; it does so
unless the label or type of the clause holds the word already. Main statements: `introduced_iff` and
`introduced_iff_of_compose`.
-/

namespace CypherLink

open Composed (compose)
open Name (tick quoted)

def Token.outside? : Token → Option Char
  | .outside c => some c
  | .name _ => none

/-- What a reader finds outside the names. -/
def outside (ts : List Token) : List Char := ts.filterMap Token.outside?

theorem outside_append (ts us : List Token) : outside (ts ++ us) = outside ts ++ outside us :=
  List.filterMap_append

theorem outside_name_cons (name : String) (ts : List Token) :
    outside (.name name :: ts) = outside ts := rfl

theorem outside_map (cs : List Char) : outside (cs.map .outside) = cs := by
  rw [outside, List.filterMap_map]
  exact List.filterMap_some

namespace Pattern

/-- A pattern by itself opens no condition, whatever its name holds. -/
theorem lex_text (p : Pattern) :
    ∃ ts, lex p.text.toList = some ts ∧ ¬ whereWord <:+: outside ts := by
  obtain ⟨pre, post, ht, hpre, hpost⟩ := p.text_around
  have hblank : Framed (post ++ [' ']) := hpost.append (by decide)
  have htick : tick ∉ post ++ [' '] := hblank.notMem (by decide) (by decide)
  have hhead : (post ++ [' ']).head? ≠ some tick := fun h => htick (List.mem_of_mem_head? h)
  have hlast : lex (post ++ [' ']) = some ((post ++ [' ']).map .outside) := by
    have h := lex_append htick []
    simpa [lex_nil] using h
  refine ⟨pre.map .outside ++ .name p.word :: (post ++ [' ']).map .outside, ?_, ?_⟩
  · rw [ht, List.append_assoc, lex_append (hpre.notMem (by decide) (by decide)),
      lex_quoted p.word hhead, hlast]
    rfl
  · rw [outside_append, outside_name_cons, outside_map, outside_map]
    exact not_infix_of_notMem ((hpre.append hblank).notMem (by decide) (by decide))

end Pattern

namespace Group

/-- The first predicate opens the condition of the clause, and each other one follows its own
connective. -/
def Introduced (g : Group) : Prop :=
  match g.placed with
  | [] => g.text = g.pattern.text
  | p :: ps => g.text = g.pattern.text ++ "WHERE " ++ p.fragment ++
      String.join (ps.map fun q => q.filter.connective.symbol ++ " " ++ q.fragment)

theorem symbol_ne_where (c : Connective) : c.symbol ++ " " ≠ "WHERE " := by
  cases c <;> decide

theorem text_false_ne (p : Placed) : p.text false ≠ "WHERE " ++ p.fragment := by
  intro h
  have hs : p.filter.connective.symbol ++ " " ++ p.fragment = "WHERE " ++ p.fragment := h
  exact symbol_ne_where _ ((String.append_left_inj p.fragment).mp hs)

theorem introduced_iff (g : Group) :
    g.Introduced ↔ (g.placed ≠ [] → ¬ whereWord <:+: g.pattern.word.toList) := by
  rw [← Pattern.hasWhere_text]
  unfold Introduced Group.text
  cases hp : g.placed with
  | nil => simp [Placed.texts]
  | cons p ps =>
    simp only [Placed.texts, Grouping.texts_false]
    cases hw : g.pattern.text.hasWhere with
    | false => simp [Placed.text_first, String.append_assoc]
    | true =>
      -- the first predicate follows its connective as all others do
      have hne := text_false_ne p
      simp only [String.append_assoc, String.append_right_inj, Bool.not_true, ne_eq, reduceCtorEq,
        not_false_eq_true, not_true_eq_false, forall_const, iff_false]
      rw [← String.append_assoc, String.append_left_inj]
      exact hne

end Group

namespace Layout

/-- Each clause holds its predicates in the order of the chain, of which that many were taken. -/
structure Ascending (count : Nat) (l : Layout) : Prop where
  sorted : ∀ e ∈ l.nodes, e.2.placed.Pairwise fun p q => p.position < q.position
  below : ∀ x ∈ l.placements, x.2.position < count

variable {root : String} {fs : List Filter} {l : Layout}

theorem ascending_add {o : Occurrence} (h : Ascending o.position l) :
    Ascending (o.position + 1) (l.add root o) := by
  obtain ⟨g, i, hn, hg, -⟩ := nodes_add root l o
  have hbefore : ∀ p ∈ g.placed, p.position < o.position := by
    intro p hp
    exact h.below _ (mem_placements_of_joined hg hp)
  have hsorted : g.placed.Pairwise fun p q => p.position < q.position := by
    rcases hg with ⟨-, rfl⟩ | ⟨q, -, rfl⟩
    · exact .nil
    · unfold group
      cases hf : Entries.find? l.nodes (o.target.key root) with
      | none => exact .nil
      | some g => exact h.sorted _ (Entries.mem_of_find? hf)
  refine ⟨?_, ?_⟩
  · intro e he
    rw [hn] at he
    rcases Entries.mem_put he with he | rfl
    · exact h.sorted e he
    · refine List.pairwise_append.mpr ⟨hsorted, List.pairwise_singleton _ _, ?_⟩
      intro p hp q hq
      obtain rfl := List.mem_singleton.mp hq
      exact hbefore p hp
  · intro x hx
    rcases mem_placements_add hx with hx | ⟨-, hi, -⟩
    · exact Nat.lt_succ_of_lt (h.below x hx)
    · rw [hi]
      exact Nat.lt_succ_self _

theorem ascending_addAll {position : Nat} (h : Ascending position l) (root : String)
    (sequence : Nat) (fs : List Filter) :
    Ascending (position + fs.length) (l.addAll root (occurrences position sequence fs)) := by
  induction fs generalizing position sequence l with
  | nil => exact h
  | cons f fs ih =>
    have hf : Ascending (position + 1) (l.add root ⟨f, position, sequence⟩) :=
      ascending_add (o := ⟨f, position, sequence⟩) h
    have hfs := ih hf (if f.isNested then sequence + 1 else sequence)
    rw [List.length_cons, Nat.add_comm fs.length, ← Nat.add_assoc]
    exact hfs

theorem ascending_ofChain (root : String) (fs : List Filter) :
    Ascending fs.length (ofChain root fs) := by
  have hstart : Ascending 0 (start root) := ⟨by simp [start], by simp [start, placements]⟩
  have h := ascending_addAll hstart root 0 fs
  rwa [Nat.zero_add] at h

theorem connective_of_mem_tail (ha : Composed.Accepted root 0 false fs) {e : String × Group}
    (he : e ∈ (ofChain root fs).nodes) {p : Placed} (hp : p ∈ e.2.placed.tail) :
    p.filter.connective.symbol = "AND" ∨ p.filter.connective.symbol = "OR" := by
  have hf := filter_of_mem_placements (mem_placements he (List.mem_of_mem_tail hp))
  obtain ⟨b, hpass⟩ := ha.passes hf
  have hsorted := (ascending_ofChain root fs).sorted e he
  obtain ⟨q, qs, hq⟩ := List.exists_cons_of_ne_nil (l := e.2.placed) (by rintro h; simp [h] at hp)
  rw [hq, List.pairwise_cons] at hsorted
  rw [hq, List.tail_cons] at hp
  -- it follows another one in its clause, and so in the chain
  have hlt : q.position < p.position := hsorted.1 p hp
  have hnone : p.filter.connective ≠ .none := by
    intro hnone
    have hzero : 0 + p.position = 0 := hpass.connective.mp hnone
    omega
  cases hc : p.filter.connective with
  | none => exact absurd hc hnone
  | and => exact .inl rfl
  | or => exact .inr rfl

end Layout

namespace Grouping

/-- In a composed statement no pattern opens a condition. The predicates of a clause are introduced
as they are to be exactly if there is none or the label or type of the clause does not hold the word
with blanks around it. -/
theorem introduced_iff_of_compose {root : String} {fs : List Filter} {c : Composed}
    (h : compose root fs = .ok c) :
    c.text = (Layout.ofChain root fs).text ∧
      ∀ key g, (key, g) ∈ (Layout.ofChain root fs).nodes →
        (∃ ts, lex g.pattern.text.toList = some ts ∧ ¬ whereWord <:+: outside ts) ∧
        (∀ p ∈ g.placed.tail,
          p.filter.connective.symbol = "AND" ∨ p.filter.connective.symbol = "OR") ∧
        (g.Introduced ↔ (g.placed ≠ [] → ¬ whereWord <:+: key.toList)) := by
  refine ⟨Composed.text_of_compose h, ?_⟩
  intro key g hg
  have hword : g.pattern.word = key := (Layout.keyed_ofChain root fs).word _ hg
  refine ⟨g.pattern.lex_text, ?_, ?_⟩
  · intro p hp
    exact Layout.connective_of_mem_tail (Composed.accepted_of_compose h) hg hp
  · rw [g.introduced_iff, hword]

/-- A label that a reader may take for a condition. -/
def misleading : String := "a WHERE b"

def named : List Filter := [⟨"name", .text "x", .equal, .none, false, .property, .root⟩]

theorem introduced_turns_not_misleading :
    (∃ c, compose "Person" turns = .ok c ∧
        ∀ key g, (key, g) ∈ (Layout.ofChain "Person" turns).nodes → g.Introduced) ∧
      ∃ c, compose misleading named = .ok c ∧
        ∃ g, (misleading, g) ∈ (Layout.ofChain misleading named).nodes ∧ ¬ g.Introduced := by
  constructor
  · obtain ⟨c, hc⟩ := compose_turns
    have hkeys : ∀ key ∈ Entries.keys (Layout.ofChain "Person" turns).nodes,
        ¬ whereWord <:+: key.toList := by decide +kernel
    refine ⟨c, hc, ?_⟩
    intro key g hg
    obtain ⟨-, -, hi⟩ := (introduced_iff_of_compose hc).2 key g hg
    exact hi.mpr fun _ => hkeys key (List.mem_map_of_mem hg)
  · obtain ⟨c, hc⟩ : ∃ c, compose misleading named = .ok c :=
      Outcome.eq_ok_of_isSome (by decide +kernel)
    have hg : (misleading, ⟨.node .root misleading, [⟨named[0], 0, .root⟩]⟩) ∈
        (Layout.ofChain misleading named).nodes := List.mem_singleton.mpr rfl
    refine ⟨c, hc, _, hg, ?_⟩
    intro hi
    obtain ⟨-, -, hiff⟩ := (introduced_iff_of_compose hc).2 _ _ hg
    have hword : whereWord <:+: misleading.toList := by decide +kernel
    exact hiff.mp hi (List.cons_ne_nil _ _) hword

end Grouping

end CypherLink
