import CypherLink.Proofs.Match.Arrangement

/-!
The truth of a chain of filters and of the conditions that its clauses carry. Statements join the
clauses by conjunction, so what a composed chain says depends on where its alternatives stand. Main
statement: `meaning_iff_of_accepted`.
-/

namespace CypherLink

/-- Predicates in order, each with the connective before it and its truth value. -/
abbrev Verdicts := List (Connective × Bool)

namespace Verdicts

/-- The truth of the predicates after a conjunction; it ends at the next alternative. -/
def holdsAfter (b : Bool) : Verdicts → Bool
  | [] => b
  | (.or, a) :: rest => b || holdsAfter a rest
  | (.and, a) :: rest | (.none, a) :: rest => holdsAfter (b && a) rest

/-- Conjunction binds tighter; the connective of the first predicate does not count. -/
def holds : Verdicts → Bool
  | [] => true
  | (_, a) :: rest => holdsAfter a rest

theorem holdsAfter_of_conjoined {b : Bool} {ps : Verdicts} (h : ∀ p ∈ ps, p.1 ≠ .or) :
    holdsAfter b ps = (b && ps.all (·.2)) := by
  induction ps generalizing b with
  | nil => simp [holdsAfter]
  | cons p ps ih =>
    obtain ⟨c, a⟩ := p
    have hps := fun q hq => h q (List.mem_cons_of_mem _ hq)
    cases c with
    | or => exact absurd rfl (h (.or, a) List.mem_cons_self)
    | _ => rw [holdsAfter, ih hps, List.all_cons, Bool.and_assoc]

theorem holds_of_conjoined {ps : Verdicts} (h : ∀ p ∈ ps, p.1 ≠ .or) :
    holds ps = ps.all (·.2) := by
  cases ps with
  | nil => rfl
  | cons p ps =>
    rw [holds, List.all_cons]
    exact holdsAfter_of_conjoined fun q hq => h q (List.mem_cons_of_mem _ hq)

theorem holdsAfter_append_or (b a : Bool) (ps qs : Verdicts) :
    holdsAfter b (ps ++ (.or, a) :: qs) = (holdsAfter b ps || holdsAfter a qs) := by
  induction ps generalizing b with
  | nil => rfl
  | cons p ps ih =>
    obtain ⟨c, d⟩ := p
    cases c with
    | or => simp only [List.cons_append, holdsAfter, ih, Bool.or_assoc]
    | _ => simp only [List.cons_append, holdsAfter, ih]

theorem holds_append_or {ps qs : Verdicts} {a : Bool} (h : ps ≠ []) :
    holds (ps ++ (.or, a) :: qs) = (holds ps || holds ((.or, a) :: qs)) := by
  obtain ⟨p, ps, rfl⟩ := List.exists_cons_of_ne_nil h
  exact holdsAfter_append_or p.2 a ps qs

theorem holdsAfter_of_all {ps : Verdicts} (h : ∀ p ∈ ps, p.2 = true) :
    holdsAfter true ps = true := by
  induction ps with
  | nil => rfl
  | cons p ps ih =>
    obtain ⟨c, a⟩ := p
    obtain rfl : a = true := h (c, a) List.mem_cons_self
    have hps := ih fun q hq => h q (List.mem_cons_of_mem _ hq)
    cases c <;> simp [holdsAfter, hps]

theorem holds_of_all {ps : Verdicts} (h : ∀ p ∈ ps, p.2 = true) : holds ps = true := by
  cases ps with
  | nil => rfl
  | cons p ps =>
    rw [holds, h p List.mem_cons_self]
    exact holdsAfter_of_all fun q hq => h q (List.mem_cons_of_mem _ hq)

end Verdicts

namespace Grouping

open Composed (compose)
open Verdicts (holds)

variable {v : Nat → Bool} {os : List Occurrence}

/-- The filters with the truth values of their predicates, given by their places. -/
def verdicts (v : Nat → Bool) (os : List Occurrence) : Verdicts :=
  os.map fun o => (o.filter.connective, v o.position)

/-- The truth of a statement that has the filters in the clauses of their targets. -/
def meaning (v : Nat → Bool) (os : List Occurrence) : Bool :=
  (targets os).all fun t => holds (verdicts v (members os t))

theorem all_verdicts (v : Nat → Bool) (os : List Occurrence) :
    (verdicts v os).all (·.2) = os.all (v ·.position) := by
  rw [verdicts, List.all_map]
  rfl

theorem conjoined_verdicts (h : ∀ o ∈ os, o.filter.connective ≠ .or) :
    ∀ p ∈ verdicts v os, p.1 ≠ .or := by
  intro p hp
  obtain ⟨o, ho, rfl⟩ := List.mem_map.mp hp
  exact h o ho

theorem meaning_of_conjoined (h : ∀ o ∈ os, o.filter.connective ≠ .or) :
    meaning v os = holds (verdicts v os) := by
  have hm : ∀ t, holds (verdicts v (members os t)) = (members os t).all (v ·.position) := by
    intro t
    rw [← all_verdicts]
    apply Verdicts.holds_of_conjoined
    exact conjoined_verdicts fun o ho => h o (mem_members.mp ho).1
  rw [Verdicts.holds_of_conjoined (conjoined_verdicts h), all_verdicts, Bool.eq_iff_iff, meaning]
  simp only [List.all_eq_true, hm, mem_members]
  constructor
  · intro ht o ho
    exact ht o.target (mem_targets.mpr (.inr (List.mem_map_of_mem ho))) o ⟨ho, rfl⟩
  · rintro hos t - o ⟨ho, -⟩
    exact hos o ho

theorem meaning_of_root (h : ∀ o ∈ os, o.target = .root) :
    meaning v os = holds (verdicts v os) := by
  have hmembers : members os .root = os := List.filter_eq_self.mpr (by simpa using h)
  have htargets : targets os = [.root] := by
    rw [targets_eq, beyond, List.filter_eq_nil_iff.mpr]
    · rfl
    · intro t ht
      obtain ⟨o, ho, rfl⟩ := List.mem_map.mp ht
      simp [h o ho]
  rw [meaning, htargets, List.all_cons, hmembers, List.all_nil, Bool.and_true]

section Chain

variable {root : String} {fs : List Filter}

theorem conjoined_of_nested (ha : Composed.Accepted root 0 false fs) {o : Occurrence}
    (ho : o ∈ places fs) (hn : o.target ≠ .root) : o.filter.connective ≠ .or :=
  ha.conjoined (filter_mem_of_mem_places ho) (Filter.isNested_iff_target.mpr hn)

theorem meaning_of_nested_false (ha : Composed.Accepted root 0 false fs) {o : Occurrence}
    (ho : o ∈ places fs) (hn : o.target ≠ .root) (hv : v o.position = false) :
    meaning v (places fs) = false := by
  -- the clause of a nested filter is a conjunction
  have hc : ∀ p ∈ members (places fs) o.target, p.filter.connective ≠ .or := by
    intro p hp
    obtain ⟨hp, ht⟩ := mem_members.mp hp
    exact conjoined_of_nested ha hp (ht ▸ hn)
  have hclause : holds (verdicts v (members (places fs) o.target)) = false := by
    rw [Verdicts.holds_of_conjoined (conjoined_verdicts hc), all_verdicts, List.all_eq_false]
    exact ⟨o, mem_members.mpr ⟨ho, rfl⟩, by simp [hv]⟩
  rw [meaning, List.all_eq_false]
  refine ⟨o.target, ?_, by simp [hclause]⟩
  exact mem_targets.mpr (.inr (List.mem_map_of_mem ho))

theorem ne_nil_of_alternative (ha : Composed.Accepted root 0 false fs) {o : Occurrence}
    {xs ys : List Occurrence} (h : places fs = xs ++ o :: ys) (ho : o.filter.connective = .or) :
    xs ≠ [] := by
  rintro rfl
  have hf : fs[0]? = some o.filter := by
    rw [← map_filter_occurrences 0 0 fs, ← places, h]
    rfl
  obtain ⟨b, hp⟩ := ha.passes hf
  have hnone := hp.connective.mpr rfl
  simp [ho] at hnone

theorem holds_verdicts_append {xs ys : List Occurrence} {o : Occurrence} (hx : xs ≠ [])
    (ho : o.filter.connective = .or) : holds (verdicts v (xs ++ o :: ys)) =
      (holds (verdicts v xs) || holds (verdicts v (o :: ys))) := by
  have hv : verdicts v xs ≠ [] := by
    rwa [verdicts, ne_eq, List.map_eq_nil_iff]
  simp only [verdicts, List.map_append, List.map_cons, ho] at hv ⊢
  exact Verdicts.holds_append_or hv

theorem holds_verdicts_of_all {xs : List Occurrence} (h : ∀ o ∈ xs, v o.position = true) :
    holds (verdicts v xs) = true := by
  apply Verdicts.holds_of_all
  intro p hp
  obtain ⟨o, ho, rfl⟩ := List.mem_map.mp hp
  exact h o ho

theorem exists_lost_case (ha : Composed.Accepted root 0 false fs) {o p : Occurrence}
    (ho : o ∈ places fs) (hor : o.filter.connective = .or) (hp : p ∈ places fs)
    (hn : p.target ≠ .root) :
    ∃ v, holds (verdicts v (places fs)) = true ∧ meaning v (places fs) = false := by
  obtain ⟨xs, ys, h⟩ := List.append_of_mem ho
  have hx := ne_nil_of_alternative ha h hor
  have hpo : p ≠ o := by
    rintro rfl
    exact conjoined_of_nested ha hp hn hor
  rw [h] at hp
  -- the side of the alternative that has the nested filter fails, and the other side holds
  rcases List.mem_append.mp hp with hpx | hpy
  · refine ⟨fun i => decide (xs.length ≤ i), ?_, ?_⟩
    · rw [h, holds_verdicts_append hx hor, Bool.or_eq_true]
      right
      apply holds_verdicts_of_all
      intro q hq
      exact decide_eq_true (le_position h hq)
    · apply meaning_of_nested_false ha (h ▸ hp) hn
      have := position_lt h hpx
      exact decide_eq_false (by omega)
  · have hpy : p ∈ ys := (List.mem_cons.mp hpy).resolve_left hpo
    refine ⟨fun i => decide (i < xs.length), ?_, ?_⟩
    · rw [h, holds_verdicts_append hx hor, Bool.or_eq_true]
      left
      apply holds_verdicts_of_all
      intro q hq
      exact decide_eq_true (position_lt h hq)
    · apply meaning_of_nested_false ha (h ▸ hp) hn
      have := le_position h (List.mem_cons_of_mem o hpy)
      exact decide_eq_false (by omega)

theorem meaning_iff_of_accepted (ha : Composed.Accepted root 0 false fs) :
    (∀ v, meaning v (places fs) = holds (verdicts v (places fs))) ↔
      (∀ f ∈ fs, f.connective ≠ .or) ∨ ∀ f ∈ fs, f.isNested = false := by
  constructor
  · intro h
    by_contra hcon
    push Not at hcon
    obtain ⟨⟨f, hf, hor⟩, g, hg, hn⟩ := hcon
    obtain ⟨o, ho, rfl⟩ := mem_places hf
    obtain ⟨p, hp, rfl⟩ := mem_places hg
    obtain ⟨v, hv, hm⟩ :=
      exists_lost_case ha ho hor hp (Filter.isNested_iff_target.mp (by simpa using hn))
    rw [← h v, hm] at hv
    cases hv
  · rintro (h | h) v
    · exact meaning_of_conjoined fun o ho => h o.filter (filter_mem_of_mem_places ho)
    · apply meaning_of_root
      intro o ho
      by_contra hn
      have := Filter.isNested_iff_target.mpr hn
      simp [h o.filter (filter_mem_of_mem_places ho)] at this

end Chain

/-- The clauses of a composed statement carry the predicates by target. Taken together they mean
what the chain says if it has no alternative or no nested filter; else some case is lost. -/
theorem meaning_iff_of_compose {root : String} {fs : List Filter} {c : Composed}
    (h : compose root fs = .ok c) (hw : Wordless root fs) (hc : Clear root fs) :
    c.text = String.join ((targets (places fs)).map (clause root (places fs))) ++
        String.join ((Layout.ofChain root fs).links.map fun e => e.2.text) ∧
      ((∀ v, meaning v (places fs) = holds (verdicts v (places fs))) ↔
        (∀ f ∈ fs, f.connective ≠ .or) ∨ ∀ f ∈ fs, f.isNested = false) := by
  have ha := Composed.accepted_of_compose h
  refine ⟨?_, meaning_iff_of_accepted ha⟩
  rw [Composed.text_of_compose h, Layout.text, text_nodes_ofChain ha hw hc]

/-- Persons who work at a company or are over an age. -/
def either : List Filter :=
  [⟨"name", .text "Acme", .equal, .none, false, .property,
      .node "employer" "Company" "WORKS_AT" .outgoing⟩,
    ⟨"age", .int 30, .greater, .or, false, .property, .root⟩]

theorem wordless_either : Wordless "Person" either := by
  unfold Wordless
  decide +kernel

theorem clear_either : Clear "Person" either := by
  intro type h
  simp [either, Filter.target] at h

theorem meaning_of_either : ∃ c, compose "Person" either = .ok c ∧
    ¬ ∀ v, meaning v (places either) = holds (verdicts v (places either)) := by
  obtain ⟨c, hc⟩ : ∃ c, compose "Person" either = .ok c :=
    Outcome.eq_ok_of_isSome (by decide +kernel)
  refine ⟨c, hc, ?_⟩
  rw [(meaning_iff_of_compose hc wordless_either clear_either).2]
  decide

end Grouping

end CypherLink
