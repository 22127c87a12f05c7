import CypherLink.Proofs.Match.Placement

/-!
Identifiers along a chain. One counter numbers all nested filters, and a node is named after the
first filter on it, so the number of an identifier says how many nested filters stand before that
one. Main statements: `find?_identifiers_ofChain`, which numbers a layout has given to which labels,
and `allotted_of_compose`.
-/

namespace CypherLink

open Entries (find?)
open Composed (farIdentifier)

namespace Target

/-- How many nested filters stand before the first one with the target. -/
def rank (fs : List Filter) (t : Target) : Nat :=
  (fs.takeWhile (·.target ≠ t)).countP Filter.isNested

variable {fs : List Filter} {f : Filter} {t u : Target}

theorem rank_cons (f : Filter) (fs : List Filter) (t : Target) : rank (f :: fs) t =
    if f.target = t then 0 else rank fs t + if f.isNested then 1 else 0 := by
  by_cases h : f.target = t <;> simp [rank, h, List.countP_cons]

theorem rank_append (h : t ∈ fs.map Filter.target) (gs : List Filter) :
    rank (fs ++ gs) t = rank fs t := by
  induction fs with
  | nil => cases h
  | cons f fs ih =>
    rw [List.cons_append, rank_cons, rank_cons]
    by_cases hf : f.target = t
    · rw [if_pos hf, if_pos hf]
    · rw [if_neg hf, if_neg hf, ih ((List.mem_cons.mp h).resolve_left (Ne.symm hf))]

theorem rank_append_new (h : f.target ∉ fs.map Filter.target) (gs : List Filter) :
    rank (fs ++ f :: gs) f.target = fs.countP Filter.isNested := by
  induction fs with
  | nil => rw [List.nil_append, rank_cons, if_pos rfl, List.countP_nil]
  | cons g fs ih =>
    simp only [List.map_cons, List.mem_cons, not_or] at h
    rw [List.cons_append, rank_cons, if_neg (Ne.symm h.1), ih h.2, List.countP_cons]

theorem isNested_of_ne_root (hf : f.target = t) (ht : t ≠ .root) : f.isNested = true :=
  Filter.isNested_iff_target.mpr (hf ▸ ht)

theorem rank_lt (h : t ∈ fs.map Filter.target) (ht : t ≠ .root) :
    rank fs t < fs.countP Filter.isNested := by
  induction fs with
  | nil => cases h
  | cons f fs ih =>
    rw [rank_cons, List.countP_cons]
    by_cases hf : f.target = t
    · rw [if_pos hf, if_pos (isNested_of_ne_root hf ht)]
      exact Nat.succ_pos _
    · rw [if_neg hf]
      exact Nat.add_lt_add_right (ih ((List.mem_cons.mp h).resolve_left (Ne.symm hf))) _

theorem eq_of_rank_eq (ht : t ∈ fs.map Filter.target) (hu : u ∈ fs.map Filter.target)
    (htr : t ≠ .root) (hur : u ≠ .root) (h : rank fs t = rank fs u) : t = u := by
  induction fs with
  | nil => cases ht
  | cons f fs ih =>
    rw [rank_cons, rank_cons] at h
    -- the first filter with one of the targets is counted for the other
    by_cases hft : f.target = t
    · by_cases hfu : f.target = u
      · exact hft.symm.trans hfu
      · rw [if_pos hft, if_neg hfu, if_pos (isNested_of_ne_root hft htr)] at h
        cases h
    · by_cases hfu : f.target = u
      · rw [if_neg hft, if_pos hfu, if_pos (isNested_of_ne_root hfu hur)] at h
        cases h
      · rw [if_neg hft, if_neg hfu] at h
        exact ih ((List.mem_cons.mp ht).resolve_left (Ne.symm hft))
          ((List.mem_cons.mp hu).resolve_left (Ne.symm hfu)) (Nat.add_right_cancel h)

end Target

theorem Occurrence.onRelationship_pattern (o : Occurrence) (root : String) :
    (o.pattern root).onRelationship = o.filter.onRelationship := by
  unfold Occurrence.pattern Filter.onRelationship
  cases o.filter.subject <;> rfl

namespace Layout

section Step

variable {root : String} {l : Layout} {o : Occurrence}

theorem identifiers_add (root : String) (l : Layout) (o : Occurrence) (label : String) :
    find? (l.add root o).identifiers label =
      (find? l.identifiers label).or
        (if o.target = .node label then some o.sequence else none) := by
  cases ht : o.target with
  | root => simp [Occurrence.add_of_root ht, place]
  | relationship type =>
    obtain ⟨via, direction, hs⟩ := Filter.subject_of_relationship ht
    simp [Layout.add, hs, place]
  | node other =>
    obtain ⟨via, type, direction, hs⟩ := Filter.subject_of_node ht
    by_cases hl : other = label
    · subst hl
      cases hi : find? l.identifiers other <;>
        simp [Layout.add, hs, place, reach, hi, Entries.find?_put]
    · cases hi : find? l.identifiers other <;>
        simp [Layout.add, hs, place, reach, hi, Entries.find?_put, hl]

theorem pattern_add (root : String) (ho : o.filter.onRelationship = false) {key : String}
    {g : Group} (hg : find? l.nodes key = some g) :
    ∃ g', find? (l.add root o).nodes key = some g' ∧ g'.pattern = g.pattern := by
  obtain ⟨joined, i, hn, hj, -⟩ := nodes_add root l o
  by_cases hk : o.target.key root = key
  · refine ⟨joined.add (o.placed i), by rw [hn, Entries.find?_put, if_pos hk], ?_⟩
    rcases hj with ⟨hr, -⟩ | ⟨q, -, rfl⟩
    · rw [o.onRelationship_pattern, ho] at hr
      cases hr
    · rw [hk, Layout.group, hg]
      rfl
  · exact ⟨g, by rw [hn, Entries.find?_put, if_neg hk, hg], rfl⟩

end Step

section Chain

variable {root : String} {fs : List Filter}

theorem ofChain_concat (root : String) (fs : List Filter) (f : Filter) :
    ofChain root (fs ++ [f]) =
      (ofChain root fs).add root ⟨f, fs.length, fs.countP Filter.isNested⟩ := by
  rw [ofChain, places, occurrences_append, addAll, List.foldl_append, Nat.zero_add, Nat.zero_add]
  rfl

theorem find?_identifiers_ofChain (root : String) (fs : List Filter) (label : String) :
    find? (ofChain root fs).identifiers label =
      if Target.node label ∈ fs.map Filter.target then some (Target.rank fs (.node label))
      else none := by
  induction fs using List.reverseRecOn with
  | nil => rfl
  | append_singleton fs f ih =>
    rw [ofChain_concat, identifiers_add, ih, List.map_append]
    by_cases hm : Target.node label ∈ fs.map Filter.target
    · rw [if_pos hm, if_pos (List.mem_append_left _ hm), Target.rank_append hm]
      rfl
    · have htarget : Occurrence.target ⟨f, fs.length, fs.countP Filter.isNested⟩ = f.target := rfl
      rw [if_neg hm, Option.none_or, htarget]
      by_cases hf : f.target = .node label
      · have hnew : f.target ∉ fs.map Filter.target := hf ▸ hm
        have hmem : Target.node label ∈ fs.map Filter.target ++ [f].map Filter.target := by
          simp [hf]
        rw [if_pos hf, if_pos hmem, ← hf, Target.rank_append_new hnew]
      · have hmem : Target.node label ∉ fs.map Filter.target ++ [f].map Filter.target := by
          rw [List.mem_append, not_or]
          exact ⟨hm, by simpa using Ne.symm hf⟩
        rw [if_neg hf, if_neg hmem]

theorem not_mem_of_alone {f : Filter} {gs : List Filter}
    (ha : (fs ++ f :: gs).Pairwise fun f g => f.onRelationship = true → g.onRelationship = false)
    {type : String} (ht : f.target = .relationship type) : f.target ∉ fs.map Filter.target := by
  intro hm
  obtain ⟨other, hother, hto⟩ := List.mem_map.mp hm
  have hf := (List.pairwise_append.mp ha).2.2 other hother f List.mem_cons_self
    (Filter.onRelationship_of_target (hto.trans ht))
  rw [Filter.onRelationship_of_target ht] at hf
  cases hf

/-- The clause of a relationship keeps its number, whatever filters come later, since none of them
is on a relationship. -/
theorem pattern_ofChain (root : String)
    (ha : fs.Pairwise fun f g => f.onRelationship = true → g.onRelationship = false) {f : Filter}
    (hf : f ∈ fs) {via type : String} {direction : Direction}
    (hs : f.subject = .relationship via type direction) :
    ∃ g, find? (ofChain root fs).nodes type = some g ∧
      g.pattern = .relationship type direction (Target.rank fs (.relationship type)) true := by
  have ht : f.target = .relationship type := by simp [Filter.target, hs]
  have hr : f.onRelationship = true := Filter.onRelationship_of_target ht
  induction fs using List.reverseRecOn with
  | nil => cases hf
  | append_singleton fs last ih =>
    rw [ofChain_concat]
    rcases List.mem_append.mp hf with hf | hf
    · obtain ⟨ha, -, hlast⟩ := List.pairwise_append.mp ha
      obtain ⟨g, hg, hp⟩ := ih ha hf
      let o : Occurrence := ⟨last, fs.length, fs.countP Filter.isNested⟩
      have ho : o.filter.onRelationship = false := hlast f hf last (by simp) hr
      obtain ⟨g', hg', hp'⟩ := pattern_add root ho hg
      exact ⟨g', hg', by rw [hp', hp, Target.rank_append (ht ▸ List.mem_map_of_mem hf)]⟩
    · obtain rfl := List.mem_singleton.mp hf
      rw [← ht, Target.rank_append_new (not_mem_of_alone ha ht)]
      exact pattern_add_self root _ hs

end Chain

end Layout

theorem Clause.relationship_inj {type : String} {direction : Direction} {bound : Bool}
    {x y : String} :
    Clause.relationship type direction x bound = Clause.relationship type direction y bound ↔
      x = y := by
  unfold Clause.relationship
  rw [String.append_left_inj, String.append_right_inj]

namespace Composed

theorem farIdentifier_injective : Function.Injective farIdentifier := by
  intro j k h
  rw [farIdentifier, farIdentifier, String.append_right_inj] at h
  exact eq_of_toString_eq h

theorem addFilters_append (root : String) (position sequence : Nat) (d : Draft)
    (fs gs : List Filter) : addFilters root position sequence d (fs ++ gs) = (do
      let d ← addFilters root position sequence d fs
      addFilters root (position + fs.length) (sequence + fs.countP Filter.isNested) d gs) := by
  induction fs generalizing position sequence d with
  | nil => rfl
  | cons f fs ih =>
    have hposition : position + 1 + fs.length = position + (f :: fs).length := by
      rw [List.length_cons]
      omega
    simp only [List.cons_append, addFilters, ih, count_cons, hposition, bind_assoc]

/-- The draft of the chain when so many of its filters are taken; the loop goes on from it with the
others, see `addFilters_append`. -/
def Reaches (root : String) (fs : List Filter) (n : Nat) (d : Draft) : Prop :=
  addFilters root 0 0 (start root) (fs.take n) = .ok d

/-- At its turn the filter at that place of the chain is assigned a clause of the draft, by number,
and the identifier that its predicate uses. -/
def Turn (root : String) (fs : List Filter) (i : Nat) (f : Filter) (d : Draft) (number : Nat)
    (identifier : String) : Prop :=
  fs[i]? = some f ∧ ∃ before, Reaches root fs i before ∧
    target root f ((fs.take i).countP Filter.isNested) before = .ok (d, number, identifier)

/-- The identifier of a node beyond the root that the filter at that place is given at its turn: the
predicate on the node uses it, or the clause of the relationship leads to it. -/
inductive Given (root : String) (fs : List Filter) (i : Nat) (identifier : String) : Prop where
  | node {f : Filter} {d : Draft} {number : Nat} {via label type : String} {direction : Direction} :
      Turn root fs i f d number identifier → f.subject = .node via label type direction →
        Given root fs i identifier
  | relationship {f : Filter} {d : Draft} {number : Nat} {used via type : String}
      {direction : Direction} :
      Turn root fs i f d number used → f.subject = .relationship via type direction →
        d.clause number = Clause.relationship type direction identifier true →
          Given root fs i identifier

section Turn

variable {root : String} {fs : List Filter} {c : Composed} {i n : Nat} {f : Filter} {d : Draft}
  {number : Nat} {used identifier : String}

theorem reaches_of_compose (h : compose root fs = .ok c) (n : Nat) : ∃ d, Reaches root fs n d := by
  obtain ⟨d, hd, -⟩ := compose_ok h
  rw [← List.take_append_drop n fs, addFilters_append] at hd
  obtain ⟨d', hd', -⟩ := Outcome.bind_eq_ok.mp hd
  exact ⟨d', hd'⟩

theorem Reaches.realises (h : Reaches root fs n d) :
    d.Realises (Layout.ofChain root (fs.take n)) :=
  realises_addFilters (realises_start root) h

theorem exists_turn (h : compose root fs = .ok c) (hf : fs[i]? = some f) :
    ∃ d number used, Turn root fs i f d number used := by
  obtain ⟨d, hd, -⟩ := compose_ok h
  rw [eq_take_append_cons hf, addFilters_append] at hd
  obtain ⟨before, hbefore, hrest⟩ := Outcome.bind_eq_ok.mp hd
  obtain ⟨after, hafter, -⟩ := Outcome.bind_eq_ok.mp hrest
  obtain ⟨d', number, used, -, -, ht, -⟩ := addFilter_ok hafter
  rw [Nat.zero_add] at ht
  exact ⟨d', number, used, hf, before, hbefore, ht⟩

theorem mem_take (hf : fs[i]? = some f) (hi : i < n) : f ∈ fs.take n := by
  apply List.mem_of_getElem? (i := i)
  rw [List.getElem?_take_of_lt hi, hf]

theorem rank_at_new (hf : fs[i]? = some f) (hm : f.target ∉ (fs.take i).map Filter.target) :
    Target.rank fs f.target = (fs.take i).countP Filter.isNested := by
  conv_lhs => rw [eq_take_append_cons hf]
  exact Target.rank_append_new hm _

theorem rank_take {t : Target} (h : t ∈ (fs.take n).map Filter.target) :
    Target.rank (fs.take n) t = Target.rank fs t := by
  conv_rhs => rw [← List.take_append_drop n fs]
  exact (Target.rank_append h _).symm

theorem Turn.filter_eq {g : Filter} (h : Turn root fs i g d number used) (hf : fs[i]? = some f) :
    g = f := Option.some.inj (h.1.symm.trans hf)

theorem Turn.identifier_eq (h : Turn root fs i f d number used) {via label type : String}
    {direction : Direction} (hs : f.subject = .node via label type direction) :
    used = farIdentifier (Target.rank fs f.target) := by
  obtain ⟨hf, before, hb, ht⟩ := h
  have htarget : f.target = .node label := by simp [Filter.target, hs]
  have hknown : Entries.find? before.identifiers label =
      (if Target.node label ∈ (fs.take i).map Filter.target
        then some (Target.rank (fs.take i) (.node label)) else none).map farIdentifier := by
    rw [hb.realises.identifiers, Entries.find?_mapValues, Layout.find?_identifiers_ofChain]
  rw [← htarget] at hknown
  by_cases hm : f.target ∈ (fs.take i).map Filter.target
  · rw [if_pos hm, rank_take hm] at hknown
    obtain ⟨-, -, ⟨hi, -⟩ | ⟨hi, -⟩⟩ := target_node ht hs
    · exact Option.some.inj (hi.symm.trans hknown)
    · rw [hi] at hknown
      cases hknown
  · rw [if_neg hm] at hknown
    obtain ⟨-, -, ⟨hi, -⟩ | ⟨-, hi, -⟩⟩ := target_node ht hs
    · rw [hi] at hknown
      cases hknown
    · rw [hi, rank_at_new hf hm]

theorem Turn.clause_eq (h : Turn root fs i f d number used)
    (ha : fs.Pairwise fun f g => f.onRelationship = true → g.onRelationship = false)
    {via type : String} {direction : Direction}
    (hs : f.subject = .relationship via type direction) : d.clause number =
      Clause.relationship type direction (farIdentifier (Target.rank fs f.target)) true := by
  obtain ⟨hf, before, -, ht⟩ := h
  have htarget : f.target = .relationship type := by simp [Filter.target, hs]
  have hnew : f.target ∉ (fs.take i).map Filter.target := by
    rw [eq_take_append_cons hf] at ha
    exact Layout.not_mem_of_alone ha htarget
  obtain ⟨-, -, -, hput⟩ := target_relationship ht hs
  obtain ⟨rfl, rfl⟩ := Prod.mk.inj hput
  rw [rank_at_new hf hnew]
  exact Draft.clause_make _ _

theorem given_iff (h : compose root fs = .ok c) (hf : fs[i]? = some f) (hn : f.isNested = true) :
    Given root fs i identifier ↔ identifier = farIdentifier (Target.rank fs f.target) := by
  have ha := (accepted_of_compose h).alone
  constructor
  · rintro (⟨ht, hs⟩ | ⟨ht, hs, hclause⟩)
    · obtain rfl := ht.filter_eq hf
      exact ht.identifier_eq hs
    · obtain rfl := ht.filter_eq hf
      exact Clause.relationship_inj.mp (hclause.symm.trans (ht.clause_eq ha hs))
  · rintro rfl
    obtain ⟨d, number, used, ht⟩ := exists_turn h hf
    cases hs : f.subject with
    | root => simp [Filter.isNested, hs, Subject.via?] at hn
    | unspecified => simp [Filter.isNested, hs, Subject.via?] at hn
    | node via label type direction => exact .node (ht.identifier_eq hs ▸ ht) hs
    | relationship via type direction => exact .relationship ht hs (ht.clause_eq ha hs)

theorem Given.isNested (h : Given root fs i identifier) (hf : fs[i]? = some f) :
    f.isNested = true := by
  rcases h with ⟨ht, hs⟩ | ⟨ht, hs, -⟩
  · obtain rfl := ht.filter_eq hf
    simp [Filter.isNested, hs, Subject.via?]
  · obtain rfl := ht.filter_eq hf
    simp [Filter.isNested, hs, Subject.via?]

end Turn

/-- Among so many first filters of the chain there is one with the target that is given the
identifier. -/
def Held (root : String) (fs : List Filter) (n : Nat) (t : Target) (identifier : String) : Prop :=
  ∃ i < n, ∃ f, fs[i]? = some f ∧ f.target = t ∧ Given root fs i identifier

/-- The identifiers of nodes beyond the root when so many filters of the chain are taken: each
nested filter was given one, each is numbered below the count of nested filters, and two are the
same exactly if they belong to one label or both to the relationship. The draft knows those of the
labels, and the clause of the relationship leads to its own. -/
structure Allotted (root : String) (fs : List Filter) (n : Nat) (d : Draft) : Prop where
  given : ∀ i < n, ∀ f, fs[i]? = some f → f.isNested = true →
    ∃ identifier, Given root fs i identifier
  numbered : ∀ t identifier, Held root fs n t identifier →
    ∃ k < (fs.take n).countP Filter.isNested, identifier = farIdentifier k
  same_iff : ∀ t t' identifier identifier', Held root fs n t identifier →
    Held root fs n t' identifier' → (identifier = identifier' ↔ t = t')
  known : ∀ label identifier,
    Entries.find? d.identifiers label = some identifier ↔ Held root fs n (.node label) identifier
  leads : ∀ i < n, ∀ f via type direction identifier, fs[i]? = some f →
    f.subject = .relationship via type direction → Given root fs i identifier →
      ∃ number, Entries.find? d.nodes type = some number ∧
        (Clause.relationship type direction identifier true).toList <+: (d.clause number).toList

section Allotted

variable {root : String} {fs : List Filter} {c : Composed} (h : compose root fs = .ok c) {n : Nat}

include h

theorem held_iff {t : Target} {identifier : String} : Held root fs n t identifier ↔
    t ≠ .root ∧ t ∈ (fs.take n).map Filter.target ∧
      identifier = farIdentifier (Target.rank fs t) := by
  constructor
  · rintro ⟨i, hi, f, hf, rfl, hg⟩
    have hn := hg.isNested hf
    exact ⟨Filter.isNested_iff_target.mp hn, List.mem_map_of_mem (mem_take hf hi),
      (given_iff h hf hn).mp hg⟩
  · rintro ⟨hr, hm, hid⟩
    obtain ⟨f, hf, rfl⟩ := List.mem_map.mp hm
    obtain ⟨i, hi⟩ := List.getElem?_of_mem hf
    rw [List.getElem?_take, Option.ite_none_right_eq_some] at hi
    obtain ⟨hlt, hfs⟩ := hi
    exact ⟨i, hlt, f, hfs, rfl, (given_iff h hfs (Filter.isNested_iff_target.mpr hr)).mpr hid⟩

theorem leads_of_reaches {d : Draft} (hd : Reaches root fs n d) {f : Filter} (hf : f ∈ fs.take n)
    {via type : String} {direction : Direction}
    (hs : f.subject = .relationship via type direction) :
    ∃ number, Entries.find? d.nodes type = some number ∧
      (Clause.relationship type direction (farIdentifier (Target.rank fs f.target)) true).toList <+:
        (d.clause number).toList := by
  have ht : f.target = .relationship type := by simp [Filter.target, hs]
  have ha := (accepted_of_compose h).alone.sublist (List.take_sublist n fs)
  obtain ⟨g, hg, hp⟩ := Layout.pattern_ofChain root ha hf hs
  have htext : (Entries.find? d.nodes type).map d.clause = some g.text := by
    rw [← Draft.find?_texts, hd.realises.texts, Entries.find?_mapValues, hg]
    rfl
  obtain ⟨number, hnumber, hclause⟩ := Option.map_eq_some_iff.mp htext
  refine ⟨number, hnumber, ?_⟩
  rw [← ht, rank_take (List.mem_map_of_mem hf)] at hp
  rw [hclause, Group.text, hp, String.toList_append]
  exact List.prefix_append _ _

theorem known_iff {d : Draft} (hd : Reaches root fs n d) {label identifier : String} :
    Entries.find? d.identifiers label = some identifier ↔
      Held root fs n (.node label) identifier := by
  rw [held_iff h, hd.realises.identifiers, Entries.find?_mapValues,
    Layout.find?_identifiers_ofChain]
  by_cases hm : Target.node label ∈ (fs.take n).map Filter.target
  · rw [if_pos hm, rank_take hm, Option.map_some, Option.some.injEq, eq_comm]
    exact ⟨fun heq => ⟨nofun, hm, heq⟩, fun heq => heq.2.2⟩
  · rw [if_neg hm]
    exact iff_of_false nofun fun heq => hm heq.2.1

end Allotted

/-- Identifiers are handed out without a clash. At every point of composing a chain, each nested
filter taken so far was given an identifier `m<k>` with `k` below the number of nested filters so
far; filters on one label were given the same identifier and filters on different labels different
ones; and the far node of the relationship has an identifier that no label has, before or after. -/
theorem allotted_of_compose {root : String} {fs : List Filter} {c : Composed}
    (h : compose root fs = .ok c) (n : Nat) :
    ∃ d, Reaches root fs n d ∧ Allotted root fs n d := by
  obtain ⟨d, hd⟩ := reaches_of_compose h n
  refine ⟨d, hd, ?_, ?_, ?_, ?_, ?_⟩
  · intro i _ f hf hn
    exact ⟨_, (given_iff h hf hn).mpr rfl⟩
  · intro t identifier ht
    obtain ⟨hr, hm, rfl⟩ := (held_iff h).mp ht
    refine ⟨_, ?_, rfl⟩
    rw [← rank_take hm]
    exact Target.rank_lt hm hr
  · intro t t' identifier identifier' ht ht'
    obtain ⟨hr, hm, rfl⟩ := (held_iff h).mp ht
    obtain ⟨hr', hm', rfl⟩ := (held_iff h).mp ht'
    rw [farIdentifier_injective.eq_iff, ← rank_take hm, ← rank_take hm']
    exact ⟨Target.eq_of_rank_eq hm hm' hr hr', fun heq => heq ▸ rfl⟩
  · exact fun label identifier => known_iff h hd
  · intro i hi f via type direction identifier hf hs hg
    rw [(given_iff h hf (hg.isNested hf)).mp hg]
    exact leads_of_reaches h hd (mem_take hf hi) hs

/-- The relationship is called like a label that is named before it and after it. -/
def crossing : List Filter :=
  [⟨"name", .text "Acme", .equal, .none, false, .property,
      .node "employer" "Company" "WORKS_AT" .outgoing⟩,
    ⟨"since", .int 2010, .less, .and, false, .property, .relationship "deals" "Company" .incoming⟩,
    ⟨"name", .text "Riga", .equal, .and, false, .property,
      .node "home" "City" "LIVES_IN" .outgoing⟩,
    ⟨"age", .int 30, .greater, .and, false, .property,
      .node "employer" "Company" "WORKS_AT" .outgoing⟩]

theorem allotted_crossing : ∃ c, compose "Person" crossing = .ok c ∧
    ∃ d, Reaches "Person" crossing 4 d ∧ Allotted "Person" crossing 4 d ∧
      d.identifiers = [("Company", "m0"), ("City", "m2")] := by
  obtain ⟨c, hc⟩ : ∃ c, compose "Person" crossing = .ok c :=
    Outcome.eq_ok_of_isSome (by decide +kernel)
  obtain ⟨d, hd, ha⟩ := allotted_of_compose hc 4
  have hids : ((addFilters "Person" 0 0 (start "Person") (crossing.take 4)).toOption.map
      Draft.identifiers) = some [("Company", "m0"), ("City", "m2")] := by decide +kernel
  rw [hd] at hids
  exact ⟨c, hc, d, hd, ha, Option.some.inj hids⟩

end Composed

end CypherLink
