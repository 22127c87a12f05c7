import CypherLink.Proofs.Match.Allocation

/-!
How the nodes of a composed chain hang together. The first filter on nodes with a label hands out
their identifier and leads there from the root node; no later filter adds a way. Main statements:
`connected_ofChain` and `linked_iff_of_compose`.
-/

namespace CypherLink

open Composed (compose)
open Entries (find? put values)

theorem Entries.eq_of_find?_of_nodup {κ α : Type} [DecidableEq κ] {m : Entries κ α} {j k : κ} {v : α}
    (hn : (values m).Nodup) (hj : find? m j = some v) (hk : find? m k = some v) : j = k := by
  have h := List.inj_on_of_nodup_map hn (mem_of_find? hj) (mem_of_find? hk) rfl
  exact (Prod.mk.inj h).1

namespace Layout

/-- Each filter on nodes has a clause that leads from the root node to the identifier of its
predicate, over the relationship that the filter names and in its direction. -/
def Linked (fs : List Filter) (l : Layout) : Prop :=
  ∀ i f via label type direction, fs[i]? = some f → f.subject = .node via label type direction →
    ∃ k, find? l.identifiers label = some k ∧
      (∀ x ∈ l.placements, x.2.position = i → x.2.identifier = .far k) ∧
      Pattern.relationship type direction k false ∈ values l.links

/-- The identifiers and the links of a layout are those of the filters taken so far, of which that
many look beyond the root node. -/
structure Connected (os : List Occurrence) (count : Nat) (l : Layout) : Prop where
  nodup : (values l.identifiers).Nodup
  lt : ∀ k ∈ values l.identifiers, k < count
  named : ∀ o ∈ os, ∀ label, o.target = .node label → ∃ k, find? l.identifiers label = some k
  link : ∀ label k, find? l.identifiers label = some k →
    ∃ type direction, ((label, type), Pattern.relationship type direction k false) ∈ l.links
  source : ∀ e ∈ l.links, ∃ k, find? l.identifiers e.1.1 = some k ∧ ∃ o ∈ os, ∃ via direction,
    o.filter.subject = .node via e.1.1 e.1.2 direction ∧
      e.2 = .relationship e.1.2 direction k false
  single : ∀ e ∈ l.links, ∀ d ∈ l.links, e.1.1 = d.1.1 → e = d
  addressed : ∀ x ∈ l.placements, ∀ label, x.2.filter.target = .node label →
    ∃ k, find? l.identifiers label = some k ∧ x.2.identifier = .far k

section Step

variable {root : String} {os : List Occurrence} {o : Occurrence} {l : Layout}

/-- A filter leaves the links as they are, or it is the first one on its nodes. -/
theorem links_add (root : String) (l : Layout) (o : Occurrence) :
    ((l.add root o).links = l.links ∧ (l.add root o).identifiers = l.identifiers) ∨
      ∃ via label type direction, o.filter.subject = .node via label type direction ∧
        find? l.identifiers label = none ∧
        (l.add root o).links =
          put l.links (label, type) (.relationship type direction o.sequence false) ∧
        (l.add root o).identifiers = put l.identifiers label o.sequence := by
  cases hs : o.filter.subject with
  | root => exact .inl (by simp [Layout.add, hs, place])
  | unspecified => exact .inl (by simp [Layout.add, hs, place])
  | relationship via type direction => exact .inl (by simp [Layout.add, hs, place])
  | node via label type direction =>
    cases hi : find? l.identifiers label with
    | some k => exact .inl (by simp [Layout.add, hs, place, reach, hi])
    | none =>
      refine .inr ⟨via, label, type, direction, rfl, hi, ?_, ?_⟩
      · simp [Layout.add, hs, place, reach, hi]
      · simp [Layout.add, hs, place, reach, hi]

theorem find?_identifiers_add {label : String} {k : Nat} (h : find? l.identifiers label = some k)
    (root : String) (o : Occurrence) : find? (l.add root o).identifiers label = some k := by
  rw [identifiers_add, h, Option.some_or]

section Add

variable (h : Connected os o.sequence l) (root : String)

include h

theorem Connected.addressed_add :
    ∀ x ∈ (l.add root o).placements, ∀ label, x.2.filter.target = .node label →
      ∃ k, find? (l.add root o).identifiers label = some k ∧ x.2.identifier = .far k := by
  intro x hx label ht
  rcases mem_placements_add hx with hx | ⟨hf, -, hi⟩
  · obtain ⟨k, hk, hx⟩ := h.addressed x hx label ht
    exact ⟨k, find?_identifiers_add hk root o, hx⟩
  · rw [hf] at ht
    exact hi label ht

theorem Connected.named_add :
    ∀ p ∈ os ++ [o], ∀ label, p.target = .node label →
      ∃ k, find? (l.add root o).identifiers label = some k := by
  intro p hp label ht
  rcases List.mem_append.mp hp with hp | hp
  · obtain ⟨k, hk⟩ := h.named p hp label ht
    exact ⟨k, find?_identifiers_add hk root o⟩
  · obtain rfl := List.mem_singleton.mp hp
    obtain ⟨g, i, -, -, hi⟩ := nodes_add root l p
    obtain ⟨k, hk, -⟩ := hi label ht
    exact ⟨k, hk⟩

theorem Connected.source_add {e : (String × String) × Pattern} (he : e ∈ l.links) :
    ∃ k, find? (l.add root o).identifiers e.1.1 = some k ∧
      ∃ p ∈ os ++ [o], ∃ via direction, p.filter.subject = .node via e.1.1 e.1.2 direction ∧
        e.2 = .relationship e.1.2 direction k false := by
  obtain ⟨k, hk, p, hp, hs⟩ := h.source e he
  exact ⟨k, find?_identifiers_add hk root o, p, List.mem_append_left _ hp, hs⟩

theorem Connected.ne_of_new {label : String} (hn : find? l.identifiers label = none) :
    ∀ e ∈ l.links, e.1.1 ≠ label := by
  rintro e he rfl
  obtain ⟨k, hk, -⟩ := h.source e he
  simp [hn] at hk

theorem Connected.links_put {label type : String} (hn : find? l.identifiers label = none)
    (p : Pattern) : put l.links (label, type) p = l.links ++ [((label, type), p)] := by
  apply Entries.put_absent
  intro hm
  obtain ⟨e, he, hk⟩ := List.mem_map.mp hm
  exact h.ne_of_new hn e he (congrArg Prod.fst hk)

theorem Connected.add_known (hl : (l.add root o).links = l.links)
    (hi : (l.add root o).identifiers = l.identifiers) :
    Connected (os ++ [o]) (if o.filter.isNested then o.sequence + 1 else o.sequence)
      (l.add root o) := by
  refine ⟨hi ▸ h.nodup, ?_, h.named_add root, ?_, ?_, hl ▸ h.single, h.addressed_add root⟩
  · intro k hk
    have := h.lt k (hi ▸ hk)
    split <;> omega
  · rw [hi, hl]
    exact h.link
  · rw [hl]
    exact fun e he => h.source_add root he

theorem Connected.add_new {via label type : String} {direction : Direction}
    (hs : o.filter.subject = .node via label type direction)
    (hn : find? l.identifiers label = none)
    (hl : (l.add root o).links =
      put l.links (label, type) (.relationship type direction o.sequence false))
    (hi : (l.add root o).identifiers = put l.identifiers label o.sequence) :
    Connected (os ++ [o]) (if o.filter.isNested then o.sequence + 1 else o.sequence)
      (l.add root o) := by
  have hnew : o.sequence ∉ values l.identifiers := fun hm => Nat.lt_irrefl _ (h.lt _ hm)
  have hnested : o.filter.isNested = true := by simp [Filter.isNested, hs, Subject.via?]
  have hfind : find? (l.add root o).identifiers label = some o.sequence := by
    rw [hi, Entries.find?_put, if_pos rfl]
  rw [h.links_put hn] at hl
  refine ⟨?_, ?_, h.named_add root, ?_, ?_, ?_, h.addressed_add root⟩
  · rw [hi]
    exact Entries.nodup_values_put h.nodup hnew
  · intro k hk
    rw [hi] at hk
    rw [if_pos hnested]
    rcases Entries.mem_values_put hk with hk | rfl
    · exact Nat.lt_succ_of_lt (h.lt k hk)
    · exact Nat.lt_succ_self _
  · intro other k hk
    rw [hl]
    by_cases hother : other = label
    · subst hother
      rw [hfind] at hk
      obtain rfl := Option.some.inj hk
      exact ⟨type, direction, by simp⟩
    · rw [hi, Entries.find?_put, if_neg (Ne.symm hother)] at hk
      obtain ⟨t, d, hm⟩ := h.link other k hk
      exact ⟨t, d, List.mem_append_left _ hm⟩
  · intro e he
    rw [hl] at he
    rcases List.mem_append.mp he with he | he
    · exact h.source_add root he
    · obtain rfl := List.mem_singleton.mp he
      exact ⟨o.sequence, hfind, o, by simp, via, direction, hs, rfl⟩
  · intro e he d hd hed
    rw [hl, List.mem_append, List.mem_singleton] at he hd
    rcases he with he | rfl
    · rcases hd with hd | rfl
      · exact h.single e he d hd hed
      · exact absurd hed (h.ne_of_new hn e he)
    · rcases hd with hd | rfl
      · exact absurd hed.symm (h.ne_of_new hn d hd)
      · rfl

theorem connected_add : Connected (os ++ [o])
    (if o.filter.isNested then o.sequence + 1 else o.sequence) (l.add root o) := by
  rcases links_add root l o with ⟨hl, hi⟩ | ⟨via, label, type, direction, hs, hn, hl, hi⟩
  · exact h.add_known root hl hi
  · exact h.add_new root hs hn hl hi

end Add

theorem connected_addAll {sequence : Nat} (h : Connected os sequence l) (root : String)
    (position : Nat) (fs : List Filter) : Connected (os ++ occurrences position sequence fs)
      (sequence + fs.countP Filter.isNested) (l.addAll root (occurrences position sequence fs)) := by
  induction fs generalizing os position sequence l with
  | nil =>
    rw [occurrences, List.append_nil]
    exact h
  | cons f fs ih =>
    have hf : Connected (os ++ [⟨f, position, sequence⟩])
        (if f.isNested then sequence + 1 else sequence) (l.add root ⟨f, position, sequence⟩) :=
      connected_add h root
    have hfs := ih hf (position + 1)
    rw [List.append_assoc] at hfs
    rwa [count_cons] at hfs

theorem connected_start (root : String) : Connected [] 0 (start root) where
  nodup := List.nodup_nil
  lt := by simp [start, values]
  named := by simp
  link := by simp [start, find?]
  source := by simp [start]
  single := by simp [start]
  addressed := by simp [start, placements]

end Step

section Chain

variable {root : String} {fs : List Filter}

theorem connected_ofChain (root : String) (fs : List Filter) :
    Connected (places fs) (fs.countP Filter.isNested) (ofChain root fs) := by
  have h := connected_addAll (connected_start root) root 0 fs
  rwa [List.nil_append, Nat.zero_add] at h

theorem link_of_linked (h : Linked fs (ofChain root fs)) {f : Filter} (hf : f ∈ fs)
    {via label type : String} {direction : Direction}
    (hs : f.subject = .node via label type direction) :
    ∃ k, ((label, type), Pattern.relationship type direction k false) ∈ (ofChain root fs).links := by
  have hc := connected_ofChain root fs
  obtain ⟨i, hi⟩ := List.getElem?_of_mem hf
  obtain ⟨k, hk, -, hl⟩ := h i f via label type direction hi hs
  obtain ⟨⟨⟨other, kind⟩, p⟩, he, rfl⟩ := List.mem_map.mp hl
  obtain ⟨j, hj, -, -, -, d, -, hp⟩ := hc.source _ he
  obtain ⟨rfl, rfl, rfl, -⟩ := Pattern.relationship.inj hp
  obtain rfl : other = label := Entries.eq_of_find?_of_nodup hc.nodup hj hk
  exact ⟨k, he⟩

theorem routed_of_linked (h : Linked fs (ofChain root fs)) : ∃ route, Routed route fs := by
  have hroute : ∀ label, ∃ way : String × Direction, ∀ f ∈ fs, ∀ via type direction,
      f.subject = .node via label type direction → way = (type, direction) := by
    intro label
    by_cases hn : ∃ f ∈ fs, ∃ via type direction, f.subject = .node via label type direction
    · obtain ⟨f, hf, via, type, direction, hs⟩ := hn
      refine ⟨(type, direction), ?_⟩
      intro g hg via' type' direction' hs'
      obtain ⟨k, hk⟩ := link_of_linked h hf hs
      obtain ⟨j, hj⟩ := link_of_linked h hg hs'
      -- there is one way to each label
      have heq := (connected_ofChain root fs).single _ hk _ hj rfl
      simp only [Prod.mk.injEq, Pattern.relationship.injEq] at heq ⊢
      exact ⟨heq.2.1, heq.2.2.1⟩
    · push Not at hn
      exact ⟨("", .undirected), fun f hf via type direction hs => absurd hs (hn f hf via type direction)⟩
  choose route hr using hroute
  exact ⟨route, fun f hf via label type direction hs => hr label f hf via type direction hs⟩

theorem linked_of_routed {route : String → String × Direction} (hr : Routed route fs) :
    Linked fs (ofChain root fs) := by
  intro i f via label type direction hi hs
  have hc := connected_ofChain root fs
  have hf : f ∈ fs := List.mem_of_getElem? hi
  have ht : f.target = .node label := by simp [Filter.target, hs]
  obtain ⟨o, ho, rfl⟩ := Grouping.mem_places hf
  obtain ⟨k, hk⟩ := hc.named o ho label ht
  refine ⟨k, hk, ?_, ?_⟩
  · intro x hx hxi
    have hxf := filter_of_mem_placements hx
    rw [hxi, hi] at hxf
    obtain ⟨j, hj, hid⟩ := hc.addressed x hx label (Option.some.inj hxf ▸ ht)
    rw [hk] at hj
    rw [hid, Option.some.inj hj]
  · obtain ⟨t, d, hl⟩ := hc.link label k hk
    obtain ⟨j, -, p, hp, via', d', hs', hpat⟩ := hc.source _ hl
    -- the clause stems from a filter that takes the same way
    have hway := (hr p.filter (Grouping.filter_mem_of_mem_places hp) _ _ _ _ hs').symm.trans
      (hr o.filter hf _ _ _ _ hs)
    obtain ⟨rfl, rfl⟩ := Prod.mk.inj hway
    obtain ⟨-, rfl, -, -⟩ := Pattern.relationship.inj hpat
    exact List.mem_map_of_mem hl

end Chain

end Layout

namespace Grouping

open Layout (Linked)

/-- In a composed statement each filter on nodes keeps its own relationship exactly if all filters
on nodes with one label name the same relationship and direction. -/
theorem linked_iff_of_compose {root : String} {fs : List Filter} {c : Composed}
    (h : compose root fs = .ok c) :
    c.text = (Layout.ofChain root fs).text ∧
      (Linked fs (Layout.ofChain root fs) ↔ ∃ route, Routed route fs) := by
  refine ⟨Composed.text_of_compose h, Layout.routed_of_linked, ?_⟩
  rintro ⟨route, hr⟩
  exact Layout.linked_of_routed hr

/-- Persons who work at one company and own it. -/
def owners : List Filter :=
  [⟨"name", .text "Acme", .equal, .none, false, .property,
      .node "employer" "Company" "WORKS_AT" .outgoing⟩,
    ⟨"city", .text "Riga", .equal, .and, false, .property,
      .node "property" "Company" "OWNS" .outgoing⟩]

theorem not_routed_owners : ¬ ∃ route, Routed route owners := by
  rintro ⟨route, hr⟩
  have hworks := hr owners[0] (by simp [owners]) _ _ _ _ rfl
  have howns := hr owners[1] (by simp [owners]) _ _ _ _ rfl
  rw [hworks] at howns
  exact absurd (Prod.mk.inj howns).1 (by decide)

theorem linked_turns_not_owners :
    (∃ c, compose "Person" turns = .ok c ∧ Linked turns (Layout.ofChain "Person" turns)) ∧
      ∃ c, compose "Person" owners = .ok c ∧ ¬ Linked owners (Layout.ofChain "Person" owners) := by
  constructor
  · obtain ⟨c, hc⟩ := compose_turns
    exact ⟨c, hc, (linked_iff_of_compose hc).2.mpr ⟨_, routed_turns⟩⟩
  · obtain ⟨c, hc⟩ : ∃ c, compose "Person" owners = .ok c :=
      Outcome.eq_ok_of_isSome (by decide +kernel)
    exact ⟨c, hc, fun h => not_routed_owners ((linked_iff_of_compose hc).2.mp h)⟩

end Grouping

end CypherLink
