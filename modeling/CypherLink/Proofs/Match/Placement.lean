import Mathlib.Data.List.Nodup
import CypherLink.Proofs.Match.Arrangement

/-!
Where the predicates of a composed chain stand. Labels and relationship types are keys of one map,
so the type of a bound relationship that is also a label takes the clause of that label away. Main
statements: `clear_of_wellPlaced` and `wellPlaced_of_clear`.
-/

namespace CypherLink

open Composed (compose)
open Entries (find? put keys tabulate)

namespace Pattern

def onRelationship : Pattern → Bool
  | .node _ _ => false
  | .relationship _ _ _ _ => true

/-- The pattern brings in the identifier, for what the filter constrains. -/
def introduces (root : String) (pattern : Pattern) (identifier : Identifier) : Subject → Prop
  | .root | .unspecified => pattern = .node .root root ∧ identifier = .root
  | .node _ label _ _ => ∃ k, pattern = .node (.far k) label ∧ identifier = .far k
  | .relationship _ type direction =>
    (∃ k, pattern = .relationship type direction k true) ∧ identifier = .relationship

end Pattern

namespace Layout

/-- All predicates of a layout, each with the pattern of the clause that it stands in. -/
def placements (l : Layout) : List (Pattern × Placed) :=
  l.nodes.flatMap fun e => e.2.placed.map fun p => (e.2.pattern, p)

/-- The clause of the root node opens the text, and each filter of the chain stands once, in a clause
that brings in its identifier. -/
structure WellPlaced (root : String) (fs : List Filter) (l : Layout) : Prop where
  rooted : (Clause.node Clause.rootIdentifier root).toList <+: l.text.toList
  placed : ∀ i f, fs[i]? = some f → ∃ pattern p,
    l.placements.filter (·.2.position = i) = [(pattern, p)] ∧ p.filter = f ∧
      pattern.introduces root p.identifier f.subject

/-- The clauses are kept under the words of their patterns, that of the root node first. -/
structure Keyed (root : String) (l : Layout) : Prop where
  nodup : (keys l.nodes).Nodup
  word : ∀ e ∈ l.nodes, e.2.pattern.word = e.1
  first : (keys l.nodes).head? = some root

/-- The clause under the key is that of a relationship. -/
def Bound (l : Layout) (key : String) : Prop :=
  ∃ g, find? l.nodes key = some g ∧ g.pattern.onRelationship = true

section Step

variable {root key : String} {l : Layout} {o : Occurrence}

theorem exists_mem_of_mem_placements {x : Pattern × Placed} (h : x ∈ l.placements) :
    ∃ e ∈ l.nodes, e.2.pattern = x.1 ∧ x.2 ∈ e.2.placed := by
  obtain ⟨e, he, hx⟩ := List.mem_flatMap.mp h
  obtain ⟨p, hp, rfl⟩ := List.mem_map.mp hx
  exact ⟨e, he, rfl, hp⟩

theorem mem_placements {e : String × Group} {p : Placed} (he : e ∈ l.nodes) (hp : p ∈ e.2.placed) :
    (e.2.pattern, p) ∈ l.placements :=
  List.mem_flatMap.mpr ⟨e, he, List.mem_map_of_mem hp⟩

theorem find?_reach (l : Layout) (label type : String) (direction : Direction) (k : Nat) :
    find? (l.reach label type direction k).identifiers label = some (l.sequence label k) := by
  unfold reach sequence
  cases h : find? l.identifiers label with
  | some j => exact h
  | none => rw [Entries.find?_put, if_pos rfl, Option.getD_none]

theorem nodes_add (root : String) (l : Layout) (o : Occurrence) :
    ∃ g i, (l.add root o).nodes = put l.nodes (o.target.key root) (g.add (o.placed i)) ∧
      (((o.pattern root).onRelationship = true ∧ g = ⟨o.pattern root, []⟩) ∨
        ∃ q : Pattern, q.word = o.target.key root ∧ g = l.group (o.target.key root) q) ∧
      ∀ label, o.target = .node label →
        ∃ k, find? (l.add root o).identifiers label = some k ∧ i = .far k := by
  cases ht : o.target with
  | root =>
    refine ⟨_, .root, ?_, .inr ⟨.node .root root, rfl, rfl⟩, ?_⟩
    · rw [Occurrence.add_of_root ht]
      rfl
    · rintro label ⟨⟩
  | node label =>
    obtain ⟨via, type, direction, hf⟩ := Filter.subject_of_node ht
    refine ⟨_, .far (l.sequence label o.sequence), ?_,
      .inr ⟨.node (.far (l.sequence label o.sequence)) label, rfl, rfl⟩, ?_⟩
    · simp [Layout.add, hf, Layout.place, Layout.nodes_reach, Target.key, Occurrence.placed]
    · intro other ho
      obtain rfl := Target.node.inj ho
      refine ⟨l.sequence label o.sequence, ?_, rfl⟩
      simpa [Layout.add, hf, Layout.place] using find?_reach l label type direction o.sequence
  | relationship type =>
    obtain ⟨via, direction, hf⟩ := Filter.subject_of_relationship ht
    have hp : o.pattern root = .relationship type direction o.sequence true := by
      simp [Occurrence.pattern, hf]
    refine ⟨_, .relationship, ?_, .inl ⟨by rw [hp]; rfl, rfl⟩, ?_⟩
    · simp [Layout.add, hf, hp, Layout.place, Target.key, Occurrence.placed]
    · rintro label ⟨⟩

/-- The predicates of the clause that the filter joins stood in the layout before. -/
theorem mem_placements_of_joined {g : Group} {p : Placed}
    (hg : ((o.pattern root).onRelationship = true ∧ g = ⟨o.pattern root, []⟩) ∨
      ∃ q : Pattern, q.word = o.target.key root ∧ g = l.group (o.target.key root) q)
    (hp : p ∈ g.placed) : (g.pattern, p) ∈ l.placements := by
  rcases hg with ⟨-, rfl⟩ | ⟨q, -, rfl⟩
  · cases hp
  · unfold group at hp ⊢
    cases hf : find? l.nodes (o.target.key root) with
    | none =>
      rw [hf] at hp
      cases hp
    | some g =>
      rw [hf] at hp
      exact mem_placements (Entries.mem_of_find? hf) hp

theorem mem_placements_add {x : Pattern × Placed} (hx : x ∈ (l.add root o).placements) :
    x ∈ l.placements ∨ x.2.filter = o.filter ∧ x.2.position = o.position ∧
      ∀ label, o.target = .node label →
        ∃ k, find? (l.add root o).identifiers label = some k ∧ x.2.identifier = .far k := by
  obtain ⟨g, i, hn, hg, hi⟩ := nodes_add root l o
  obtain ⟨pattern, p⟩ := x
  obtain ⟨e, he, rfl, hp⟩ := exists_mem_of_mem_placements hx
  rw [hn] at he
  rcases Entries.mem_put he with he | rfl
  · exact .inl (mem_placements he hp)
  · rcases List.mem_append.mp hp with hp | hp
    · have hj : (g.pattern, p) ∈ l.placements := mem_placements_of_joined hg hp
      exact .inl hj
    · obtain rfl := List.mem_singleton.mp hp
      exact .inr ⟨rfl, rfl, hi⟩

theorem word_group (hl : Keyed root l) {key : String} {q : Pattern} (hq : q.word = key) :
    (l.group key q).pattern.word = key := by
  unfold Layout.group
  cases hf : find? l.nodes key with
  | none => exact hq
  | some g => exact hl.word (key, g) (Entries.mem_of_find? hf)

theorem keyed_add (hl : Keyed root l) (o : Occurrence) : Keyed root (l.add root o) := by
  obtain ⟨g, i, hn, hg, -⟩ := nodes_add root l o
  have hw : g.pattern.word = o.target.key root := by
    rcases hg with ⟨hr, rfl⟩ | ⟨q, hq, rfl⟩
    · exact o.word_pattern root
    · exact word_group hl hq
  refine ⟨?_, ?_, ?_⟩
  · rw [hn]
    exact Entries.nodup_keys_put hl.nodup
  · intro e he
    rw [hn] at he
    rcases Entries.mem_put he with he | rfl
    · exact hl.word e he
    · exact hw
  · rw [hn, Entries.keys_put]
    split_ifs
    · exact hl.first
    · rw [List.head?_append, hl.first, Option.some_or]

theorem Bound.add (hb : l.Bound key) (o : Occurrence) : (l.add root o).Bound key := by
  obtain ⟨b, hf, hr⟩ := hb
  obtain ⟨g, i, hn, hg, -⟩ := nodes_add root l o
  by_cases hk : o.target.key root = key
  · refine ⟨g.add (o.placed i), by rw [hn, Entries.find?_put, if_pos hk], ?_⟩
    rcases hg with ⟨ho, rfl⟩ | ⟨q, hq, rfl⟩
    · exact ho
    · rw [hk, Layout.group, hf]
      exact hr
  · exact ⟨b, by rw [hn, Entries.find?_put, if_neg hk, hf], hr⟩

theorem pattern_add_self (root : String) (l : Layout) {via type : String} {direction : Direction}
    (hs : o.filter.subject = .relationship via type direction) :
    ∃ g, find? (l.add root o).nodes type = some g ∧
      g.pattern = .relationship type direction o.sequence true := by
  refine ⟨⟨.relationship type direction o.sequence true, [o.placed .relationship]⟩, ?_, rfl⟩
  simp [Layout.add, hs, Layout.place, Entries.find?_put, Group.add, Occurrence.placed]

theorem bound_add_self {type : String} (ht : o.target = .relationship type) :
    (l.add root o).Bound type := by
  obtain ⟨via, direction, hs⟩ := Filter.subject_of_relationship ht
  obtain ⟨g, hg, hp⟩ := pattern_add_self root l hs
  exact ⟨g, hg, by rw [hp]; rfl⟩

theorem mem_placements_addAll {os : List Occurrence} {x : Pattern × Placed}
    (hx : x ∈ (l.addAll root os).placements) :
    x ∈ l.placements ∨ ∃ o ∈ os, x.2.filter = o.filter ∧ x.2.position = o.position := by
  induction os generalizing l with
  | nil => exact .inl hx
  | cons o os ih =>
    rcases ih hx with h | ⟨p, hp, h⟩
    · rcases mem_placements_add h with h | ⟨hf, hi, -⟩
      · exact .inl h
      · exact .inr ⟨o, List.mem_cons_self, hf, hi⟩
    · exact .inr ⟨p, List.mem_cons_of_mem _ hp, h⟩

theorem keyed_start (root : String) : Keyed root (start root) := by
  refine ⟨by simp [start, keys], ?_, rfl⟩
  intro e he
  obtain rfl := List.mem_singleton.mp he
  rfl

theorem keyed_addAll (hl : Keyed root l) (os : List Occurrence) : Keyed root (l.addAll root os) := by
  induction os generalizing l with
  | nil => exact hl
  | cons o os ih => exact ih (keyed_add hl o)

theorem Bound.addAll (hb : l.Bound key) (os : List Occurrence) : (l.addAll root os).Bound key := by
  induction os generalizing l with
  | nil => exact hb
  | cons o os ih => exact ih (hb.add o)

theorem bound_addAll {os : List Occurrence} {type : String}
    (h : Target.relationship type ∈ os.map Occurrence.target) : (l.addAll root os).Bound type := by
  induction os generalizing l with
  | nil => cases h
  | cons o os ih =>
    -- no later filter gives the key back to a label: it joins the clause that it finds there
    rcases List.mem_cons.mp h with ho | hos
    · exact (bound_add_self ho.symm).addAll os
    · exact ih hos

end Step

theorem not_node_prefix_relationship {root : String} {p : Pattern} (h : p.onRelationship = true)
    (rest : List Char) :
    ¬ (Clause.node Clause.rootIdentifier root).toList <+: p.text.toList ++ rest := by
  cases p with
  | node identifier label => cases h
  | relationship type direction k bound =>
    unfold Pattern.text Clause.relationship
    rintro ⟨t, ht⟩
    simp [Clause.node, Clause.rootIdentifier] at ht

section Chain

variable {root : String} {fs : List Filter}

theorem keyed_ofChain (root : String) (fs : List Filter) : Keyed root (ofChain root fs) :=
  keyed_addAll (keyed_start root) (places fs)

theorem bound_ofChain {type : String} (h : Target.relationship type ∈ fs.map Filter.target) :
    (ofChain root fs).Bound type := by
  apply bound_addAll
  rwa [Grouping.map_target_places]

/-- Each predicate of the layout is that of the filter at its place in the chain. -/
theorem filter_of_mem_placements {x : Pattern × Placed} (hx : x ∈ (ofChain root fs).placements) :
    fs[x.2.position]? = some x.2.filter := by
  rcases mem_placements_addAll hx with h | ⟨o, ho, hf, hi⟩
  · simp [placements, start] at h
  · obtain ⟨i, ho⟩ := List.getElem?_of_mem ho
    rw [hi, hf, position_of_places ho]
    rw [places, getElem?_occurrences, Option.map_eq_some_iff] at ho
    obtain ⟨f, hfs, rfl⟩ := ho
    exact hfs

theorem ne_root_of_wellPlaced (h : WellPlaced root fs (ofChain root fs)) {type : String}
    (hb : (ofChain root fs).Bound type) : type ≠ root := by
  rintro rfl
  have hk := keyed_ofChain type fs
  obtain ⟨g, hg, hr⟩ := hb
  obtain ⟨e, rest, hn⟩ : ∃ e rest, (ofChain type fs).nodes = e :: rest := by
    apply List.exists_cons_of_ne_nil
    intro hnil
    rw [hnil] at hg
    cases hg
  have he : e.1 = type := by simpa [hn, keys] using hk.first
  have hge : e.2 = g := by simpa [hn, find?, he] using hg
  have hroot := h.rooted
  rw [Layout.text, hn, List.map_cons, String.join_cons, hge, Group.text] at hroot
  simp only [String.toList_append, List.append_assoc] at hroot
  exact not_node_prefix_relationship hr _ hroot

theorem not_label_of_wellPlaced (h : WellPlaced root fs (ofChain root fs)) {type : String}
    (hb : (ofChain root fs).Bound type) : Target.node type ∉ fs.map Filter.target := by
  intro hm
  have hk := keyed_ofChain root fs
  obtain ⟨f, hf, ht⟩ := List.mem_map.mp hm
  obtain ⟨i, hi⟩ := List.getElem?_of_mem hf
  obtain ⟨pattern, p, hp, -, hint⟩ := h.placed i f hi
  obtain ⟨via, way, direction, hs⟩ := Filter.subject_of_node ht
  rw [hs] at hint
  obtain ⟨k, rfl, -⟩ := hint
  have hx : (Pattern.node (.far k) type, p) ∈ (ofChain root fs).placements :=
    (List.mem_filter.mp (hp ▸ List.mem_singleton_self _)).1
  obtain ⟨e, he, hpat, -⟩ := exists_mem_of_mem_placements hx
  have hkey : e.1 = type := by rw [← hk.word e he, hpat]; rfl
  obtain ⟨g, hg, hr⟩ := hb
  rw [← hkey, Entries.find?_of_mem hk.nodup he] at hg
  obtain rfl := Option.some.inj hg
  rw [hpat] at hr
  cases hr

theorem clear_of_wellPlaced (h : WellPlaced root fs (ofChain root fs)) : Clear root fs := by
  intro type ht
  have hb : (ofChain root fs).Bound type := bound_ofChain ht
  exact ⟨ne_root_of_wellPlaced h hb, not_label_of_wellPlaced h hb⟩

end Chain

end Layout

theorem flatMap_of_unique {α β : Type} {xs : List α} {a : α} {f : α → List β} (hn : xs.Nodup)
    (ha : a ∈ xs) (h : ∀ x ∈ xs, x ≠ a → f x = []) : xs.flatMap f = f a := by
  obtain ⟨us, vs, rfl⟩ := List.append_of_mem ha
  rw [List.nodup_middle, List.nodup_cons, List.mem_append, not_or] at hn
  have hus : us.flatMap f = [] := by
    rw [List.flatMap_eq_nil_iff]
    intro x hx
    exact h x (by simp [hx]) (ne_of_mem_of_not_mem hx hn.1.1)
  have hvs : vs.flatMap f = [] := by
    rw [List.flatMap_eq_nil_iff]
    intro x hx
    exact h x (by simp [hx]) (ne_of_mem_of_not_mem hx hn.1.2)
  rw [List.flatMap_append, List.flatMap_cons, hus, hvs, List.nil_append, List.append_nil]

namespace Grouping

open Layout (WellPlaced)

section Places

variable {root : String} {fs : List Filter} {o : Occurrence}

theorem filter_position {i : Nat} (h : (places fs)[i]? = some o) :
    (places fs).filter (fun p => p.position = i) = [o] := by
  have hi : o.position = i := position_of_places h
  obtain ⟨hlt, -⟩ := List.getElem?_eq_some_iff.mp h
  have hsplit := eq_take_append_cons h
  have hlen : ((places fs).take i).length = i := by
    rw [List.length_take]
    omega
  -- positions grow along the chain
  have hbefore : ((places fs).take i).filter (fun p => p.position = i) = [] := by
    rw [List.filter_eq_nil_iff]
    intro p hp
    have := position_lt hsplit hp
    simp only [decide_eq_true_eq]
    omega
  have hafter : ((places fs).drop (i + 1)).filter (fun p => p.position = i) = [] := by
    rw [List.filter_eq_nil_iff]
    intro p hp
    rw [← List.singleton_append, ← List.append_assoc] at hsplit
    have := le_position hsplit hp
    simp only [List.length_append, List.length_singleton, hlen] at this
    simp only [decide_eq_true_eq]
    omega
  rw [hsplit, List.filter_append, List.filter_cons, hbefore, hafter]
  simp [hi]

theorem members_at {i : Nat} (h : (places fs)[i]? = some o) (t : Target) :
    (members (places fs) t).filter (fun p => p.position = i) = if o.target = t then [o] else [] := by
  have hswap : (members (places fs) t).filter (fun p => p.position = i) =
      ((places fs).filter fun p => p.position = i).filter (·.target = t) := by
    simp only [members, List.filter_filter, Bool.and_comm]
  rw [hswap, filter_position h]
  simp [List.filter_cons]

theorem placements_of_grouped {l : Layout} {os : List Occurrence} (h : Grouped root os l) :
    l.placements = (targets os).flatMap fun t =>
      (members os t).map fun o => (pattern root os t, o.placed (pattern root os t).identifier) := by
  rw [Layout.placements, h.nodes, tabulate, List.flatMap_map]
  simp only [group, List.map_map]
  rfl

theorem pattern_of_relationship {os : List Occurrence}
    (ha : os.Pairwise fun o p => o.filter.onRelationship = true → p.filter.onRelationship = false)
    (ho : o ∈ os) {type : String} (ht : o.target = .relationship type) :
    pattern root os (.relationship type) = o.pattern root := by
  apply pattern_eq_of_mem _ (ht ▸ List.mem_map_of_mem ho)
  intro q hq hqt
  have hor := Filter.onRelationship_of_target ht
  have hqr := Filter.onRelationship_of_target hqt
  obtain ⟨i, hi, rfl⟩ := List.getElem_of_mem ho
  obtain ⟨j, hj, rfl⟩ := List.getElem_of_mem hq
  rw [List.pairwise_iff_getElem] at ha
  rcases Nat.lt_trichotomy i j with hij | rfl | hij
  · have := ha i j hi hj hij hor
    simp [hqr] at this
  · rfl
  · have := ha j i hj hi hij hqr
    simp [hor] at this

theorem introduces_pattern (ha : Composed.Accepted root 0 false fs) (ho : o ∈ places fs) :
    (pattern root (places fs) o.target).introduces root
      (pattern root (places fs) o.target).identifier o.filter.subject := by
  have hm : o.target ∈ (places fs).map Occurrence.target := List.mem_map_of_mem ho
  cases ht : o.target with
  | root =>
    rw [pattern_root]
    unfold Occurrence.target Filter.target at ht
    unfold Pattern.introduces
    split at ht <;> simp_all [Pattern.identifier]
  | node label =>
    obtain ⟨via, type, direction, hf⟩ := Filter.subject_of_node ht
    rw [pattern_node (ht ▸ hm), hf]
    exact ⟨_, rfl, rfl⟩
  | relationship type =>
    obtain ⟨via, direction, hf⟩ := Filter.subject_of_relationship ht
    rw [pattern_of_relationship (alone_places ha) ho ht, hf, Occurrence.pattern, hf]
    exact ⟨⟨_, rfl⟩, rfl⟩

theorem filter_placements {l : Layout} (hl : Grouped root (places fs) l) {i : Nat}
    (h : (places fs)[i]? = some o) : l.placements.filter (·.2.position = i) =
      [(pattern root (places fs) o.target,
        o.placed (pattern root (places fs) o.target).identifier)] := by
  have ht : o.target ∈ targets (places fs) :=
    mem_targets.mpr (.inr (List.mem_map_of_mem (List.mem_of_getElem? h)))
  have hat : ∀ t, (((members (places fs) t).map fun q =>
      (pattern root (places fs) t, q.placed (pattern root (places fs) t).identifier)).filter
        (·.2.position = i)) = if o.target = t then [(pattern root (places fs) t,
          o.placed (pattern root (places fs) t).identifier)] else [] := by
    intro t
    rw [List.filter_map]
    change ((members (places fs) t).filter fun p => p.position = i).map _ = _
    rw [members_at h]
    split_ifs <;> rfl
  rw [placements_of_grouped hl, List.filter_flatMap, flatMap_of_unique (nodup_targets _) ht]
  · rw [hat, if_pos rfl]
  · intro t _ hne
    rw [hat, if_neg (Ne.symm hne)]

end Places

theorem wellPlaced_of_clear {root : String} {fs : List Filter}
    (ha : Composed.Accepted root 0 false fs) (hc : Clear root fs) :
    WellPlaced root fs (Layout.ofChain root fs) := by
  have hl := grouped_ofChain ha hc
  refine ⟨?_, ?_⟩
  · rw [Layout.text, hl.nodes, targets_eq, tabulate, List.map_cons, List.map_cons, String.join_cons,
      Group.text, String.append_assoc, String.append_assoc, String.toList_append]
    change _ <+: (pattern root (places fs) .root).text.toList ++ _
    rw [pattern_root]
    exact List.prefix_append _ _
  · intro i f hi
    have ho : (places fs)[i]? = some ⟨f, i, (fs.take i).countP Filter.isNested⟩ := by
      rw [places, getElem?_occurrences, hi]
      simp
    exact ⟨_, _, filter_placements hl ho, rfl, introduces_pattern ha (List.mem_of_getElem? ho)⟩

/-- In a composed statement the clause of the root node comes first and each predicate stands once,
where its identifier is brought in, if the type of a bound relationship is no label, and only
then. -/
theorem wellPlaced_iff_of_compose {root : String} {fs : List Filter} {c : Composed}
    (h : compose root fs = .ok c) :
    c.text = (Layout.ofChain root fs).text ∧
      (WellPlaced root fs (Layout.ofChain root fs) ↔ Clear root fs) := by
  refine ⟨Composed.text_of_compose h, Layout.clear_of_wellPlaced, ?_⟩
  exact wellPlaced_of_clear (Composed.accepted_of_compose h)

/-- A relationship between persons that is itself called a person. -/
def namesake : List Filter :=
  [⟨"since", .int 2010, .less, .none, false, .property,
    .relationship "friends" "Person" .outgoing⟩]

theorem not_clear_namesake : ¬ Clear "Person" namesake :=
  fun h => (h "Person" List.mem_cons_self).1 rfl

theorem wellPlaced_turns_not_namesake :
    (∃ c, compose "Person" turns = .ok c ∧
        WellPlaced "Person" turns (Layout.ofChain "Person" turns)) ∧
      ∃ c, compose "Person" namesake = .ok c ∧
        ¬ WellPlaced "Person" namesake (Layout.ofChain "Person" namesake) := by
  constructor
  · obtain ⟨c, hc⟩ := compose_turns
    exact ⟨c, hc, (wellPlaced_iff_of_compose hc).2.mpr clear_turns⟩
  · obtain ⟨c, hc⟩ : ∃ c, compose "Person" namesake = .ok c :=
      Outcome.eq_ok_of_isSome (by decide +kernel)
    exact ⟨c, hc, fun h => not_clear_namesake ((wellPlaced_iff_of_compose hc).2.mp h)⟩

end Grouping

end CypherLink
