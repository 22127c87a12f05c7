import CypherLink.Proofs.Match.Grouping

/-!
The composed text written out by target: the clause of the root node, the clauses of the other
targets in the order in which the chain first names them, and the way to each label. Main
statements: `grouped_ofChain`, `text_nodes_ofChain` and `links_addAll`.
-/

namespace CypherLink

open Entries (tabulate)
open Composed (compose farIdentifier)

namespace Occurrence

def fragment (o : Occurrence) (identifier : Identifier) : String :=
  (o.placed identifier).fragment

end Occurrence

/-- No label of a node and no type of a bound relationship holds the word that opens a condition. -/
def Wordless (root : String) (fs : List Filter) : Prop :=
  ∀ t ∈ Target.root :: fs.map Filter.target, ¬ whereWord <:+: (t.key root).toList

/-- The type of a bound relationship is no label of the chain. -/
def Clear (root : String) (fs : List Filter) : Prop :=
  ∀ type, Target.relationship type ∈ fs.map Filter.target →
    type ≠ root ∧ Target.node type ∉ fs.map Filter.target

/-- All filters on nodes with one label take the same way there. -/
def Routed (route : String → String × Direction) (fs : List Filter) : Prop :=
  ∀ f ∈ fs, ∀ via label type direction,
    f.subject = .node via label type direction → route label = (type, direction)

namespace Grouping

/-- The targets beyond the root node, in the order in which they first appear. -/
def beyond (os : List Occurrence) : List Target :=
  ((os.map Occurrence.target).filter (· ≠ .root)).eraseDups

/-- A condition: the first predicate opens it, each other one brings its own connective. -/
def condition (identifier : Identifier) : List Occurrence → String
  | [] => ""
  | o :: os =>
    "WHERE " ++ o.fragment identifier ++
      String.join (os.map fun p => p.filter.connective.symbol ++ " " ++ p.fragment identifier)

def clause (root : String) (os : List Occurrence) (t : Target) : String :=
  (pattern root os t).text ++ condition (pattern root os t).identifier (members os t)

/-- The way from the root node to the nodes with a label. -/
def link (route : String → String × Direction) (os : List Occurrence) (label : String) : String :=
  Clause.relationship (route label).1 (route label).2 (farIdentifier (sequence os label)) false

theorem targets_eq (os : List Occurrence) : targets os = .root :: beyond os := by
  rw [targets, List.eraseDups_cons, beyond]
  congr 2
  apply List.filter_congr
  intro t _
  by_cases h : t = .root <;> simp [h]

theorem texts_false (ps : List Placed) :
    Placed.texts false ps =
      String.join (ps.map fun p => p.filter.connective.symbol ++ " " ++ p.fragment) := by
  induction ps with
  | nil => simp [Placed.texts]
  | cons p ps ih =>
    rw [Placed.texts, List.map_cons, String.join_cons, ih]
    rfl

theorem texts_true (identifier : Identifier) (os : List Occurrence) :
    Placed.texts true (os.map fun o => o.placed identifier) = condition identifier os := by
  cases os with
  | nil => rfl
  | cons o os =>
    rw [List.map_cons, Placed.texts, texts_false, List.map_map]
    rfl

theorem word_pattern {root : String} {os : List Occurrence} {t : Target} (h : t ∈ targets os) :
    (pattern root os t).word = t.key root := by
  rcases mem_targets.mp h with rfl | hm
  · rw [pattern_root]
    rfl
  · obtain ⟨o, os', ho⟩ := List.exists_cons_of_ne_nil (members_ne_nil hm)
    have hmem : o ∈ members os t := ho ▸ List.mem_cons_self
    obtain ⟨-, ht⟩ := mem_members.mp hmem
    rw [pattern, ho, ← ht]
    exact o.word_pattern root

/-- A clause whose label or type does not hold the word says it once, before its first predicate. -/
theorem text_group {root : String} {os : List Occurrence} {t : Target} (h : t ∈ targets os)
    (hw : ¬ whereWord <:+: (t.key root).toList) : (group root os t).text = clause root os t := by
  have hp : (pattern root os t).text.hasWhere = false := by
    rw [← Bool.not_eq_true, Pattern.hasWhere_text, word_pattern h]
    exact hw
  rw [Group.text, clause, ← texts_true]
  change _ ++ Placed.texts (!(pattern root os t).text.hasWhere) _ = _
  rw [hp]
  rfl

section Run

variable {root : String} {os : List Occurrence}

theorem grouped_start (root : String) : Grouped root [] (Layout.start root) :=
  ⟨rfl, rfl⟩

theorem grouped_addAll (hs : Separate root os)
    (ha : os.Pairwise fun o p => o.filter.onRelationship = true → p.filter.onRelationship = false) :
    Grouped root os ((Layout.start root).addAll root os) := by
  induction os using List.reverseRecOn with
  | nil => exact grouped_start root
  | append_singleton os o ih =>
    rw [List.pairwise_append] at ha
    have hl := ih hs.of_concat ha.1
    -- a second filter on the relationship would start its clause anew, but there is none
    rw [Layout.addAll, List.foldl_append, List.foldl_cons, List.foldl_nil]
    refine grouped_add hl hs ?_
    intro type ho hm
    obtain ⟨p, hp, hpt⟩ := List.mem_map.mp ((mem_targets.mp hm).resolve_left nofun)
    have := ha.2.2 p hp o List.mem_cons_self (Filter.onRelationship_of_target hpt)
    simp [Filter.onRelationship_of_target ho] at this

theorem links_add_other {l : Layout} {o : Occurrence} (h : ∀ label, o.target ≠ .node label) :
    (l.add root o).links = l.links := by
  unfold Occurrence.target Filter.target at h
  unfold Layout.add
  split <;> simp_all [Layout.place]

theorem links_add_known {l : Layout} {o : Occurrence} (hl : Grouped root os l)
    (h : ∀ label, o.target = .node label → Target.node label ∈ targets os) :
    (l.add root o).links = l.links := by
  by_cases ht : ∃ label, o.target = .node label
  · obtain ⟨label, ht⟩ := ht
    obtain ⟨via, type, direction, hf⟩ := Filter.subject_of_node ht
    have hfind := hl.find?_identifiers (h label ht)
    simp [Layout.add, hf, Layout.place, Layout.reach, hfind]
  · exact links_add_other fun label hn => ht ⟨label, hn⟩

theorem links_add_new {l : Layout} {o : Occurrence} (hl : Grouped root os l)
    {via label type : String} {direction : Direction}
    (hf : o.filter.subject = .node via label type direction)
    (hm : Target.node label ∉ targets os) :
    (l.add root o).links =
      Entries.put l.links (label, type) (.relationship type direction o.sequence false) := by
  have hfind := hl.find?_identifiers_new hm
  simp [Layout.add, hf, Layout.place, Layout.reach, hfind]

/-- The way to each label, if all filters on its nodes take the same. -/
def routes (route : String → String × Direction) (os : List Occurrence) :
    Entries (String × String) Pattern :=
  tabulate (fun label => (label, (route label).1))
    (fun label => .relationship (route label).1 (route label).2 (sequence os label) false) (labels os)

theorem routes_concat_known {route : String → String × Direction} {o : Occurrence}
    (h : ∀ label, o.target = .node label → Target.node label ∈ targets os) :
    routes route (os ++ [o]) = routes route os := by
  rw [routes, labels_concat h]
  apply List.map_congr_left
  intro label hlabel
  simp only [sequence_concat_of_label hlabel]

theorem routes_concat_new {route : String → String × Direction} {o : Occurrence} {label : String}
    (ht : o.target = .node label) (hm : Target.node label ∉ targets os) :
    routes route (os ++ [o]) = Entries.put (routes route os) (label, (route label).1)
      (.relationship (route label).1 (route label).2 o.sequence false) := by
  have hnew : o.target ∉ os.map Occurrence.target :=
    fun h => hm (mem_targets.mpr (.inr (ht ▸ h)))
  have hk : (label, (route label).1) ∉ Entries.keys (routes route os) := by
    rw [routes, Entries.keys_tabulate]
    intro hk
    obtain ⟨other, hother, he⟩ := List.mem_map.mp hk
    have hlabel : other = label := (Prod.mk.inj he).1
    exact hm (mem_labels.mp (hlabel ▸ hother))
  rw [Entries.put_absent hk, routes, labels_concat_new ht hm]
  simp only [routes, tabulate, List.map_append, List.map_cons, List.map_nil,
    sequence_concat_new ht.symm hnew, List.append_cancel_right_eq]
  apply List.map_congr_left
  intro other hother
  simp only [sequence_concat_of_label hother]

theorem links_addAll {route : String → String × Direction} (hs : Separate root os)
    (ha : os.Pairwise fun o p => o.filter.onRelationship = true → p.filter.onRelationship = false)
    (hr : ∀ o ∈ os, ∀ via label type direction,
      o.filter.subject = .node via label type direction → route label = (type, direction)) :
    ((Layout.start root).addAll root os).links = routes route os := by
  induction os using List.reverseRecOn with
  | nil => rfl
  | append_singleton os o ih =>
    rw [List.pairwise_append] at ha
    have hl := grouped_addAll hs.of_concat ha.1
    have hlinks := ih hs.of_concat ha.1 fun p hp => hr p (List.mem_append_left _ hp)
    rw [Layout.addAll, List.foldl_append, List.foldl_cons, List.foldl_nil]
    change (Layout.add root ((Layout.start root).addAll root os) o).links = _
    by_cases hk : ∀ label, o.target = .node label → Target.node label ∈ targets os
    · rw [links_add_known hl hk, routes_concat_known hk, hlinks]
    · push Not at hk
      obtain ⟨label, ht, hm⟩ := hk
      obtain ⟨via, type, direction, hf⟩ := Filter.subject_of_node ht
      have hroute := hr o (by simp) via label type direction hf
      rw [links_add_new hl hf hm, routes_concat_new ht hm, hlinks, hroute]

end Run

section Chain

variable {root : String} {fs : List Filter}

theorem map_target_places (fs : List Filter) :
    (places fs).map Occurrence.target = fs.map Filter.target := by
  have h : Occurrence.target = Filter.target ∘ Occurrence.filter := rfl
  rw [h, ← List.map_map, places, map_filter_occurrences]

theorem mem_targets_places {t : Target} :
    t ∈ targets (places fs) ↔ t ∈ Target.root :: fs.map Filter.target := by
  rw [mem_targets, map_target_places, List.mem_cons]

theorem filter_mem_of_mem_places {o : Occurrence} (h : o ∈ places fs) : o.filter ∈ fs := by
  have := List.mem_map_of_mem (f := Occurrence.filter) h
  rwa [places, map_filter_occurrences] at this

theorem mem_places {f : Filter} (h : f ∈ fs) : ∃ o ∈ places fs, o.filter = f := by
  rw [← map_filter_occurrences 0 0 fs] at h
  exact List.mem_map.mp h

theorem ne_root_of_node (ha : Composed.Accepted root 0 false fs) {label : String}
    (h : Target.node label ∈ fs.map Filter.target) : label ≠ root := by
  obtain ⟨f, hf, ht⟩ := List.mem_map.mp h
  obtain ⟨via, type, direction, hs⟩ := Filter.subject_of_node ht
  exact ha.foreign hf hs

theorem separate_places (ha : Composed.Accepted root 0 false fs) (hc : Clear root fs) :
    Separate root (places fs) := by
  intro t ht u hu hk
  rw [mem_targets_places] at ht hu
  have hnode : ∀ label, Target.node label ∈ Target.root :: fs.map Filter.target → label ≠ root :=
    fun label h => ne_root_of_node ha ((List.mem_cons.mp h).resolve_left nofun)
  have hrel : ∀ type, Target.relationship type ∈ Target.root :: fs.map Filter.target →
      type ≠ root ∧ Target.node type ∉ Target.root :: fs.map Filter.target := by
    intro type h
    obtain ⟨h1, h2⟩ := hc type ((List.mem_cons.mp h).resolve_left nofun)
    exact ⟨h1, by simpa using h2⟩
  cases t with
  | root =>
    cases u with
    | root => rfl
    | node label => exact absurd hk.symm (hnode label hu)
    | relationship type => exact absurd hk.symm (hrel type hu).1
  | node label =>
    cases u with
    | root => exact absurd hk (hnode label ht)
    | node other => exact congrArg Target.node hk
    | relationship type =>
      rw [show label = type from hk] at ht
      exact absurd ht (hrel type hu).2
  | relationship type =>
    cases u with
    | root => exact absurd hk (hrel type ht).1
    | node label =>
      rw [show label = type from hk.symm] at hu
      exact absurd hu (hrel type ht).2
    | relationship other => exact congrArg Target.relationship hk

theorem alone_places (ha : Composed.Accepted root 0 false fs) :
    (places fs).Pairwise fun o p =>
      o.filter.onRelationship = true → p.filter.onRelationship = false := by
  have h := ha.alone
  rw [← map_filter_occurrences 0 0 fs, List.pairwise_map] at h
  exact h

theorem grouped_ofChain (ha : Composed.Accepted root 0 false fs) (hc : Clear root fs) :
    Grouped root (places fs) (Layout.ofChain root fs) :=
  grouped_addAll (separate_places ha hc) (alone_places ha)

theorem text_nodes_ofChain (ha : Composed.Accepted root 0 false fs) (hw : Wordless root fs)
    (hc : Clear root fs) : (Layout.ofChain root fs).nodes.map (fun e => e.2.text) =
      (targets (places fs)).map (clause root (places fs)) := by
  rw [(grouped_ofChain ha hc).nodes, tabulate, List.map_map]
  apply List.map_congr_left
  intro t ht
  exact text_group ht (hw t (mem_targets_places.mp ht))

end Chain

/-- The clause of the root node comes first with all its filters, then the clause of each other
target with its filters, then the way to each label. -/
theorem compose_text_by_target {root : String} {fs : List Filter} {c : Composed}
    {route : String → String × Direction} (h : compose root fs = .ok c) (hw : Wordless root fs)
    (hc : Clear root fs) (hr : Routed route fs) :
    c.text =
      Clause.node Clause.rootIdentifier root ++ condition .root (members (places fs) .root) ++
        String.join ((beyond (places fs)).map (clause root (places fs))) ++
        String.join ((labels (places fs)).map (link route (places fs))) := by
  have ha := Composed.accepted_of_compose h
  have hlinks := links_addAll (separate_places ha hc) (alone_places ha)
    fun o ho => hr o.filter (filter_mem_of_mem_places ho)
  have hroot : clause root (places fs) .root =
      Clause.node Clause.rootIdentifier root ++ condition .root (members (places fs) .root) := by
    rw [clause, pattern_root]
    rfl
  have hlinked : (Layout.ofChain root fs).links.map (fun e => e.2.text) =
      (labels (places fs)).map (link route (places fs)) := by
    change ((Layout.start root).addAll root (places fs)).links.map _ = _
    rw [hlinks, routes, tabulate, List.map_map]
    rfl
  rw [Composed.text_of_compose h, Layout.text, text_nodes_ofChain ha hw hc, hlinked, targets_eq,
    List.map_cons, String.join_cons, hroot]

/-- Filters that take turns: the person, the company, an acquaintance refused, and the person and
the company once more. -/
def turns : List Filter :=
  [⟨"name", .text "Tom", .equal, .none, false, .property, .root⟩,
    ⟨"name", .text "Acme", .equal, .and, false, .property,
      .node "employer" "Company" "WORKS_AT" .outgoing⟩,
    ⟨"since", .int 2010, .less, .and, true, .property, .relationship "friends" "KNOWS" .incoming⟩,
    ⟨"age", .int 30, .greater, .or, false, .property, .root⟩,
    ⟨"city", .text "Riga", .equal, .and, false, .property,
      .node "employer" "Company" "WORKS_AT" .outgoing⟩]

theorem wordless_turns : Wordless "Person" turns := by
  unfold Wordless
  decide +kernel

theorem clear_turns : Clear "Person" turns := by
  intro type h
  simp only [turns, List.map_cons, List.map_nil, Filter.target, List.mem_cons, reduceCtorEq,
    Target.relationship.injEq, List.not_mem_nil, or_false, false_or] at h
  subst h
  decide

theorem routed_turns : Routed (fun _ => ("WORKS_AT", .outgoing)) turns := by
  intro f hf via label type direction hs
  simp only [turns, List.mem_cons, List.not_mem_nil, or_false] at hf
  rcases hf with rfl | rfl | rfl | rfl | rfl <;> simp_all

theorem compose_turns : ∃ c, compose "Person" turns = .ok c :=
  Outcome.eq_ok_of_isSome (by decide +kernel)

theorem text_of_compose_turns : ∃ c, compose "Person" turns = .ok c ∧ c.text =
    "MATCH (n:`Person`) WHERE n.`name` = \x7b `name_0` \x7d OR n.`age` > \x7b `age_3` \x7d " ++
      "MATCH (m0:`Company`) WHERE m0.`name` = \x7b `employer_name_1` \x7d AND " ++
      "m0.`city` = \x7b `employer_city_4` \x7d " ++
      "MATCH (n)<-[r:`KNOWS`]-(m1) WHERE NOT(r.`since` < \x7b `friends_since_2` \x7d) " ++
      "MATCH (n)-[:`WORKS_AT`]->(m0) " := by
  obtain ⟨c, hc⟩ := compose_turns
  refine ⟨c, hc, ?_⟩
  rw [compose_text_by_target hc wordless_turns clear_turns routed_turns]
  decide +kernel

end Grouping

end CypherLink
