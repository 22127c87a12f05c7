import Mathlib.Data.List.Induction
import CypherLink.Proofs.Match.Realisation

/-!
Filters grouped by what they constrain. As long as no relationship type is also a label, the clauses
of a chain are its filters sorted by target: each target has one clause, made for its first filter,
and on it stand exactly the filters with that target. Main statement: `grouped_add`, one more filter
leaves the clauses grouped.
-/

namespace CypherLink

open Entries (tabulate)

/-- What a filter constrains, without the way that leads there. -/
inductive Target where
  | root
  | node (label : String)
  | relationship (type : String)
  deriving DecidableEq

namespace Target

/-- The key of the match clause that collects the filters with the target. -/
def key (root : String) : Target → String
  | .root => root
  | .node label => label
  | .relationship type => type

def label? : Target → Option String
  | .node label => some label
  | _ => none

end Target

namespace Filter

def target (f : Filter) : Target :=
  match f.subject with
  | .node _ label _ _ => .node label
  | .relationship _ type _ => .relationship type
  | .root | .unspecified => .root

variable {f : Filter}

theorem isNested_iff_target : f.isNested = true ↔ f.target ≠ .root := by
  unfold isNested target
  cases f.subject <;> simp [Subject.via?]

theorem subject_of_node {label : String} (h : f.target = .node label) :
    ∃ via type direction, f.subject = .node via label type direction := by
  unfold target at h
  split at h <;> simp_all

theorem subject_of_relationship {type : String} (h : f.target = .relationship type) :
    ∃ via direction, f.subject = .relationship via type direction := by
  unfold target at h
  split at h <;> simp_all

theorem onRelationship_of_target {type : String} (h : f.target = .relationship type) :
    f.onRelationship = true := by
  obtain ⟨via, direction, hf⟩ := subject_of_relationship h
  simp [onRelationship, hf]

end Filter

namespace Occurrence

def target (o : Occurrence) : Target := o.filter.target

/-- The pattern of the clause that is made for the filter. -/
def pattern (root : String) (o : Occurrence) : Pattern :=
  match o.filter.subject with
  | .node _ label _ _ => .node (.far o.sequence) label
  | .relationship _ type direction => .relationship type direction o.sequence true
  | .root | .unspecified => .node .root root

def placed (o : Occurrence) (identifier : Identifier) : Placed :=
  ⟨o.filter, o.position, identifier⟩

variable {o : Occurrence}

theorem word_pattern (o : Occurrence) (root : String) :
    (o.pattern root).word = o.target.key root := by
  unfold pattern target Filter.target
  cases o.filter.subject <;> rfl

theorem add_of_root {root : String} {l : Layout} (h : o.target = .root) :
    l.add root o = l.place root (l.group root (.node .root root)) (o.placed .root) := by
  unfold Occurrence.target Filter.target at h
  unfold Layout.add
  split at h <;> simp_all [placed]

end Occurrence

section EraseDups

variable {α : Type} [DecidableEq α] {xs : List α} {a : α}

theorem eraseDups_concat_mem (h : a ∈ xs) : (xs ++ [a]).eraseDups = xs.eraseDups := by
  have hr : [a].removeAll xs = [] := by simp [List.removeAll, h]
  rw [List.eraseDups_append, hr, List.eraseDups_nil, List.append_nil]

theorem eraseDups_concat_new (h : a ∉ xs) : (xs ++ [a]).eraseDups = xs.eraseDups ++ [a] := by
  have hr : [a].removeAll xs = [a] := by simp [List.removeAll, h]
  rw [List.eraseDups_append, hr]
  rfl

theorem nodup_eraseDups (xs : List α) : xs.eraseDups.Nodup := by
  induction xs using List.reverseRecOn with
  | nil => simp
  | append_singleton xs a ih =>
    by_cases h : a ∈ xs
    · rwa [eraseDups_concat_mem h]
    · rw [eraseDups_concat_new h, List.nodup_append]
      refine ⟨ih, by simp, ?_⟩
      rintro b hb c hc rfl
      exact h (List.mem_singleton.mp hc ▸ List.mem_eraseDups.mp hb)

end EraseDups

namespace Grouping

def members (os : List Occurrence) (t : Target) : List Occurrence := os.filter (·.target = t)

/-- The targets of filters in the order in which they first appear, after the root node. -/
def targets (os : List Occurrence) : List Target := (.root :: os.map Occurrence.target).eraseDups

def labels (os : List Occurrence) : List String := (targets os).filterMap Target.label?

def pattern (root : String) (os : List Occurrence) (t : Target) : Pattern :=
  match members os t with
  | o :: _ => o.pattern root
  | [] => .node .root root

/-- The clause of a target: its first filter makes the pattern, and all its filters stand on it. -/
def group (root : String) (os : List Occurrence) (t : Target) : Group :=
  ⟨pattern root os t, (members os t).map fun o => o.placed (pattern root os t).identifier⟩

/-- How many nested filters stand before the first one on nodes with the label. -/
def sequence (os : List Occurrence) (label : String) : Nat :=
  match members os (.node label) with
  | o :: _ => o.sequence
  | [] => 0

section Concat

variable {root : String} {os : List Occurrence} {o : Occurrence} {t : Target}

theorem mem_members : o ∈ members os t ↔ o ∈ os ∧ o.target = t := by
  rw [members, List.mem_filter, decide_eq_true_eq]

theorem members_concat_same : members (os ++ [o]) o.target = members os o.target ++ [o] := by
  simp [members]

theorem members_concat_other (h : t ≠ o.target) : members (os ++ [o]) t = members os t := by
  simp [members, Ne.symm h]

theorem mem_targets : t ∈ targets os ↔ t = .root ∨ t ∈ os.map Occurrence.target := by
  rw [targets, List.mem_eraseDups, List.mem_cons]

theorem root_mem_targets : Target.root ∈ targets os := mem_targets.mpr (.inl rfl)

theorem mem_labels {label : String} : label ∈ labels os ↔ Target.node label ∈ targets os := by
  simp only [labels, List.mem_filterMap]
  constructor
  · rintro ⟨t, ht, hl⟩
    cases t <;> simp_all [Target.label?]
  · intro h
    exact ⟨_, h, rfl⟩

theorem targets_concat (os : List Occurrence) (o : Occurrence) :
    targets (os ++ [o]) = ((Target.root :: os.map Occurrence.target) ++ [o.target]).eraseDups := by
  simp [targets]

theorem targets_concat_mem (h : o.target ∈ targets os) : targets (os ++ [o]) = targets os := by
  rw [targets_concat, eraseDups_concat_mem (List.mem_eraseDups.mp h), targets]

theorem targets_concat_new (h : o.target ∉ targets os) :
    targets (os ++ [o]) = targets os ++ [o.target] := by
  rw [targets_concat, eraseDups_concat_new (fun hm => h (List.mem_eraseDups.mpr hm)), targets]

theorem nodup_targets (os : List Occurrence) : (targets os).Nodup := nodup_eraseDups _

theorem members_ne_nil (h : t ∈ os.map Occurrence.target) : members os t ≠ [] := by
  obtain ⟨o, ho, rfl⟩ := List.mem_map.mp h
  exact List.ne_nil_of_mem (List.mem_filter.mpr ⟨ho, by simp⟩)

theorem members_eq_nil (h : t ∉ os.map Occurrence.target) : members os t = [] := by
  rw [members, List.filter_eq_nil_iff]
  intro o ho ht
  have hto : o.target = t := by simpa using ht
  exact h (hto ▸ List.mem_map_of_mem ho)

theorem group_concat_other (h : t ≠ o.target) : group root (os ++ [o]) t = group root os t := by
  simp only [group, pattern, members_concat_other h]

theorem group_concat_mem (root : String) (h : o.target ∈ os.map Occurrence.target) :
    group root (os ++ [o]) o.target =
      (group root os o.target).add (o.placed (pattern root os o.target).identifier) := by
  obtain ⟨p, ps, hp⟩ := List.exists_cons_of_ne_nil (members_ne_nil h)
  simp [group, pattern, members_concat_same, hp, Group.add]

theorem group_concat_new (root : String) (h : o.target ∉ os.map Occurrence.target) :
    group root (os ++ [o]) o.target =
      (Group.mk (o.pattern root) []).add (o.placed (o.pattern root).identifier) := by
  simp [group, pattern, members_concat_same, members_eq_nil h, Group.add]

theorem sequence_concat_other {label : String} (h : Target.node label ≠ o.target) :
    sequence (os ++ [o]) label = sequence os label := by
  simp only [sequence, members_concat_other h]

theorem sequence_concat_mem {label : String} (h : Target.node label ∈ os.map Occurrence.target) :
    sequence (os ++ [o]) label = sequence os label := by
  by_cases ht : Target.node label = o.target
  · obtain ⟨p, ps, hp⟩ := List.exists_cons_of_ne_nil (members_ne_nil h)
    rw [ht] at hp
    simp [sequence, ht, members_concat_same, hp]
  · exact sequence_concat_other ht

theorem sequence_concat_new {label : String} (ht : Target.node label = o.target)
    (h : o.target ∉ os.map Occurrence.target) : sequence (os ++ [o]) label = o.sequence := by
  simp [sequence, ht, members_concat_same, members_eq_nil h]

end Concat

/-- Different targets keep their filters under different keys. -/
def Separate (root : String) (os : List Occurrence) : Prop :=
  ∀ t ∈ targets os, ∀ u ∈ targets os, t.key root = u.key root → t = u

/-- The match clauses and the identifiers of the layout are those of the filters, by target. -/
structure Grouped (root : String) (os : List Occurrence) (l : Layout) : Prop where
  nodes : l.nodes = tabulate (Target.key root) (group root os) (targets os)
  identifiers : l.identifiers = tabulate id (sequence os) (labels os)

section Step

variable {root : String} {os : List Occurrence} {o : Occurrence} {l : Layout}

theorem mem_targets_concat {t : Target} (h : t ∈ targets os) : t ∈ targets (os ++ [o]) := by
  rcases mem_targets.mp h with rfl | h
  · exact root_mem_targets
  · exact mem_targets.mpr (.inr (by simp_all))

theorem target_mem_targets_concat : o.target ∈ targets (os ++ [o]) :=
  mem_targets.mpr (.inr (by simp))

theorem Separate.of_concat (h : Separate root (os ++ [o])) : Separate root os :=
  fun t ht u hu => h t (mem_targets_concat ht) u (mem_targets_concat hu)

theorem key_notMem_of_new (h : Separate root (os ++ [o])) (ht : o.target ∉ targets os) :
    o.target.key root ∉ (targets os).map (Target.key root) := by
  intro hm
  obtain ⟨u, hu, hk⟩ := List.mem_map.mp hm
  have heq := h u (mem_targets_concat hu) o.target target_mem_targets_concat hk
  exact ht (heq ▸ hu)

theorem Grouped.group_eq (hl : Grouped root os l) (hs : Separate root os) {t : Target}
    (ht : t ∈ targets os) (p : Pattern) : l.group (t.key root) p = group root os t := by
  rw [Layout.group, hl.nodes,
    Entries.find?_tabulate (fun u hu hk => hs u hu t ht hk) ht, Option.getD_some]

theorem Grouped.group_new (hl : Grouped root os l) (hs : Separate root (os ++ [o]))
    (ht : o.target ∉ targets os) (p : Pattern) : l.group (o.target.key root) p = ⟨p, []⟩ := by
  rw [Layout.group, hl.nodes, Entries.find?_absent, Option.getD_none]
  rw [Entries.keys_tabulate]
  exact key_notMem_of_new hs ht

theorem Grouped.find?_identifiers (hl : Grouped root os l) {label : String}
    (h : Target.node label ∈ targets os) :
    Entries.find? l.identifiers label = some (sequence os label) := by
  rw [hl.identifiers]
  have hk : ∀ other ∈ labels os, id other = id label → other = label := fun _ _ hk => hk
  exact Entries.find?_tabulate hk (mem_labels.mpr h)

theorem Grouped.find?_identifiers_new (hl : Grouped root os l) {label : String}
    (h : Target.node label ∉ targets os) : Entries.find? l.identifiers label = none := by
  rw [hl.identifiers, Entries.find?_absent]
  rw [Entries.keys_tabulate, List.map_id]
  exact fun hm => h (mem_labels.mp hm)

theorem nodes_place (hl : Grouped root os l) (hs : Separate root (os ++ [o])) {g : Group}
    {p : Placed} (hg : group root (os ++ [o]) o.target = g.add p) :
    (l.place (o.target.key root) g p).nodes =
      tabulate (Target.key root) (group root (os ++ [o])) (targets (os ++ [o])) := by
  change Entries.put l.nodes _ _ = _
  rw [hl.nodes, ← hg]
  -- a known target has its clause replaced in place, a new one comes last
  by_cases ht : o.target ∈ targets os
  · have hk : ∀ u ∈ targets os, u.key root = o.target.key root → u = o.target :=
      fun u hu => hs.of_concat u hu o.target ht
    rw [Entries.put_tabulate hk (nodup_targets os) ht, targets_concat_mem ht]
    apply List.map_congr_left
    intro u hu
    by_cases hu' : u = o.target
    · simp [hu']
    · simp [hu', group_concat_other hu']
  · have hk : o.target.key root ∉
        Entries.keys (tabulate (Target.key root) (group root os) (targets os)) := by
      rw [Entries.keys_tabulate]
      exact key_notMem_of_new hs ht
    rw [Entries.put_absent hk, targets_concat_new ht]
    simp only [tabulate, List.map_append, List.map_cons, List.map_nil, List.append_cancel_right_eq]
    apply List.map_congr_left
    intro u hu
    rw [group_concat_other (ne_of_mem_of_not_mem hu ht)]

theorem pattern_eq_of_mem {t : Target} {p : Pattern}
    (h : ∀ q ∈ os, q.target = t → q.pattern root = p) (ht : t ∈ os.map Occurrence.target) :
    pattern root os t = p := by
  obtain ⟨q, qs, hq⟩ := List.exists_cons_of_ne_nil (members_ne_nil ht)
  have hm : q ∈ members os t := hq ▸ List.mem_cons_self
  obtain ⟨hqo, hqt⟩ := mem_members.mp hm
  simp only [pattern, hq]
  exact h q hqo hqt

theorem pattern_of_target_root {q : Occurrence} (h : q.target = .root) :
    q.pattern root = .node .root root := by
  unfold Occurrence.target Filter.target at h
  unfold Occurrence.pattern
  split <;> simp_all

theorem pattern_root (root : String) (os : List Occurrence) :
    pattern root os .root = .node .root root := by
  by_cases h : Target.root ∈ os.map Occurrence.target
  · exact pattern_eq_of_mem (fun q _ hq => pattern_of_target_root hq) h
  · simp [pattern, members_eq_nil h]

theorem pattern_node {label : String} (h : Target.node label ∈ os.map Occurrence.target) :
    pattern root os (.node label) = .node (.far (sequence os label)) label := by
  obtain ⟨q, qs, hq⟩ := List.exists_cons_of_ne_nil (members_ne_nil h)
  have hm : q ∈ members os (.node label) := hq ▸ List.mem_cons_self
  obtain ⟨via, type, direction, hf⟩ := Filter.subject_of_node (mem_members.mp hm).2
  simp [pattern, sequence, hq, Occurrence.pattern, hf]

theorem group_concat_root (h : o.target = .root) :
    group root (os ++ [o]) .root = (group root os .root).add (o.placed .root) := by
  by_cases hm : Target.root ∈ os.map Occurrence.target
  · have hg := group_concat_mem root (h.symm ▸ hm)
    rw [h, pattern_root] at hg
    exact hg
  · have hg := group_concat_new root (h.symm ▸ hm)
    rw [h, pattern_of_target_root h] at hg
    rw [hg]
    simp [group, pattern_root, members_eq_nil hm, Pattern.identifier]

theorem labels_concat (h : ∀ label, o.target = .node label → Target.node label ∈ targets os) :
    labels (os ++ [o]) = labels os := by
  by_cases ht : o.target ∈ targets os
  · rw [labels, targets_concat_mem ht, labels]
  · rw [labels, targets_concat_new ht, List.filterMap_append, labels]
    cases hl : o.target with
    | node label => exact absurd (hl ▸ h label hl) ht
    | root => simp [Target.label?]
    | relationship type => simp [Target.label?]

theorem labels_concat_new {label : String} (hl : o.target = .node label)
    (h : Target.node label ∉ targets os) : labels (os ++ [o]) = labels os ++ [label] := by
  rw [labels, targets_concat_new (hl ▸ h), List.filterMap_append, hl, labels]
  rfl

theorem sequence_concat_of_label {label : String} (h : label ∈ labels os) :
    sequence (os ++ [o]) label = sequence os label := by
  rcases mem_targets.mp (mem_labels.mp h) with hr | hm
  · cases hr
  · exact sequence_concat_mem hm

theorem identifiers_keep (hl : Grouped root os l)
    (h : ∀ label, o.target = .node label → Target.node label ∈ targets os) :
    l.identifiers = tabulate id (sequence (os ++ [o])) (labels (os ++ [o])) := by
  rw [hl.identifiers, labels_concat h]
  apply List.map_congr_left
  intro label hlabel
  rw [sequence_concat_of_label hlabel]

theorem identifiers_reach (hl : Grouped root os l) {label : String}
    (ht : o.target = .node label) (h : Target.node label ∉ targets os) :
    Entries.put l.identifiers label o.sequence =
      tabulate id (sequence (os ++ [o])) (labels (os ++ [o])) := by
  have hk : label ∉ Entries.keys l.identifiers := by
    rw [hl.identifiers, Entries.keys_tabulate, List.map_id]
    exact fun hm => h (mem_labels.mp hm)
  have hnew : o.target ∉ os.map Occurrence.target := by
    intro hm
    exact h (mem_targets.mpr (.inr (ht ▸ hm)))
  rw [Entries.put_absent hk, labels_concat_new ht h, hl.identifiers]
  simp only [tabulate, List.map_append, List.map_cons, List.map_nil, id,
    sequence_concat_new ht.symm hnew, List.append_cancel_right_eq]
  apply List.map_congr_left
  intro other hother
  rw [sequence_concat_of_label hother]

theorem Grouped.place (hl : Grouped root os l) (hs : Separate root (os ++ [o])) {l' : Layout}
    {g : Group} {p : Placed} (hn : l'.nodes = l.nodes)
    (hi : l'.identifiers = tabulate id (sequence (os ++ [o])) (labels (os ++ [o])))
    (hg : group root (os ++ [o]) o.target = g.add p) :
    Grouped root (os ++ [o]) (l'.place (o.target.key root) g p) := by
  refine ⟨?_, hi⟩
  rw [← nodes_place hl hs hg, Layout.place, Layout.place, hn]

theorem grouped_add_root (hl : Grouped root os l) (hs : Separate root (os ++ [o]))
    (ht : o.target = .root) : Grouped root (os ++ [o]) (l.add root o) := by
  have hg := hl.group_eq hs.of_concat root_mem_targets (.node .root root)
  have hi := identifiers_keep hl (o := o) (by simp [ht])
  rw [Target.key] at hg
  have hp := hl.place hs rfl hi (ht ▸ group_concat_root ht)
  rw [ht] at hp
  rwa [Occurrence.add_of_root ht, hg]

theorem grouped_add_node_known (hl : Grouped root os l) (hs : Separate root (os ++ [o]))
    {label : String} (ht : o.target = .node label) (hm : Target.node label ∈ targets os) :
    Grouped root (os ++ [o]) (l.add root o) := by
  obtain ⟨via, type, direction, hf⟩ := Filter.subject_of_node ht
  have hmo : Target.node label ∈ os.map Occurrence.target := (mem_targets.mp hm).resolve_left nofun
  have hfind := hl.find?_identifiers hm
  have hadd : l.add root o =
      l.place label (l.group label (.node (.far (sequence os label)) label))
        (o.placed (.far (sequence os label))) := by
    simp [Layout.add, hf, Layout.sequence, Layout.reach, hfind, Occurrence.placed]
  have hg := hl.group_eq hs.of_concat hm (.node (.far (sequence os label)) label)
  have hi := identifiers_keep hl (o := o) (by simp [ht, hm])
  have hc := group_concat_mem root (ht.symm ▸ hmo)
  rw [ht, pattern_node hmo] at hc
  rw [Target.key] at hg
  have hp := hl.place hs rfl hi (ht.symm ▸ hc)
  rw [ht] at hp
  rw [hadd, hg]
  exact hp

theorem grouped_add_node_new (hl : Grouped root os l) (hs : Separate root (os ++ [o]))
    {label : String} (ht : o.target = .node label) (hm : Target.node label ∉ targets os) :
    Grouped root (os ++ [o]) (l.add root o) := by
  obtain ⟨via, type, direction, hf⟩ := Filter.subject_of_node ht
  have hmo : o.target ∉ os.map Occurrence.target :=
    fun h => hm (mem_targets.mpr (.inr (ht ▸ h)))
  have hfind := hl.find?_identifiers_new hm
  have hadd : l.add root o =
      (l.reach label type direction o.sequence).place label
        (l.group label (.node (.far o.sequence) label)) (o.placed (.far o.sequence)) := by
    simp [Layout.add, hf, Layout.sequence, hfind, Occurrence.placed]
  have hg := hl.group_new hs (ht.symm ▸ hm) (.node (.far o.sequence) label)
  have hc := group_concat_new root hmo
  have hpat : o.pattern root = .node (.far o.sequence) label := by simp [Occurrence.pattern, hf]
  have hi : (l.reach label type direction o.sequence).identifiers =
      tabulate id (sequence (os ++ [o])) (labels (os ++ [o])) := by
    rw [← identifiers_reach hl ht hm]
    simp [Layout.reach, hfind]
  rw [hpat] at hc
  rw [ht, Target.key] at hg
  have hp := hl.place hs (Layout.nodes_reach l label type direction o.sequence) hi hc
  rw [ht] at hp
  rw [hadd, hg]
  exact hp

theorem grouped_add_relationship (hl : Grouped root os l) (hs : Separate root (os ++ [o]))
    {type : String} (ht : o.target = .relationship type)
    (hm : Target.relationship type ∉ targets os) : Grouped root (os ++ [o]) (l.add root o) := by
  obtain ⟨via, direction, hf⟩ := Filter.subject_of_relationship ht
  have hmo : o.target ∉ os.map Occurrence.target :=
    fun h => hm (mem_targets.mpr (.inr (ht ▸ h)))
  have hadd : l.add root o =
      l.place type ⟨.relationship type direction o.sequence true, []⟩ (o.placed .relationship) := by
    simp [Layout.add, hf, Occurrence.placed]
  have hc := group_concat_new root hmo
  have hpat : o.pattern root = .relationship type direction o.sequence true := by
    simp [Occurrence.pattern, hf]
  have hi := identifiers_keep hl (o := o) (by simp [ht])
  rw [hpat] at hc
  have hp := hl.place hs rfl hi hc
  rw [ht] at hp
  rw [hadd]
  exact hp

theorem grouped_add (hl : Grouped root os l) (hs : Separate root (os ++ [o]))
    (hr : ∀ type, o.target = .relationship type → Target.relationship type ∉ targets os) :
    Grouped root (os ++ [o]) (l.add root o) := by
  cases ht : o.target with
  | root => exact grouped_add_root hl hs ht
  | node label =>
    by_cases hm : Target.node label ∈ targets os
    · exact grouped_add_node_known hl hs ht hm
    · exact grouped_add_node_new hl hs ht hm
  | relationship type => exact grouped_add_relationship hl hs ht (hr type ht)

end Step

end Grouping

end CypherLink
