import CypherLink.Proofs.Match.Acceptance
import CypherLink.Proofs.Match.Condition

/-!
Every composed text is the text of a layout. A draft realises a layout when its clauses read as the
groups and links of the layout; each filter that is taken keeps this up. Main statement:
`text_of_compose`.
-/

namespace CypherLink

open Entries (mapValues)
open Composed (farIdentifier)

/-- The draft holds the texts of the layout. -/
structure Draft.Realises (d : Draft) (l : Layout) : Prop where
  numbered : d.Numbered
  texts : d.texts = mapValues Group.text l.nodes
  links : d.links = mapValues Pattern.text l.links
  identifiers : d.identifiers = mapValues farIdentifier l.identifiers

/-- The draft is about to receive a predicate in its clause of that number, which stands under that
key and reads as that group. -/
structure Draft.Aims (d : Draft) (i : Nat) (l : Layout) (key : String) (g : Group) : Prop where
  numbered : d.Numbered
  found : Entries.find? d.nodes key = some i
  texts : d.texts = Entries.put (mapValues Group.text l.nodes) key g.text
  links : d.links = mapValues Pattern.text l.links
  identifiers : d.identifiers = mapValues farIdentifier l.identifiers

namespace Draft

variable {d : Draft} {l : Layout}

theorem Realises.render (h : d.Realises l) : d.render = l.text := by
  rw [render_eq, h.texts, h.links, Layout.text]
  simp [Entries.values, mapValues, Function.comp_def]

theorem Aims.clause {i : Nat} {key : String} {g : Group} (h : d.Aims i l key g) :
    d.clause i = g.text := by
  have hf := find?_texts d key
  rw [h.found, h.texts, Entries.find?_put] at hf
  simpa using hf.symm

theorem Aims.append {i : Nat} {key : String} {g : Group} (h : d.Aims i l key g) (p : Placed) :
    (d.append i (p.text (!(d.clause i).hasWhere))).Realises (l.place key g p) := by
  refine ⟨numbered_append h.numbered _ i, ?_, ?_, h.identifiers⟩
  · rw [texts_append h.numbered h.found, h.clause, h.texts, Entries.put_put, ← Group.text_add,
      Entries.put_mapValues]
    rfl
  · rw [links_append h.numbered h.found, h.links]
    rfl

theorem Realises.withRest (h : d.Realises l) (parameters : Entries String Value) (bound : Bool) :
    { d with parameters, bound }.Realises l :=
  ⟨h.numbered.of_eq rfl rfl rfl, h.texts, h.links, h.identifiers⟩

theorem Realises.matchClause (h : d.Realises l) (label : String) (identifier : Identifier) :
    (d.matchClause label identifier.text).1.Aims (d.matchClause label identifier.text).2 l label
      (l.group label (.node identifier label)) := by
  have hg : (l.group label (.node identifier label)).text =
      (Entries.find? d.texts label).getD (Clause.node identifier.text label) := by
    rw [h.texts, Entries.find?_mapValues, Layout.group]
    cases Entries.find? l.nodes label with
    | none => exact Group.text_nil _
    | some g => rfl
  refine ⟨numbered_matchClause h.numbered _ _, find?_matchClause d _ _, ?_, ?_, ?_⟩
  · rw [texts_matchClause h.numbered, hg, h.texts]
  · rw [links_matchClause h.numbered, h.links]
  · rw [identifiers_matchClause, h.identifiers]

theorem Realises.putMatch (h : d.Realises l) (key : String) (p : Pattern) :
    (d.putMatch key p.text).1.Aims (d.putMatch key p.text).2 l key ⟨p, []⟩ := by
  refine ⟨numbered_putMatch h.numbered _ _, find?_putMatch d _ _, ?_, ?_, h.identifiers⟩
  · rw [texts_putMatch h.numbered, h.texts, Group.text_nil]
  · rw [links_putMatch h.numbered, h.links]

theorem Realises.reach (h : d.Realises l) {label : String} (type : String)
    (direction : Direction) (sequence : Nat) (hn : Entries.find? l.identifiers label = none) :
    ({ d with identifiers := Entries.put d.identifiers label (farIdentifier sequence) }.putRelationship
      label type (Clause.relationship type direction (farIdentifier sequence) false)).1.Realises
        (l.reach label type direction sequence) := by
  let named := { d with identifiers := Entries.put d.identifiers label (farIdentifier sequence) }
  have hd : named.Numbered := h.numbered.of_eq rfl rfl rfl
  simp only [Layout.reach, hn]
  refine ⟨numbered_putRelationship hd _ _ _, ?_, ?_, ?_⟩
  · rw [texts_putRelationship hd]
    exact h.texts
  · rw [links_putRelationship hd, ← Entries.put_mapValues]
    exact congrArg (fun m => Entries.put m (label, type) _) h.links
  · change Entries.put d.identifiers label _ = _
    rw [h.identifiers, Entries.put_mapValues]

end Draft

namespace Layout

theorem nodes_reach (l : Layout) (label type : String) (direction : Direction) (sequence : Nat) :
    (l.reach label type direction sequence).nodes = l.nodes := by
  unfold reach
  split <;> rfl

theorem group_reach (l : Layout) (label type : String) (direction : Direction) (sequence : Nat)
    (key : String) (p : Pattern) :
    (l.reach label type direction sequence).group key p = l.group key p := by
  rw [group, group, nodes_reach]

end Layout

namespace Composed

variable {root : String} {d d' : Draft} {l : Layout} {f : Filter} {position sequence : Nat}

theorem realises_of_target (position : Nat) {i : Nat} {identifier : String} (hd : d.Realises l)
    (h : target root f sequence d = .ok (d', i, identifier)) :
    ∃ p : Placed, p.text = (fun first => f.render identifier first position) ∧
      (d'.append i (p.text (!(d'.clause i).hasWhere))).Realises
        (l.add root ⟨f, position, sequence⟩) := by
  cases hs : f.subject with
  | root =>
    obtain ⟨hm, rfl⟩ := target_root h hs
    have ha := hd.matchClause root .root
    simp only [Identifier.text, hm] at ha
    refine ⟨⟨f, position, .root⟩, rfl, ?_⟩
    simpa [Layout.add, hs] using ha.append ⟨f, position, .root⟩
  | node via label type direction =>
    obtain ⟨-, -, ⟨hi, hm⟩ | ⟨hi, rfl, hm⟩⟩ := target_node h hs
    · rw [hd.identifiers, Entries.find?_mapValues, Option.map_eq_some_iff] at hi
      obtain ⟨k, hk, rfl⟩ := hi
      have ha := hd.matchClause label (.far k)
      simp only [Identifier.text, hm] at ha
      refine ⟨⟨f, position, .far k⟩, rfl, ?_⟩
      simpa [Layout.add, hs, Layout.reach, Layout.sequence, hk] using
        ha.append ⟨f, position, .far k⟩
    · rw [hd.identifiers, Entries.find?_mapValues, Option.map_eq_none_iff] at hi
      have hr := hd.reach type direction sequence hi
      have ha := hr.matchClause label (.far sequence)
      simp only [Identifier.text, hm] at ha
      refine ⟨⟨f, position, .far sequence⟩, rfl, ?_⟩
      simpa [Layout.add, hs, Layout.sequence, hi, Layout.group_reach] using
        ha.append ⟨f, position, .far sequence⟩
  | relationship via type direction =>
    obtain ⟨-, -, rfl, hm⟩ := target_relationship h hs
    have ha := (hd.withRest d.parameters true).putMatch type (.relationship type direction sequence true)
    simp only [Pattern.text, hm] at ha
    refine ⟨⟨f, position, .relationship⟩, rfl, ?_⟩
    simpa [Layout.add, hs] using ha.append ⟨f, position, .relationship⟩
  | unspecified => exact absurd hs (target_specified h)

theorem realises_addFilter (hd : d.Realises l)
    (h : addFilter root position sequence d f = .ok d') :
    d'.Realises (l.add root ⟨f, position, sequence⟩) := by
  obtain ⟨d₁, i, identifier, new, -, ht, -, rfl⟩ := addFilter_ok h
  obtain ⟨p, hp, hr⟩ := realises_of_target position hd ht
  rw [hp] at hr
  exact hr.withRest _ _

theorem realises_addFilters {fs : List Filter} (hd : d.Realises l)
    (h : addFilters root position sequence d fs = .ok d') :
    d'.Realises (l.addAll root (occurrences position sequence fs)) := by
  induction fs generalizing position sequence d l with
  | nil =>
    obtain rfl : d = d' := by simpa [addFilters] using h
    exact hd
  | cons f fs ih =>
    unfold addFilters at h
    obtain ⟨d₁, hf, hfs⟩ := Outcome.bind_eq_ok.mp h
    exact ih (realises_addFilter hd hf) hfs

theorem realises_start (root : String) : (start root).Realises (Layout.start root) := by
  have hempty : (({} : Draft)).Realises ⟨[], [], []⟩ :=
    ⟨⟨.nil, .nil, by simp [Entries.values], by simp [Entries.values], by simp [Entries.values]⟩,
      rfl, rfl, rfl⟩
  have ha := hempty.matchClause root .root
  refine ⟨ha.numbered, ha.texts, ha.links, ha.identifiers⟩

theorem text_of_compose {fs : List Filter} {c : Composed} (h : compose root fs = .ok c) :
    c.text = (Layout.ofChain root fs).text := by
  obtain ⟨d, hd, rfl⟩ := compose_ok h
  exact (realises_addFilters (realises_start root) hd).render

end Composed

end CypherLink
