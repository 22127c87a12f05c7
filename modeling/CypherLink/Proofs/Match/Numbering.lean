import CypherLink.Match.Draft
import CypherLink.Proofs.Entries

/-!
Drafts seen through their numbers. Each clause that a draft keeps has a number of its own, so a
draft can be read as two ordered maps from keys to texts, and every operation is an operation on
these maps. Main statements: `texts_append`, `texts_matchClause`, `texts_putMatch` and
`links_putRelationship`.
-/

namespace CypherLink.Draft

open Entries (mapValues values)

/-- The texts of the match clauses under their keys. -/
def texts (d : Draft) : Entries String Clause := mapValues d.clause d.nodes

def links (d : Draft) : Entries (String × String) Clause := mapValues d.clause d.relationships

theorem render_eq (d : Draft) : d.render = String.join (values d.texts) ++ String.join (values d.links) := by
  simp [render, texts, links, values, mapValues, Function.comp_def]

structure Numbered (d : Draft) : Prop where
  nodes : (values d.nodes).Nodup
  relationships : (values d.relationships).Nodup
  apart : ∀ i ∈ values d.nodes, i ∉ values d.relationships
  lt_of_nodes : ∀ i ∈ values d.nodes, i < d.clauses.length
  lt_of_relationships : ∀ i ∈ values d.relationships, i < d.clauses.length

theorem Numbered.of_eq {d d' : Draft} (h : d.Numbered) (hc : d'.clauses = d.clauses)
    (hn : d'.nodes = d.nodes) (hr : d'.relationships = d.relationships) : d'.Numbered := by
  obtain ⟨h1, h2, h3, h4, h5⟩ := h
  rw [← hn] at h1 h3 h4
  rw [← hr] at h2 h3 h5
  rw [← hc] at h4 h5
  exact ⟨h1, h2, h3, h4, h5⟩

theorem clause_make_of_lt {d : Draft} {i : Nat} (h : i < d.clauses.length) (c : Clause) :
    (d.make c).1.clause i = d.clause i := by
  simp [make, clause, List.getElem?_append_left h]

theorem clause_append (d : Draft) {i : Nat} (h : i < d.clauses.length) (fragment : String) :
    (d.append i fragment).clause i = d.clause i ++ fragment := by
  simp [append, clause, h]

theorem clause_append_of_ne (d : Draft) {i j : Nat} (h : j ≠ i) (fragment : String) :
    (d.append i fragment).clause j = d.clause j := by
  simp [append, clause, Ne.symm h]

theorem find?_texts (d : Draft) (key : String) :
    Entries.find? d.texts key = (Entries.find? d.nodes key).map d.clause :=
  Entries.find?_mapValues d.clause d.nodes key

section Make

variable {d : Draft} (hd : d.Numbered) (c : Clause)

include hd

theorem texts_make : (d.make c).1.texts = d.texts :=
  Entries.mapValues_congr fun _ hi => clause_make_of_lt (hd.lt_of_nodes _ hi) c

theorem links_make : (d.make c).1.links = d.links :=
  Entries.mapValues_congr fun _ hi => clause_make_of_lt (hd.lt_of_relationships _ hi) c

theorem texts_putMatch (key : String) : (d.putMatch key c).1.texts = Entries.put d.texts key c := by
  have ht := texts_make hd c
  have hc := clause_make d c
  change mapValues (d.make c).1.clause (Entries.put d.nodes key d.clauses.length) = _
  rw [← Entries.put_mapValues, hc]
  exact congrArg (fun m => Entries.put m key c) ht

theorem links_putMatch (key : String) : (d.putMatch key c).1.links = d.links := links_make hd c

theorem links_putRelationship (label type : String) :
    (d.putRelationship label type c).1.links = Entries.put d.links (label, type) c := by
  have ht := links_make hd c
  have hc := clause_make d c
  change mapValues (d.make c).1.clause (Entries.put d.relationships (label, type) d.clauses.length) = _
  rw [← Entries.put_mapValues, hc]
  exact congrArg (fun m => Entries.put m (label, type) c) ht

theorem texts_putRelationship (label type : String) :
    (d.putRelationship label type c).1.texts = d.texts := texts_make hd c

theorem numbered_putMatch (key : String) : (d.putMatch key c).1.Numbered := by
  have hnew : d.clauses.length ∉ values d.nodes := fun h => Nat.lt_irrefl _ (hd.lt_of_nodes _ h)
  have hlen : (d.putMatch key c).1.clauses.length = d.clauses.length + 1 := by
    simp [putMatch, make]
  refine ⟨Entries.nodup_values_put hd.nodes hnew, hd.relationships, ?_, ?_, ?_⟩
  · intro i hi hr
    rcases Entries.mem_values_put hi with h | rfl
    · exact hd.apart i h hr
    · exact Nat.lt_irrefl _ (hd.lt_of_relationships _ hr)
  · intro i hi
    rw [hlen]
    rcases Entries.mem_values_put hi with h | rfl
    · exact Nat.lt_succ_of_lt (hd.lt_of_nodes i h)
    · exact Nat.lt_succ_self _
  · intro i hi
    rw [hlen]
    exact Nat.lt_succ_of_lt (hd.lt_of_relationships i hi)

theorem numbered_putRelationship (label type : String) :
    (d.putRelationship label type c).1.Numbered := by
  have hnew : d.clauses.length ∉ values d.relationships :=
    fun h => Nat.lt_irrefl _ (hd.lt_of_relationships _ h)
  have hlen : (d.putRelationship label type c).1.clauses.length = d.clauses.length + 1 := by
    simp [putRelationship, make]
  refine ⟨hd.nodes, Entries.nodup_values_put hd.relationships hnew, ?_, ?_, ?_⟩
  · intro i hi hr
    rcases Entries.mem_values_put hr with h | rfl
    · exact hd.apart i hi h
    · exact Nat.lt_irrefl _ (hd.lt_of_nodes _ hi)
  · intro i hi
    rw [hlen]
    exact Nat.lt_succ_of_lt (hd.lt_of_nodes i hi)
  · intro i hi
    rw [hlen]
    rcases Entries.mem_values_put hi with h | rfl
    · exact Nat.lt_succ_of_lt (hd.lt_of_relationships i h)
    · exact Nat.lt_succ_self _

end Make

theorem find?_putMatch (d : Draft) (key : String) (c : Clause) :
    Entries.find? (d.putMatch key c).1.nodes key = some (d.putMatch key c).2 := by
  simp [putMatch, make, Entries.find?_put]

theorem matchClause_absent {d : Draft} {label identifier : String}
    (h : Entries.find? d.nodes label = none) :
    d.matchClause label identifier = d.putMatch label (Clause.node identifier label) := by
  simp [matchClause, putMatch, h]

theorem find?_matchClause (d : Draft) (label identifier : String) :
    Entries.find? (d.matchClause label identifier).1.nodes label =
      some (d.matchClause label identifier).2 := by
  cases h : Entries.find? d.nodes label with
  | some i => simpa [matchClause_found d label identifier i h] using h
  | none => simpa only [matchClause_absent h] using find?_putMatch d label _

section Match

variable {d : Draft} (hd : d.Numbered) (label identifier : String)

include hd

theorem texts_matchClause : (d.matchClause label identifier).1.texts =
    Entries.put d.texts label
      ((Entries.find? d.texts label).getD (Clause.node identifier label)) := by
  cases h : Entries.find? d.nodes label with
  | some i =>
    have ht : Entries.find? d.texts label = some (d.clause i) := by rw [find?_texts, h]; rfl
    rw [matchClause_found d label identifier i h, ht, Option.getD_some, Entries.put_found ht]
  | none =>
    have ht : Entries.find? d.texts label = none := by rw [find?_texts, h]; rfl
    rw [matchClause_absent h, ht, Option.getD_none, texts_putMatch hd]

theorem links_matchClause : (d.matchClause label identifier).1.links = d.links := by
  cases h : Entries.find? d.nodes label with
  | some i => rw [matchClause_found d label identifier i h]
  | none => rw [matchClause_absent h, links_putMatch hd]

theorem numbered_matchClause : (d.matchClause label identifier).1.Numbered := by
  cases h : Entries.find? d.nodes label with
  | some i => rwa [matchClause_found d label identifier i h]
  | none => rw [matchClause_absent h]; exact numbered_putMatch hd _ _

end Match

theorem identifiers_matchClause (d : Draft) (label identifier : String) :
    (d.matchClause label identifier).1.identifiers = d.identifiers := by
  cases h : Entries.find? d.nodes label with
  | some i => rw [matchClause_found d label identifier i h]
  | none => rw [matchClause_absent h]; rfl

theorem bound_matchClause (d : Draft) (label identifier : String) :
    (d.matchClause label identifier).1.bound = d.bound := by
  cases h : Entries.find? d.nodes label with
  | some i => rw [matchClause_found d label identifier i h]
  | none => rw [matchClause_absent h]; rfl

theorem parameters_matchClause (d : Draft) (label identifier : String) :
    (d.matchClause label identifier).1.parameters = d.parameters := by
  cases h : Entries.find? d.nodes label with
  | some i => rw [matchClause_found d label identifier i h]
  | none => rw [matchClause_absent h]; rfl

section Append

variable {d : Draft} (hd : d.Numbered) {key : String} {i : Nat}
  (hi : Entries.find? d.nodes key = some i) (fragment : String)

include hd hi

theorem texts_append : (d.append i fragment).texts =
    Entries.put d.texts key (d.clause i ++ fragment) := by
  have hlt := hd.lt_of_nodes i (Entries.mem_values_of_find? hi)
  rw [← clause_append d hlt fragment]
  exact Entries.mapValues_of_update hd.nodes hi fun j hj => clause_append_of_ne d hj fragment

theorem links_append : (d.append i fragment).links = d.links := by
  apply Entries.mapValues_congr
  intro j hj
  apply clause_append_of_ne
  rintro rfl
  exact hd.apart j (Entries.mem_values_of_find? hi) hj

omit hi in
theorem numbered_append (i : Nat) : (d.append i fragment).Numbered := by
  have hlen : (d.append i fragment).clauses.length = d.clauses.length := by simp [append]
  refine ⟨hd.nodes, hd.relationships, hd.apart, ?_, ?_⟩
  · intro j hj
    rw [hlen]
    exact hd.lt_of_nodes j hj
  · intro j hj
    rw [hlen]
    exact hd.lt_of_relationships j hj

end Append

end CypherLink.Draft
