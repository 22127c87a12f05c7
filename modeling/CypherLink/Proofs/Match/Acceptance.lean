import CypherLink.Match.Compose
import CypherLink.Proofs.Match.Numbering
import CypherLink.Proofs.Outcome

/-!
Acceptance: what must hold of the filters of a chain that is composed. Main statements:
`addFilter_passes`, what one filter must satisfy where it stands, and `accepted_of_compose`, what
follows for the whole chain.
-/

namespace CypherLink

namespace Filter

/-- Whether the filter constrains a relationship itself. -/
def onRelationship (f : Filter) : Bool :=
  match f.subject with
  | .relationship _ _ _ => true
  | _ => false

end Filter

namespace Composed

/-- What a filter satisfies that is taken at a position, after a filter on a relationship or
before. -/
structure Passes (root : String) (position : Nat) (bound : Bool) (f : Filter) : Prop where
  connective : f.connective = .none ↔ position = 0
  specified : f.subject ≠ .unspecified
  conjoined : f.isNested = true → f.connective ≠ .or
  foreign : ∀ via label type direction, f.subject = .node via label type direction → label ≠ root
  alone : bound = true → f.onRelationship = false
  bindings : ∃ new, f.parameters position = .ok new

/-- A chain whose filters pass one after the other. -/
inductive Accepted (root : String) : Nat → Bool → List Filter → Prop where
  | nil {position : Nat} {bound : Bool} : Accepted root position bound []
  | cons {position : Nat} {bound : Bool} {f : Filter} {fs : List Filter} :
      Passes root position bound f →
        Accepted root (position + 1) (bound || f.onRelationship) fs →
          Accepted root position bound (f :: fs)

theorem checkConnective_ok {f : Filter} {position : Nat}
    (h : checkConnective f position = .ok ()) : f.connective = .none ↔ position = 0 := by
  unfold checkConnective at h
  split at h
  · split at h <;> simp_all
  · split at h <;> simp_all

section Target

variable {root : String} {f : Filter} {sequence : Nat} {d d' : Draft} {i : Nat} {identifier : String}
  (h : target root f sequence d = .ok (d', i, identifier))

include h

theorem target_root (hf : f.subject = .root) :
    d.matchClause root Clause.rootIdentifier = (d', i) ∧ identifier = Clause.rootIdentifier := by
  simp only [target, hf, Except.ok.injEq, Prod.mk.injEq] at h
  obtain ⟨h1, h2, h3⟩ := h
  exact ⟨Prod.ext h1 h2, h3.symm⟩

theorem target_relationship {via type : String} {direction : Direction}
    (hf : f.subject = .relationship via type direction) :
    f.connective ≠ .or ∧ d.bound = false ∧ identifier = Clause.relationshipIdentifier ∧
      { d with bound := true }.putMatch type
        (Clause.relationship type direction (farIdentifier sequence) true) = (d', i) := by
  simp only [target, hf] at h
  split at h
  · cases h
  · split at h
    · cases h
    · simp only [Except.ok.injEq, Prod.mk.injEq] at h
      obtain ⟨h1, h2, h3⟩ := h
      exact ⟨‹_›, by simpa using ‹¬ d.bound = true›, h3.symm, Prod.ext h1 h2⟩

theorem target_node {via label type : String} {direction : Direction}
    (hf : f.subject = .node via label type direction) :
    f.connective ≠ .or ∧ label ≠ root ∧
      ((Entries.find? d.identifiers label = some identifier ∧
          d.matchClause label identifier = (d', i)) ∨
        (Entries.find? d.identifiers label = none ∧ identifier = farIdentifier sequence ∧
          ({ d with identifiers := Entries.put d.identifiers label identifier }.putRelationship
            label type (Clause.relationship type direction identifier false)).1.matchClause
              label identifier = (d', i))) := by
  simp only [target, hf] at h
  split at h
  · cases h
  · split at h
    · cases h
    · simp only [Except.ok.injEq, Prod.mk.injEq] at h
      obtain ⟨h1, h2, h3⟩ := h
      refine ⟨‹_›, ‹_›, ?_⟩
      cases hi : Entries.find? d.identifiers label with
      | some known =>
        simp only [hi] at h1 h2 h3
        subst h3
        exact .inl ⟨rfl, Prod.ext h1 h2⟩
      | none =>
        simp only [hi] at h1 h2 h3
        subst h3
        exact .inr ⟨rfl, rfl, Prod.ext h1 h2⟩

theorem target_specified : f.subject ≠ .unspecified := by
  intro hf
  simp [target, hf] at h

theorem bound_of_target : d'.bound = (d.bound || f.onRelationship) := by
  cases hf : f.subject with
  | root =>
    have hd := congrArg (fun r => r.1.bound) (target_root h hf).1
    simpa [Filter.onRelationship, hf, Draft.bound_matchClause] using hd.symm
  | node via label type direction =>
    obtain ⟨-, -, ⟨-, hd⟩ | ⟨-, -, hd⟩⟩ := target_node h hf
    · have hd := congrArg (fun r => r.1.bound) hd
      simpa [Filter.onRelationship, hf, Draft.bound_matchClause] using hd.symm
    · have hd := congrArg (fun r => r.1.bound) hd
      simpa [Filter.onRelationship, hf, Draft.bound_matchClause, Draft.putRelationship,
        Draft.make] using hd.symm
  | relationship via type direction =>
    obtain ⟨-, -, -, hd⟩ := target_relationship h hf
    have hd := congrArg (fun r => r.1.bound) hd
    simpa [Filter.onRelationship, hf, Draft.putMatch, Draft.make] using hd.symm
  | unspecified => exact absurd hf (target_specified h)

theorem parameters_of_target : d'.parameters = d.parameters := by
  cases hf : f.subject with
  | root =>
    have hd := congrArg (fun r => r.1.parameters) (target_root h hf).1
    simpa [Draft.parameters_matchClause] using hd.symm
  | node via label type direction =>
    obtain ⟨-, -, ⟨-, hd⟩ | ⟨-, -, hd⟩⟩ := target_node h hf
    · have hd := congrArg (fun r => r.1.parameters) hd
      simpa [Draft.parameters_matchClause] using hd.symm
    · have hd := congrArg (fun r => r.1.parameters) hd
      simpa [Draft.parameters_matchClause, Draft.putRelationship, Draft.make] using hd.symm
  | relationship via type direction =>
    obtain ⟨-, -, -, hd⟩ := target_relationship h hf
    have hd := congrArg (fun r => r.1.parameters) hd
    simpa [Draft.putMatch, Draft.make] using hd.symm
  | unspecified => exact absurd hf (target_specified h)

end Target

theorem addFilter_ok {root : String} {position sequence : Nat} {d d' : Draft} {f : Filter}
    (h : addFilter root position sequence d f = .ok d') :
    ∃ d₁ i identifier new, checkConnective f position = .ok () ∧
      target root f sequence d = .ok (d₁, i, identifier) ∧ f.parameters position = .ok new ∧
      d' = { d₁.append i (f.render identifier (!(d₁.clause i).hasWhere) position) with
        parameters := Entries.putAll d₁.parameters new } := by
  unfold addFilter at h
  obtain ⟨_, hc, h⟩ := Outcome.bind_eq_ok.mp h
  obtain ⟨⟨d₁, i, identifier⟩, ht, h⟩ := Outcome.bind_eq_ok.mp h
  obtain ⟨new, hn, h⟩ := Outcome.bind_eq_ok.mp h
  rw [Outcome.mapError_eq_ok] at hn
  exact ⟨d₁, i, identifier, new, hc, ht, hn, (Outcome.pure_eq_ok.mp h).symm⟩

theorem addFilter_passes {root : String} {position sequence : Nat} {d d' : Draft} {f : Filter}
    (h : addFilter root position sequence d f = .ok d') :
    Passes root position d.bound f ∧ d'.bound = (d.bound || f.onRelationship) := by
  obtain ⟨d₁, i, identifier, new, hc, ht, hn, rfl⟩ := addFilter_ok h
  have hbound : d₁.bound = (d.bound || f.onRelationship) := bound_of_target ht
  refine ⟨?_, hbound⟩
  refine ⟨checkConnective_ok hc, target_specified ht, ?_, ?_, ?_, new, hn⟩
  · intro hf
    cases hs : f.subject with
    | root => simp [Filter.isNested, hs, Subject.via?] at hf
    | node via label type direction => exact (target_node ht hs).1
    | relationship via type direction => exact (target_relationship ht hs).1
    | unspecified => exact absurd hs (target_specified ht)
  · intro via label type direction hs
    exact (target_node ht hs).2.1
  · intro hb
    cases hs : f.subject with
    | relationship via type direction =>
      have := (target_relationship ht hs).2.1
      simp [hb] at this
    | _ => simp [Filter.onRelationship, hs]

theorem accepted_of_addFilters {root : String} {position sequence : Nat} {d d' : Draft}
    {fs : List Filter} (h : addFilters root position sequence d fs = .ok d') :
    Accepted root position d.bound fs := by
  induction fs generalizing position sequence d with
  | nil => exact .nil
  | cons f fs ih =>
    unfold addFilters at h
    obtain ⟨d₁, hf, hfs⟩ := Outcome.bind_eq_ok.mp h
    obtain ⟨hp, hb⟩ := addFilter_passes hf
    refine .cons hp ?_
    rw [← hb]
    exact ih hfs

theorem compose_ok {root : String} {fs : List Filter} {c : Composed}
    (h : compose root fs = .ok c) :
    ∃ d, addFilters root 0 0 (start root) fs = .ok d ∧ c = ⟨d.render, d.parameters⟩ := by
  unfold compose at h
  obtain ⟨d, hd, hc⟩ := Outcome.bind_eq_ok.mp h
  exact ⟨d, hd, (Outcome.pure_eq_ok.mp hc).symm⟩

theorem accepted_of_compose {root : String} {fs : List Filter} {c : Composed}
    (h : compose root fs = .ok c) : Accepted root 0 false fs := by
  obtain ⟨d, hd, -⟩ := compose_ok h
  exact accepted_of_addFilters hd

namespace Accepted

variable {root : String} {position : Nat} {bound : Bool} {fs : List Filter}

theorem passes (h : Accepted root position bound fs) {i : Nat} {f : Filter}
    (hf : fs[i]? = some f) : ∃ b, Passes root (position + i) b f := by
  induction h generalizing i with
  | nil => simp at hf
  | @cons position bound g gs hg hgs ih =>
    cases i with
    | zero =>
      obtain rfl : g = f := by simpa using hf
      exact ⟨bound, hg⟩
    | succ i =>
      obtain ⟨b, hb⟩ := ih (by simpa using hf)
      exact ⟨b, by rwa [show position + (i + 1) = position + 1 + i by omega]⟩

theorem conjoined (h : Accepted root position bound fs) {f : Filter} (hf : f ∈ fs)
    (hn : f.isNested = true) : f.connective ≠ .or := by
  obtain ⟨i, hi⟩ := List.getElem?_of_mem hf
  obtain ⟨b, hb⟩ := h.passes hi
  exact hb.conjoined hn

theorem foreign (h : Accepted root position bound fs) {f : Filter} (hf : f ∈ fs)
    {via label type : String} {direction : Direction}
    (hs : f.subject = .node via label type direction) : label ≠ root := by
  obtain ⟨i, hi⟩ := List.getElem?_of_mem hf
  obtain ⟨b, hb⟩ := h.passes hi
  exact hb.foreign via label type direction hs

theorem not_onRelationship (h : Accepted root position bound fs) (hb : bound = true) :
    ∀ f ∈ fs, f.onRelationship = false := by
  induction h with
  | nil => simp
  | @cons position bound g gs hg hgs ih =>
    intro f hf
    rcases List.mem_cons.mp hf with rfl | hf
    · exact hg.alone hb
    · exact ih (by simp [hb]) f hf

theorem alone (h : Accepted root position bound fs) :
    fs.Pairwise fun f g => f.onRelationship = true → g.onRelationship = false := by
  induction h with
  | nil => exact .nil
  | @cons position bound g gs hg hgs ih =>
    refine .cons ?_ ih
    intro f hf hr
    exact hgs.not_onRelationship (by simp [hr]) f hf

end Accepted

end Composed

end CypherLink
