import CypherLink.Proofs.Match.Acceptance

/-!
Refusal: which chains of filters are not composed, and for which fault. Each fault has its own
condition on the filter and on what stands before it; of several faults of one filter the one that
is looked for first is reported. Main statements: `addFilter_eq_error_iff`,
`addFilters_eq_error_iff` and `compose_refuses_first`.
-/

namespace CypherLink

/-- Only the distance from a point can be measured. -/
def Filter.Pointed (f : Filter) : Prop := f.measure = .distance → f.value.kind = .point

theorem Filter.exists_parameters_iff (f : Filter) (position : Nat) :
    (∃ new, f.parameters position = .ok new) ↔ f.Pointed := by
  unfold parameters bindings Pointed
  cases f.measure with
  | property => exact ⟨nofun, fun _ => ⟨_, rfl⟩⟩
  | distance => cases f.value <;> simp [Value.kind]

theorem Filter.parameters_eq_error {f : Filter} {position : Nat} {e : NotAPoint}
    (h : f.parameters position = .error e) :
    f.measure = .distance ∧ f.value.kind ≠ .point ∧ e = ⟨f.value.kind⟩ := by
  unfold parameters bindings at h
  cases hm : f.measure with
  | property => simp [hm] at h
  | distance => cases hv : f.value <;> simp_all [Value.kind]

namespace Composed

/-- A fault of a filter that stands behind others in a chain. -/
inductive Offence (root : String) (before : List Filter) (f : Filter) :
    CompositionError → Prop where
  | misplaced : before = [] → f.connective ≠ .none →
      Offence root before f (.misplaced f.property f.connective)
  | missing : before ≠ [] → f.connective = .none → Offence root before f (.missing f.property)
  | alternative : f.isNested = true → f.connective = .or →
      Offence root before f (.alternative f.property)
  | second : f.onRelationship = true → (∃ g ∈ before, g.onRelationship = true) →
      Offence root before f (.secondRelationship f.property)
  | self (via type : String) (direction : Direction) : f.subject = .node via root type direction →
      Offence root before f (.selfReference root f.property)
  | shapeless : f.subject = .unspecified → Offence root before f (.unknownShape f.subject.title)
  | pointless : f.measure = .distance → f.value.kind ≠ .point →
      Offence root before f (.notAPoint ⟨f.value.kind⟩)

end Composed

/-- The place of a fault in the order in which the faults of one filter are looked for. -/
def CompositionError.rank : CompositionError → Nat
  | .misplaced _ _ | .missing _ => 0
  | .alternative _ => 1
  | .secondRelationship _ | .selfReference _ _ => 2
  | .unknownShape _ => 3
  | .notAPoint _ => 4
  | .noLabel => 5

namespace Composed

/-- The fault that is reported of a filter: the first one that is found. -/
structure Blamed (root : String) (before : List Filter) (f : Filter) (e : CompositionError) :
    Prop where
  offence : Offence root before f e
  first : ∀ e', Offence root before f e' → e.rank ≤ e'.rank

/-- What a chain has to satisfy to be composed. -/
structure Acceptable (root : String) (fs : List Filter) : Prop where
  first : ∀ f, fs.head? = some f → f.connective = .none
  later : ∀ f ∈ fs.tail, f.connective = .and ∨ f.connective = .or
  specified : ∀ f ∈ fs, f.subject ≠ .unspecified
  conjoined : ∀ f ∈ fs, f.isNested = true → f.connective ≠ .or
  foreign : ∀ f ∈ fs, ∀ via label type direction,
    f.subject = .node via label type direction → label ≠ root
  alone : fs.countP Filter.onRelationship ≤ 1
  pointed : ∀ f ∈ fs, f.Pointed

section Filter

variable {root : String} {before : List Filter} {f : Filter} {e e' : CompositionError}
  {sequence : Nat} {d : Draft}

theorem Offence.eq_of_rank_eq (h : Offence root before f e) (h' : Offence root before f e')
    (hr : e.rank = e'.rank) : e = e' := by
  cases h with
  | misplaced hb hc => cases h' with
    | misplaced => rfl
    | missing hb' => exact absurd hb hb'
    | _ => simp [CompositionError.rank] at hr
  | missing hb hc => cases h' with
    | missing => rfl
    | misplaced hb' => exact absurd hb' hb
    | _ => simp [CompositionError.rank] at hr
  | alternative => cases h' with
    | alternative => rfl
    | _ => simp [CompositionError.rank] at hr
  | second hf => cases h' with
    | second => rfl
    | self via type direction hs => simp [Filter.onRelationship, hs] at hf
    | _ => simp [CompositionError.rank] at hr
  | self via type direction hs => cases h' with
    | second hf => simp [Filter.onRelationship, hs] at hf
    | self => rfl
    | _ => simp [CompositionError.rank] at hr
  | shapeless => cases h' with
    | shapeless => rfl
    | _ => simp [CompositionError.rank] at hr
  | pointless => cases h' with
    | pointless => rfl
    | _ => simp [CompositionError.rank] at hr

theorem Blamed.unique (h : Blamed root before f e) (h' : Blamed root before f e') : e = e' :=
  h.offence.eq_of_rank_eq h'.offence
    (Nat.le_antisymm (h.first e' h'.offence) (h'.first e h.offence))

/-- An error that concerns the chain names the property of its filter. -/
theorem Offence.property (h : Offence root before f e) :
    e.property? = if e.rank < 3 then some f.property else none := by
  cases h <;> rfl

theorem passes_iff : Passes root before.length (before.any Filter.onRelationship) f ↔
    ∀ e, ¬ Offence root before f e := by
  constructor
  · intro h e he
    cases he with
    | misplaced hb hc => exact hc (h.connective.mpr (by rw [hb]; rfl))
    | missing hb hc => exact hb (List.length_eq_zero_iff.mp (h.connective.mp hc))
    | alternative hf hc => exact h.conjoined hf hc
    | second hf hg =>
      have hnone := h.alone (by simpa using hg)
      rw [hf] at hnone
      exact nomatch hnone
    | self via type direction hs => exact h.foreign via root type direction hs rfl
    | shapeless hs => exact h.specified hs
    | pointless hm hv => exact hv ((f.exists_parameters_iff _).mp h.bindings hm)
  · intro h
    refine ⟨⟨?_, ?_⟩, fun hs => h _ (.shapeless hs), fun hf hc => h _ (.alternative hf hc),
      ?_, ?_, ?_⟩
    · intro hc
      refine Decidable.byContradiction fun hb => h _ (.missing (fun he => hb ?_) hc)
      rw [he]
      rfl
    · intro hb
      have he : before = [] := List.length_eq_zero_iff.mp hb
      exact Decidable.byContradiction fun hc => h _ (.misplaced he hc)
    · rintro via label type direction hs rfl
      exact h _ (.self via type direction hs)
    · intro hb
      exact Bool.eq_false_iff.mpr fun hf => h _ (.second hf (by simpa using hb))
    · refine (f.exists_parameters_iff _).mpr fun hm => ?_
      exact Decidable.byContradiction fun hv => h _ (.pointless hm hv)

theorem checkConnective_eq_error (h : checkConnective f before.length = .error e) :
    Blamed root before f e := by
  unfold checkConnective at h
  split at h
  · next hb =>
    split at h
    · exact nomatch h
    · next hc =>
      obtain rfl := Except.error.inj h
      exact ⟨.misplaced (List.length_eq_zero_iff.mp hb) hc, fun e' _ => Nat.zero_le _⟩
  · next hb =>
    split at h
    · next hc =>
      obtain rfl := Except.error.inj h
      refine ⟨.missing (fun he => hb ?_) hc, fun e' _ => Nat.zero_le _⟩
      rw [he]
      rfl
    · exact nomatch h

/-- With its connective in place, a filter has no fault of the first rank. -/
theorem rank_pos (hc : checkConnective f before.length = .ok ()) (he : Offence root before f e) :
    1 ≤ e.rank := by
  have hiff := checkConnective_ok hc
  cases he with
  | misplaced hb hn => exact absurd (hiff.mpr (by rw [hb]; rfl)) hn
  | missing hb hn => exact absurd (List.length_eq_zero_iff.mp (hiff.mp hn)) hb
  | _ => simp [CompositionError.rank]

theorem target_eq_error (hb : d.bound = before.any Filter.onRelationship)
    (hc : checkConnective f before.length = .ok ()) (h : target root f sequence d = .error e) :
    Blamed root before f e := by
  have hpos : ∀ e', Offence root before f e' → 1 ≤ e'.rank := fun e' => rank_pos hc
  cases hs : f.subject with
  | root => simp [target, hs] at h
  | unspecified =>
    rw [target, hs] at h
    obtain rfl := Except.error.inj h
    refine ⟨hs ▸ .shapeless hs, fun e' he' => ?_⟩
    have hrank := hpos e' he'
    cases he' with
    | alternative hf => simp [Filter.isNested, hs, Subject.via?] at hf
    | second hf => simp [Filter.onRelationship, hs] at hf
    | self via type direction hs' => simp [hs] at hs'
    | _ => simp_all [CompositionError.rank]
  | relationship via type direction =>
    simp only [target, hs] at h
    split at h
    · next hor =>
      obtain rfl := Except.error.inj h
      exact ⟨.alternative (by simp [Filter.isNested, hs, Subject.via?]) hor, hpos⟩
    · next hor =>
      split at h
      · next hbound =>
        obtain rfl := Except.error.inj h
        have hf : f.onRelationship = true := by simp [Filter.onRelationship, hs]
        refine ⟨.second hf (by simpa [hb] using hbound), fun e' he' => ?_⟩
        have hrank := hpos e' he'
        cases he' with
        | alternative _ hor' => exact absurd hor' hor
        | _ => simp_all [CompositionError.rank]
      · cases h
  | node via label type direction =>
    simp only [target, hs] at h
    split at h
    · next hor =>
      obtain rfl := Except.error.inj h
      exact ⟨.alternative (by simp [Filter.isNested, hs, Subject.via?]) hor, hpos⟩
    · next hor =>
      split at h
      · next hlabel =>
        subst hlabel
        obtain rfl := Except.error.inj h
        refine ⟨.self via type direction hs, fun e' he' => ?_⟩
        have hrank := hpos e' he'
        cases he' with
        | alternative _ hor' => exact absurd hor' hor
        | _ => simp_all [CompositionError.rank]
      · cases h

/-- A filter with a clause to stand in has at most the fault of the last rank. -/
theorem rank_of_target {d' : Draft} {i : Nat} {identifier : String}
    (hb : d.bound = before.any Filter.onRelationship)
    (hc : checkConnective f before.length = .ok ())
    (h : target root f sequence d = .ok (d', i, identifier)) (he : Offence root before f e) :
    4 ≤ e.rank := by
  have hpos := rank_pos hc he
  cases he with
  | misplaced | missing => simp [CompositionError.rank] at hpos
  | alternative hf hor =>
    cases hs : f.subject with
    | node via label type direction => exact absurd hor (target_node h hs).1
    | relationship via type direction => exact absurd hor (target_relationship h hs).1
    | _ => simp [Filter.isNested, hs, Subject.via?] at hf
  | second hf hg =>
    cases hs : f.subject with
    | relationship via type direction =>
      have hfree := (target_relationship h hs).2.1
      rw [hb, List.any_eq_false] at hfree
      obtain ⟨g, hg, hr⟩ := hg
      exact absurd hr (hfree g hg)
    | _ => simp [Filter.onRelationship, hs] at hf
  | self via type direction hs => exact absurd rfl (target_node h hs).2.1
  | shapeless hs => exact absurd hs (target_specified h)
  | pointless => exact Nat.le_refl 4

theorem blamed_of_addFilter (hb : d.bound = before.any Filter.onRelationship)
    (h : addFilter root before.length sequence d f = .error e) : Blamed root before f e := by
  unfold addFilter at h
  obtain h | ⟨_, hc, h⟩ := Outcome.bind_eq_error.mp h
  · exact checkConnective_eq_error h
  obtain h | ⟨⟨d₁, i, identifier⟩, ht, h⟩ := Outcome.bind_eq_error.mp h
  · exact target_eq_error hb hc h
  obtain h | ⟨new, -, h⟩ := Outcome.bind_eq_error.mp h
  · obtain ⟨e, hp, rfl⟩ := Outcome.mapError_eq_error.mp h
    obtain ⟨hm, hv, rfl⟩ := Filter.parameters_eq_error hp
    exact ⟨.pointless hm hv, fun e' => rank_of_target hb hc ht⟩
  · exact nomatch h

theorem addFilter_eq_error_iff (hb : d.bound = before.any Filter.onRelationship) :
    addFilter root before.length sequence d f = .error e ↔ Blamed root before f e := by
  refine ⟨blamed_of_addFilter hb, fun h => ?_⟩
  cases ha : addFilter root before.length sequence d f with
  | error e' => rw [(blamed_of_addFilter hb ha).unique h]
  | ok d' =>
    have hpass := (addFilter_passes ha).1
    rw [hb] at hpass
    exact absurd h.offence (passes_iff.mp hpass e)

end Filter

section Chain

variable {root : String} {before fs : List Filter} {e : CompositionError} {sequence : Nat}
  {d : Draft}

theorem exists_addFilter {f : Filter} (hb : d.bound = before.any Filter.onRelationship)
    (h : Passes root before.length (before.any Filter.onRelationship) f) :
    ∃ d', addFilter root before.length sequence d f = .ok d' := by
  cases ha : addFilter root before.length sequence d f with
  | error e => exact absurd (blamed_of_addFilter hb ha).offence (passes_iff.mp h e)
  | ok d' => exact ⟨d', rfl⟩

/-- The filters before the one at fault pass, whatever follows it. -/
theorem addFilters_eq_error_iff (hb : d.bound = before.any Filter.onRelationship) :
    addFilters root before.length sequence d fs = .error e ↔
      ∃ mid f after, fs = mid ++ f :: after ∧
        Accepted root before.length (before.any Filter.onRelationship) mid ∧
        Blamed root (before ++ mid) f e := by
  induction fs generalizing before sequence d with
  | nil =>
    refine ⟨nofun, ?_⟩
    rintro ⟨mid, f, after, h, -⟩
    cases mid <;> exact nomatch h
  | cons f fs ih =>
    have hlength : (before ++ [f]).length = before.length + 1 := List.length_append
    have hany : (before ++ [f]).any Filter.onRelationship =
        (before.any Filter.onRelationship || f.onRelationship) := by
      rw [List.any_append, List.any_cons, List.any_nil, Bool.or_false]
    have hnext : ∀ d', addFilter root before.length sequence d f = .ok d' →
        d'.bound = (before ++ [f]).any Filter.onRelationship := by
      intro d' hd
      rw [(addFilter_passes hd).2, hb, hany]
    rw [addFilters, Outcome.bind_eq_error]
    constructor
    · rintro (h | ⟨d', hd, h⟩)
      · exact ⟨[], f, fs, rfl, .nil, by rwa [List.append_nil, ← addFilter_eq_error_iff hb]⟩
      · rw [← hlength, ih (hnext d' hd)] at h
        obtain ⟨mid, g, after, rfl, hmid, hg⟩ := h
        rw [hlength, hany] at hmid
        have hpass := (addFilter_passes hd).1
        rw [hb] at hpass
        exact ⟨f :: mid, g, after, rfl, .cons hpass hmid, by rwa [List.append_cons]⟩
    · rintro ⟨mid, g, after, hfs, hmid, hg⟩
      cases hmid with
      | nil =>
        obtain ⟨rfl, rfl⟩ := List.cons.inj hfs
        rw [List.append_nil] at hg
        exact .inl ((addFilter_eq_error_iff hb).mpr hg)
      | @cons _ _ f' mid hpass hmid =>
        obtain ⟨rfl, rfl⟩ := List.cons.inj hfs
        obtain ⟨d', hd⟩ : ∃ d', addFilter root before.length sequence d f = .ok d' :=
          exists_addFilter hb hpass
        refine .inr ⟨d', hd, ?_⟩
        rw [← hlength, ih (hnext d' hd), hlength, hany]
        exact ⟨mid, g, after, rfl, hmid, by rwa [← List.append_cons]⟩

theorem Accepted.passes_behind {position : Nat} {bound : Bool} {f : Filter} {after : List Filter}
    (h : Accepted root position bound (before ++ f :: after)) :
    Passes root (position + before.length) (bound || before.any Filter.onRelationship) f := by
  induction before generalizing position bound with
  | nil =>
    obtain ⟨_⟩ | ⟨hf, -⟩ := h
    simpa using hf
  | cons g before ih =>
    obtain ⟨_⟩ | ⟨-, h⟩ := h
    have hf := ih h
    rwa [Nat.add_right_comm, Nat.add_assoc, ← List.length_cons, Bool.or_assoc,
      ← List.any_cons] at hf

/-- Of a filter and those behind it, one is on a relationship, and none if one before them is. -/
theorem alone_cons_iff {n : Nat} {bound onRelationship : Bool} :
    n + (if onRelationship = true then 1 else 0) + bound.toNat ≤ 1 ↔
      (bound = true → onRelationship = false) ∧ n + (bound || onRelationship).toNat ≤ 1 := by
  cases bound <;> cases onRelationship <;> simp

/-- Behind that many filters, of which one may be on a relationship. -/
theorem accepted_iff {position : Nat} {bound : Bool} : Accepted root position bound fs ↔
    (∀ i f, fs[i]? = some f → (f.connective = .none ↔ position + i = 0)) ∧
      (∀ f ∈ fs, f.subject ≠ .unspecified ∧ (f.isNested = true → f.connective ≠ .or) ∧
        (∀ via label type direction, f.subject = .node via label type direction → label ≠ root) ∧
        f.Pointed) ∧
      fs.countP Filter.onRelationship + bound.toNat ≤ 1 := by
  induction fs generalizing position bound with
  | nil =>
    have hcount : ([] : List Filter).countP Filter.onRelationship + bound.toNat ≤ 1 := by
      rw [List.countP_nil, Nat.zero_add]
      exact bound.toNat_le
    refine iff_of_true .nil ⟨fun i f hf => ?_, fun f hf => absurd hf List.not_mem_nil, hcount⟩
    rw [List.getElem?_nil] at hf
    exact nomatch hf
  | cons f fs ih =>
    constructor
    · intro h
      obtain ⟨_⟩ | ⟨hf, hfs⟩ := h
      obtain ⟨hconnective, hall, hcount⟩ := ih.mp hfs
      refine ⟨?_, ?_, ?_⟩
      · intro i g hg
        cases i with
        | zero =>
          obtain rfl := Option.some.inj hg
          exact hf.connective
        | succ i =>
          rw [hconnective i g hg]
          omega
      · refine List.forall_mem_cons.mpr ⟨⟨hf.specified, hf.conjoined, hf.foreign, ?_⟩, hall⟩
        exact (f.exists_parameters_iff position).mp hf.bindings
      · rw [List.countP_cons]
        exact alone_cons_iff.mpr ⟨hf.alone, hcount⟩
    · rintro ⟨hconnective, hall, hcount⟩
      obtain ⟨⟨hspecified, hconjoined, hforeign, hpointed⟩, hall⟩ := List.forall_mem_cons.mp hall
      rw [List.countP_cons] at hcount
      obtain ⟨halone, hcount⟩ := alone_cons_iff.mp hcount
      refine .cons ⟨hconnective 0 f rfl, hspecified, hconjoined, hforeign, halone, ?_⟩
        (ih.mpr ⟨fun i g hg => ?_, hall, hcount⟩)
      · exact (f.exists_parameters_iff position).mpr hpointed
      · rw [hconnective (i + 1) g hg]
        omega

theorem accepted_iff_acceptable : Accepted root 0 false fs ↔ Acceptable root fs := by
  rw [accepted_iff]
  constructor
  · rintro ⟨hconnective, hall, hcount⟩
    refine ⟨fun f hf => ?_, fun f hf => ?_, fun f hf => (hall f hf).1,
      fun f hf => (hall f hf).2.1, fun f hf => (hall f hf).2.2.1, hcount,
      fun f hf => (hall f hf).2.2.2⟩
    · exact (hconnective 0 f (List.head?_eq_getElem? ▸ hf)).mpr rfl
    · obtain ⟨i, hi⟩ := List.getElem?_of_mem hf
      rw [List.getElem?_tail] at hi
      have hnone : f.connective ≠ .none := fun hc => by
        have hzero := (hconnective (i + 1) f hi).mp hc
        omega
      cases hc : f.connective with
      | none => exact absurd hc hnone
      | and => exact .inl rfl
      | or => exact .inr rfl
  · intro h
    refine ⟨fun i f hf => ?_, fun f hf => ⟨h.specified f hf, h.conjoined f hf, h.foreign f hf,
      h.pointed f hf⟩, h.alone⟩
    cases i with
    | zero => exact iff_of_true (h.first f (List.head?_eq_getElem? ▸ hf)) rfl
    | succ i =>
      have hlater := h.later f (List.mem_of_getElem? (List.getElem?_tail ▸ hf))
      refine iff_of_false (fun hc => ?_) (by omega)
      rw [hc] at hlater
      simp at hlater

end Chain

/-- A chain is composed exactly if it is acceptable. If it is not, its filters are acceptable up to
the first one that has a fault where it stands, and the reported error is the first fault of that
one, with its property if the error concerns the chain; whatever follows plays no part. -/
theorem compose_refuses_first (root : String) (fs : List Filter) :
    ((∃ c, compose root fs = .ok c) ↔ Acceptable root fs) ∧
      (∀ e, compose root fs = .error e ↔ ∃ before f after, fs = before ++ f :: after ∧
        Acceptable root before ∧ Blamed root before f e) ∧
      (∀ before f e, Blamed root before f e →
        e.property? = if e.rank < 3 then some f.property else none) ∧
      ∀ e, compose root fs = .error e → ∀ more, compose root (fs ++ more) = .error e := by
  have herror : ∀ fs e, compose root fs = .error e ↔ ∃ before f after, fs = before ++ f :: after ∧
      Acceptable root before ∧ Blamed root before f e := by
    intro fs e
    have hstart : (start root).bound = ([] : List Filter).any Filter.onRelationship := rfl
    have hrun : addFilters root 0 0 (start root) fs = .error e ↔ ∃ before f after,
        fs = before ++ f :: after ∧ Accepted root 0 false before ∧ Blamed root before f e :=
      addFilters_eq_error_iff hstart
    simp only [accepted_iff_acceptable] at hrun
    rw [← hrun, compose, Outcome.bind_eq_error]
    refine ⟨fun h => h.resolve_right ?_, .inl⟩
    rintro ⟨_, -, h⟩
    cases h
  refine ⟨⟨?_, fun h => ?_⟩, herror fs, fun before f e h => h.offence.property, ?_⟩
  · rintro ⟨c, hc⟩
    exact accepted_iff_acceptable.mp (accepted_of_compose hc)
  · cases hc : compose root fs with
    | ok c => exact ⟨c, rfl⟩
    | error e =>
      obtain ⟨before, f, after, rfl, -, hf⟩ := (herror fs e).mp hc
      have hpass := (accepted_iff_acceptable.mpr h).passes_behind
      rw [Nat.zero_add, Bool.false_or] at hpass
      exact absurd hf.offence (passes_iff.mp hpass e)
  · intro e he more
    obtain ⟨before, f, after, rfl, hbefore, hf⟩ := (herror fs e).mp he
    refine (herror _ e).mpr ⟨before, f, after ++ more, ?_, hbefore, hf⟩
    rw [List.append_assoc, List.cons_append]

def adult : Filter :=
  { property := "age", value := .int 30, comparison := .greater, connective := .none,
    negated := false, measure := .property, subject := .root }

/-- Behind another filter it has three faults: it is an alternative, it leads back to the root
label, and it measures the distance from a number. -/
def neighbour : Filter :=
  { property := "home", value := .int 3, comparison := .less, connective := .or,
    negated := false, measure := .distance, subject := .node "friends" "Person" "KNOWS" .outgoing }

theorem compose_refuses_neighbour :
    Offence "Person" [adult] neighbour (.selfReference "Person" "home") ∧
      Offence "Person" [adult] neighbour (.notAPoint ⟨.int⟩) ∧
      ∀ more, compose "Person" ([adult, neighbour] ++ more) = .error (.alternative "home") := by
  obtain ⟨-, herror, -, hmore⟩ := compose_refuses_first "Person" [adult, neighbour]
  have hadult : Acceptable "Person" [adult] :=
    accepted_iff_acceptable.mp (.cons ⟨by decide, nofun, nofun, nofun, nofun, _, rfl⟩ .nil)
  have hblamed : Blamed "Person" [adult] neighbour (.alternative "home") :=
    ⟨.alternative rfl rfl, fun _ => rank_pos rfl⟩
  exact ⟨.self "friends" "KNOWS" .outgoing rfl, .pointless rfl nofun,
    hmore _ ((herror _).mpr ⟨[adult], neighbour, [], rfl, hadult, hblamed⟩)⟩

end Composed

end CypherLink
