import CypherLink.Proofs.Match.Refusal
import CypherLink.Proofs.Session.Reading
import CypherLink.Proofs.Statement.Parameter

/-!
Redaction: a query without its values. What a query becomes commutes with leaving its values out, so
its statement and the names of its parameters are those of any other query that differs from it only
in values. Main statements: `addFilters_redacted`, `request_redacted` and `values_stay_out`.
-/

namespace CypherLink

open Composed (compose)
open Entries (keys mapValues putAll)

/-- The names that parameters have, without their values. -/
def redactedValues (m : Entries String Value) : Entries String Value := mapValues (fun _ => .null) m

theorem keys_eq_of_redactedValues {m n : Entries String Value}
    (h : redactedValues m = redactedValues n) : keys m = keys n := by
  have hkeys := congrArg keys h
  rwa [redactedValues, redactedValues, Entries.keys_mapValues, Entries.keys_mapValues] at hkeys

theorem putAll_redactedValues (m new : Entries String Value) :
    putAll (redactedValues m) (redactedValues new) = redactedValues (putAll m new) := by
  induction new generalizing m with
  | nil => rfl
  | cons e new ih =>
    have hput : Entries.put (redactedValues m) e.1 .null = redactedValues (Entries.put m e.1 e.2) :=
      Entries.put_mapValues _ m e.1 e.2
    change putAll (Entries.put (redactedValues m) e.1 .null) (redactedValues new) = _
    rw [hput]
    exact ih (Entries.put m e.1 e.2)

namespace Filter

/-- The filter without its value: nothing is left of it but that it is a point, where a distance is
measured. -/
def redacted (f : Filter) : Filter :=
  { f with
    value := match f.measure with
      | .property => .null
      | .distance => .point .null .null .null }

theorem redacted_eq_iff {f g : Filter} :
    f.redacted = g.redacted ↔ g = { f with value := g.value } := by
  constructor
  · intro h
    obtain ⟨hproperty, -, hcomparison, hconnective, hnegated, hmeasure, hsubject⟩ := Filter.mk.inj h
    rw [hproperty, hcomparison, hconnective, hnegated, hmeasure, hsubject]
  · intro h
    rw [h]
    rfl

theorem parameters_redacted {f : Filter} (hf : f.Pointed) (index : Int) :
    ∃ new, f.parameters index = .ok new ∧
      f.redacted.parameters index = .ok (redactedValues new) := by
  cases hm : f.measure with
  | property =>
    refine ⟨_, by rw [parameters, bindings, hm], ?_⟩
    simp only [parameters, bindings, redacted, hm]
    cases f.comparison.isUnary <;> rfl
  | distance =>
    have hkind := hf hm
    cases hv : f.value with
    | point latitude longitude distance =>
      refine ⟨_, by rw [parameters, bindings, hm, hv], ?_⟩
      simp only [parameters, bindings, redacted, hm]
      rfl
    | _ => simp [hv, Value.kind] at hkind

end Filter

namespace Draft

def redacted (d : Draft) : Draft := { d with parameters := redactedValues d.parameters }

theorem matchClause_redacted (d : Draft) (label identifier : String) :
    d.redacted.matchClause label identifier =
      ((d.matchClause label identifier).1.redacted, (d.matchClause label identifier).2) := by
  unfold matchClause
  cases h : Entries.find? d.nodes label <;> simp [redacted, h, make]

end Draft

namespace Composed

def redacted (c : Composed) : Composed := { c with parameters := redactedValues c.parameters }

/-- Neither the value of the filter nor those met before play a part in finding its clause. -/
theorem target_redacted (root : String) (f : Filter) (sequence : Nat) (d : Draft) :
    target root f.redacted sequence d.redacted =
      (target root f sequence d).map fun r => (r.1.redacted, r.2) := by
  have hf : target root f.redacted sequence d.redacted = target root f sequence d.redacted := rfl
  rw [hf]
  cases hs : f.subject with
  | root =>
    simp only [target, hs, Draft.matchClause_redacted]
    rfl
  | node via label type direction =>
    simp only [target, hs]
    split
    · rfl
    split
    · rfl
    have hi : d.redacted.identifiers = d.identifiers := rfl
    rw [hi]
    cases Entries.find? d.identifiers label with
    | some identifier =>
      simp only [Draft.matchClause_redacted]
      rfl
    | none =>
      have hput : ∀ identifiers clause,
          { d.redacted with identifiers }.putRelationship label type clause =
            (({ d with identifiers }.putRelationship label type clause).1.redacted,
              d.clauses.length) := fun _ _ => rfl
      simp only [hput, Draft.matchClause_redacted]
      rfl
  | relationship via type direction =>
    simp only [target, hs]
    split
    · rfl
    have hb : d.redacted.bound = d.bound := rfl
    rw [hb]
    split <;> rfl
  | unspecified =>
    simp only [target, hs]
    rfl

theorem addFilter_redacted (root : String) (position sequence : Nat) (d : Draft) {f : Filter}
    (hf : f.Pointed) : addFilter root position sequence d.redacted f.redacted =
      (addFilter root position sequence d f).map Draft.redacted := by
  have hc : checkConnective f.redacted position = checkConnective f position := rfl
  obtain ⟨new, hnew, hnew'⟩ := Filter.parameters_redacted hf position
  unfold addFilter
  rw [hc, target_redacted]
  cases checkConnective f position with
  | error e => rfl
  | ok =>
    cases ht : target root f sequence d with
    | error e => rfl
    | ok r =>
      obtain ⟨d₁, i, identifier⟩ := r
      rw [hnew, hnew']
      let appended := d₁.append i (f.render identifier (!(d₁.clause i).hasWhere) position)
      exact congrArg (fun m => Except.ok { appended with parameters := m })
        (putAll_redactedValues d₁.parameters new)

theorem addFilters_redacted (root : String) (position sequence : Nat) (d : Draft)
    {fs : List Filter} (hfs : ∀ f ∈ fs, f.Pointed) :
    addFilters root position sequence d.redacted (fs.map Filter.redacted) =
      (addFilters root position sequence d fs).map Draft.redacted := by
  induction fs generalizing position sequence d with
  | nil => rfl
  | cons f fs ih =>
    obtain ⟨hf, hfs⟩ := List.forall_mem_cons.mp hfs
    have hn : f.redacted.isNested = f.isNested := rfl
    rw [List.map_cons, addFilters, addFilters, addFilter_redacted root position sequence d hf, hn]
    cases addFilter root position sequence d f with
    | error e => rfl
    | ok d₁ => exact ih (position + 1) _ d₁ hfs

theorem compose_redacted (root : String) {fs : List Filter} (hfs : ∀ f ∈ fs, f.Pointed) :
    compose root (fs.map Filter.redacted) = (compose root fs).map Composed.redacted := by
  have hd : (start root).redacted = start root := rfl
  have hrun := addFilters_redacted root 0 0 (start root) hfs
  rw [hd] at hrun
  rw [compose, compose, hrun]
  cases addFilters root 0 0 (start root) fs with
  | error e => rfl
  | ok d => rfl

theorem pointed_of_compose {root : String} {fs : List Filter} {c : Composed}
    (h : compose root fs = .ok c) : ∀ f ∈ fs, f.Pointed :=
  (accepted_iff_acceptable.mp (accepted_of_compose h)).pointed

end Composed

def Pagination.redacted (_ : Pagination) : Pagination := ⟨0, 1, by decide, by decide⟩

def RootMatch.redacted (m : RootMatch) : RootMatch :=
  { m with parameters := redactedValues m.parameters }

def Request.redacted (r : Request) : Request := { r with parameters := redactedValues r.parameters }

theorem Reach.request_redacted (reach : Reach) (m : RootMatch) (paging : String) :
    (reach.request m paging).redacted = reach.request m.redacted paging := by
  simp [request, Request.of, Request.withContents, Request.redacted, RootMatch.redacted,
    redactedValues, mapValues, Value.asParameter, Value.collection?]

namespace Load

theorem build_redacted {m m' : RootMatch} (hm : m.redacted = m'.redacted) (depth : Int)
    (order : Option SortOrder) {page page' : Option Pagination} (hp : page.isSome = page'.isSome) :
    (build m depth order page).redacted = (build m' depth order page').redacted := by
  have htext : (paging order page).1 = (paging order page').1 := by
    cases page <;> cases page' <;> first | rfl | exact nomatch hp
  have hpage : redactedValues (paging order page).2 = redactedValues (paging order page').2 := by
    cases page <;> cases page' <;> first | rfl | exact nomatch hp
  obtain ⟨hroot, hvalues, hfiltered⟩ := RootMatch.mk.inj hm
  simp only [build, Reach.request_redacted, RootMatch.redacted, ← putAll_redactedValues, htext,
    hpage, hroot, hvalues, hfiltered]

/-- Ids that are not redacted are none at all. -/
def redactedIds (ids : Value) : Value := if ids.truthy then .list [.null] else ids

theorem idsOf_redacted {ids : Value} {items : List Value} (h : idsOf ids = .ok items) :
    ∃ items', idsOf (redactedIds ids) = .ok items' ∧
      ∀ label, (rootByIds label items').redacted = (rootByIds label items).redacted := by
  unfold redactedIds
  cases ht : ids.truthy with
  | false => exact ⟨items, h, fun _ => rfl⟩
  | true =>
    rw [idsOf, ht] at h
    refine ⟨[.null], rfl, fun label => ?_⟩
    cases items with
    | nil => exact absurd rfl (Reply.elements_ne_nil ht h)
    | cons item items => rfl

end Load

namespace Query

/-- The query without its values; whether it lists ids or asks for a page is kept. -/
def redacted : Query → Query
  | .one _ depth => .one .null depth
  | .byIds ids depth => .byIds (Load.redactedIds ids) depth
  | .byType label ids depth order page =>
    .byType label (Load.redactedIds ids) depth order (page.map Pagination.redacted)
  | .byProperties label filters depth order page =>
    .byProperties label (filters.map Filter.redacted) depth order (page.map Pagination.redacted)
  | q => q

theorem request_redacted {q : Query} {r : Request} (h : q.request = .ok r) :
    ∃ r', q.redacted.request = .ok r' ∧ r'.redacted = r.redacted := by
  cases q with
  | one id depth =>
    obtain rfl := Except.ok.inj h
    exact ⟨_, rfl, rfl⟩
  | byIds ids depth =>
    obtain ⟨items, hi, hr⟩ := Outcome.bind_eq_ok.mp h
    obtain rfl := Outcome.pure_eq_ok.mp hr
    obtain ⟨items', hi', hroot⟩ := Load.idsOf_redacted (Outcome.mapError_eq_ok.mp hi)
    refine ⟨Load.byIds items' depth, ?_, Load.build_redacted (hroot none) depth none rfl⟩
    rw [redacted, request, hi']
    rfl
  | byType label ids depth order page =>
    obtain ⟨items, hi, hr⟩ := Outcome.bind_eq_ok.mp h
    obtain rfl := Outcome.pure_eq_ok.mp hr
    obtain ⟨items', hi', hroot⟩ := Load.idsOf_redacted (Outcome.mapError_eq_ok.mp hi)
    refine ⟨Load.byType label items' depth order (page.map Pagination.redacted), ?_,
      Load.build_redacted (hroot label) depth order Option.isSome_map⟩
    rw [redacted, request, hi']
    rfl
  | byProperties label filters depth order page =>
    obtain ⟨c, hc, hr⟩ := Outcome.bind_eq_ok.mp (Outcome.mapError_eq_ok.mp h)
    obtain rfl := Outcome.pure_eq_ok.mp hr
    cases label with
    | none => exact nomatch hc
    | some root =>
      have hc : compose root filters = .ok c := hc
      have hc' : compose root (filters.map Filter.redacted) = .ok c.redacted := by
        rw [Composed.compose_redacted root (Composed.pointed_of_compose hc), hc]
        rfl
      refine ⟨Load.build ⟨c.text, c.redacted.parameters, true⟩ depth order
        (page.map Pagination.redacted), ?_, Load.build_redacted ?_ depth order Option.isSome_map⟩
      · rw [redacted, request, Load.byProperties, Load.composed, hc']
        rfl
      · simp [RootMatch.redacted, Composed.redacted, redactedValues, mapValues]
  | _ => exact ⟨r, h, rfl⟩

theorem agree_of_redacted {q q' : Query} {r r' : Request} (hq : q.redacted = q'.redacted)
    (hr : q.request = .ok r) (hr' : q'.request = .ok r') : r.redacted = r'.redacted := by
  obtain ⟨s, hs, hrs⟩ := request_redacted hr
  obtain ⟨s', hs', hrs'⟩ := request_redacted hr'
  rw [← hq, hs] at hs'
  obtain rfl := Except.ok.inj hs'
  exact hrs.symm.trans hrs'

/-- Two queries that differ only in values become requests of one kind that differ only in the
values of their parameters, if both become requests at all. Of two chains that differ only in values
both are composed or both are refused with one error, if distances are measured from points. -/
theorem values_stay_out :
    (∀ (q q' : Query) (r r' : Request), q.redacted = q'.redacted → q.request = .ok r →
      q'.request = .ok r' → r.statement = r'.statement ∧
        keys r.parameters = keys r'.parameters ∧ r.kind = r'.kind ∧ r.contents = r'.contents) ∧
    ∀ (root : String) (fs gs : List Filter), fs.map Filter.redacted = gs.map Filter.redacted →
      (∀ f ∈ fs, f.Pointed) → (∀ g ∈ gs, g.Pointed) →
      (∃ c c', compose root fs = .ok c ∧ compose root gs = .ok c' ∧ c.text = c'.text ∧
        keys c.parameters = keys c'.parameters) ∨
      ∃ e, compose root fs = .error e ∧ compose root gs = .error e := by
  constructor
  · intro q q' r r' hq hr hr'
    obtain ⟨hkind, hstatement, hparameters, hcontents, -⟩ :=
      Request.mk.inj (agree_of_redacted hq hr hr')
    exact ⟨hstatement, keys_eq_of_redactedValues hparameters, hkind, hcontents⟩
  · intro root fs gs hfg hfs hgs
    have hboth := Composed.compose_redacted root hfs
    rw [hfg, Composed.compose_redacted root hgs] at hboth
    obtain ⟨c, c', hc, hc', hagree⟩ | hrefused := Outcome.of_map_eq_map hboth.symm
    · obtain ⟨htext, hparameters⟩ := Composed.mk.inj hagree
      exact .inl ⟨c, c', hc, hc', htext, keys_eq_of_redactedValues hparameters⟩
    · exact .inr hrefused

def within (distance : Value) : Filter :=
  ⟨"home", .point .null .null distance, .less, .or, false, .distance, .root⟩

def neighbours (name distance : Value) (page : Nat) : Query :=
  .byProperties (some "Person")
    [⟨"name", name, .startsWith, .none, true, .property, .root⟩, within distance,
      ⟨"since", name, .equal, .and, false, .property, .relationship "friends" "KNOWS" .outgoing⟩]
    3 none (some ⟨page, 1, Int.natCast_nonneg page, Int.one_pos⟩)

/-- Texts that would end a statement or open a placeholder are values like any other. -/
def smuggled : Query := neighbours (.text "\x7b RETURN n //") (.text "`) OR (") 0

def honest : Query := neighbours (.int 1) .null 5

theorem smuggled_stays_out :
    (∃ r r', smuggled.request = .ok r ∧ honest.request = .ok r' ∧ r.statement = r'.statement ∧
      keys r.parameters = keys r'.parameters) ∧
    ∃ e, compose "Person" [within .null] = .error e ∧
      compose "Person" [within (.text "`")] = .error e := by
  constructor
  · obtain ⟨r, hr⟩ : ∃ r, smuggled.request = .ok r := Outcome.eq_ok_of_isSome (by decide +kernel)
    obtain ⟨r', hr'⟩ : ∃ r', honest.request = .ok r' := Outcome.eq_ok_of_isSome (by decide +kernel)
    obtain ⟨hstatement, hkeys, -⟩ := values_stay_out.1 smuggled honest r r' rfl hr hr'
    exact ⟨r, r', hr, hr', hstatement, hkeys⟩
  · have hpointed : ∀ distance, ∀ f ∈ [within distance], f.Pointed :=
      fun distance => List.forall_mem_singleton.mpr fun _ => rfl
    obtain ⟨c, -, hc, -⟩ | h := values_stay_out.2 "Person" [within .null] [within (.text "`")] rfl
      (hpointed _) (hpointed _)
    · -- the first filter of a chain has no connective
      have hfirst := (Composed.accepted_iff_acceptable.mp (Composed.accepted_of_compose hc)).first
      exact nomatch hfirst _ rfl
    · exact h

end Query

end CypherLink
