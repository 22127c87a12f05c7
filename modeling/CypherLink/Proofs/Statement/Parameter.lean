import CypherLink.Proofs.Match.Placement
import CypherLink.Proofs.Statement.Query

/-!
The parameters of a query. A filter binds names that end in its place in the chain, so no name is
bound twice, and those of a page end in no number. Main statements: `nodup_bindings`,
`parameters_of_compose` and `parameters_of_request`.
-/

namespace CypherLink

open Composed (compose)
open Entries (find? keys mapValues putAll)

namespace Filter

/-- What a filter binds at its place in the chain. -/
def bound (f : Filter) (i : Nat) : Entries String Value :=
  match f.measure, f.value with
  | .property, v => if f.comparison.isUnary then [] else [(f.parameterName i, v)]
  | .distance, .point latitude longitude distance =>
    [("lat_" ++ toString i, latitude), ("lon_" ++ toString i, longitude),
      ("distance_" ++ toString i, distance)]
  | .distance, _ => []

theorem suffix_append (head : String) (i : Nat) :
    suffix (head ++ "_" ++ toString i) = toString i := by
  have hdigits : '_' ∉ (toString i).toList := by
    intro h
    exact absurd (isDigit_of_mem_toString h) (by decide)
  have hs : (head ++ "_" ++ toString i).toList = head.toList ++ '_' :: (toString i).toList := by
    simp
  rw [suffix, hs, lastPart_append _ hdigits, String.ofList_toList]

theorem suffix_parameterName (f : Filter) (i : Nat) : suffix (f.parameterName i) = toString i := by
  unfold parameterName
  cases f.subject.via? with
  | none => exact suffix_append f.property i
  | some via => exact suffix_append (via ++ "_" ++ f.property) i

section Bound

variable {f : Filter} {i : Nat} {new : Entries String Value} (h : f.parameters i = .ok new)

include h

theorem parameters_eq_bound : new = f.bound i := by
  unfold parameters bindings at h
  unfold bound
  cases hm : f.measure with
  | property =>
    simp only [hm, Except.ok.injEq] at h
    exact h.symm
  | distance =>
    simp only [hm] at h
    split at h
    · simp only [latitudeName, longitudeName, distanceName, suffix_parameterName,
        Except.ok.injEq] at h
      simp_all
    · cases h

theorem asked_eq_keys : f.asked (f.parameterName i) = keys (f.bound i) := by
  rw [← parameters_eq_bound h]
  unfold parameters bindings at h
  unfold asked
  cases hm : f.measure with
  | property =>
    simp only [hm, Except.ok.injEq] at h
    rw [← h]
    cases f.comparison.isUnary <;> rfl
  | distance =>
    simp only [hm] at h
    split at h
    · obtain rfl := Except.ok.inj h
      rfl
    · cases h

end Bound

theorem suffix_of_mem_bound {f : Filter} {i : Nat} {k : String} (h : k ∈ keys (f.bound i)) :
    suffix k = toString i := by
  unfold bound at h
  split at h
  · split at h
    · cases h
    · obtain rfl := List.mem_singleton.mp h
      exact f.suffix_parameterName i
  · simp only [keys, List.map_cons, List.map_nil, List.mem_cons, List.not_mem_nil, or_false] at h
    rcases h with rfl | rfl | rfl
    · exact suffix_append "lat" i
    · exact suffix_append "lon" i
    · exact suffix_append "distance" i
  · cases h

theorem nodup_bound (f : Filter) (i : Nat) : (keys (f.bound i)).Nodup := by
  unfold bound
  split
  · split
    · exact List.nodup_nil
    · exact List.nodup_singleton _
  · simp [keys, ← String.toList_inj]
  · exact List.nodup_nil

end Filter

/-- What the filters of a chain bind, the first of them at that place. -/
def bindingsFrom (position : Nat) : List Filter → Entries String Value
  | [] => []
  | f :: fs => f.bound position ++ bindingsFrom (position + 1) fs

theorem mem_keys_bindingsFrom {position : Nat} {fs : List Filter} {k : String} :
    k ∈ keys (bindingsFrom position fs) ↔
      ∃ (i : Nat) (f : Filter), fs[i]? = some f ∧ k ∈ keys (f.bound (position + i)) := by
  induction fs generalizing position with
  | nil => simp [bindingsFrom, keys]
  | cons f fs ih =>
    rw [bindingsFrom, Entries.keys_append, List.mem_append]
    constructor
    · rintro (h | h)
      · exact ⟨0, f, rfl, h⟩
      · obtain ⟨i, g, hg, hk⟩ := ih.mp h
        exact ⟨i + 1, g, hg, by rwa [Nat.add_comm i, ← Nat.add_assoc]⟩
    · rintro ⟨i, g, hg, hk⟩
      cases i with
      | zero =>
        obtain rfl := Option.some.inj hg
        exact .inl hk
      | succ i => exact .inr (ih.mpr ⟨i, g, hg, by rwa [Nat.add_assoc, Nat.add_comm 1]⟩)

theorem suffix_of_mem_bindingsFrom {position : Nat} {fs : List Filter} {k : String}
    (h : k ∈ keys (bindingsFrom position fs)) :
    ∃ i, position ≤ i ∧ Filter.suffix k = toString i := by
  obtain ⟨i, f, -, hk⟩ := mem_keys_bindingsFrom.mp h
  exact ⟨position + i, Nat.le_add_right _ _, Filter.suffix_of_mem_bound hk⟩

theorem nodup_bindingsFrom (position : Nat) (fs : List Filter) :
    (keys (bindingsFrom position fs)).Nodup := by
  induction fs generalizing position with
  | nil => exact List.nodup_nil
  | cons f fs ih =>
    rw [bindingsFrom, Entries.keys_append]
    refine List.nodup_append.mpr ⟨f.nodup_bound position, ih (position + 1), ?_⟩
    rintro k hf _ hfs rfl
    -- the number that a name ends in tells its filter
    obtain ⟨i, hi, hs⟩ := suffix_of_mem_bindingsFrom hfs
    rw [Filter.suffix_of_mem_bound hf] at hs
    have hpos : position = i := eq_of_toString_eq hs
    omega

namespace Composed

theorem parameters_of_addFilters {root : String} {position sequence : Nat} {d d' : Draft}
    {fs : List Filter} (h : addFilters root position sequence d fs = .ok d')
    (hn : (keys (d.parameters ++ bindingsFrom position fs)).Nodup) :
    d'.parameters = d.parameters ++ bindingsFrom position fs := by
  induction fs generalizing position sequence d with
  | nil =>
    obtain rfl : d = d' := by simpa [addFilters] using h
    exact (List.append_nil _).symm
  | cons f fs ih =>
    unfold addFilters at h
    obtain ⟨d₁, hf, hfs⟩ := Outcome.bind_eq_ok.mp h
    obtain ⟨d₂, i, identifier, new, -, ht, hnew, rfl⟩ := addFilter_ok hf
    rw [bindingsFrom, ← List.append_assoc] at hn ⊢
    have hfirst : (keys (d.parameters ++ f.bound position)).Nodup := by
      rw [Entries.keys_append] at hn
      exact (List.nodup_append.mp hn).1
    have hd : Entries.putAll d₂.parameters new = d.parameters ++ f.bound position := by
      rw [parameters_of_target ht, Filter.parameters_eq_bound hnew]
      exact Entries.putAll_of_nodup hfirst
    rw [← hd] at hn ⊢
    exact ih hfs hn

/-- The parameters of a composed statement are what its filters bind, one after the other. -/
theorem parameters_of_compose {root : String} {fs : List Filter} {c : Composed}
    (h : compose root fs = .ok c) : c.parameters = bindingsFrom 0 fs := by
  obtain ⟨d, hd, rfl⟩ := compose_ok h
  have hn : (keys ((start root).parameters ++ bindingsFrom 0 fs)).Nodup := nodup_bindingsFrom 0 fs
  exact parameters_of_addFilters hd hn

end Composed

namespace Layout

theorem mem_keys_of_asked {root : String} {fs : List Filter}
    (ha : Composed.Accepted root 0 false fs) {x : String} (hx : x ∈ (ofChain root fs).asked) :
    x ∈ keys (bindingsFrom 0 fs) := by
  obtain ⟨e, he, hx⟩ := List.mem_flatMap.mp hx
  obtain ⟨p, hp, hx⟩ := List.mem_flatMap.mp hx
  have hf := filter_of_mem_placements (mem_placements he hp)
  obtain ⟨b, hpass⟩ := ha.passes hf
  obtain ⟨new, hnew⟩ := hpass.bindings
  rw [Nat.zero_add] at hnew
  rw [Placed.asked, Filter.asked_eq_keys hnew] at hx
  exact mem_keys_bindingsFrom.mpr ⟨p.position, p.filter, hf, by rwa [Nat.zero_add]⟩

end Layout

theorem keys_pageParameters (page : Option Pagination) :
    keys (pageParameters page) = if page.isSome then ["skip", "limit"] else [] := by
  cases page <;> rfl

theorem nodup_keys_pageParameters (page : Option Pagination) :
    (keys (pageParameters page)).Nodup := by
  rw [keys_pageParameters]
  split <;> decide

theorem disjoint_pageParameters {position : Nat} {fs : List Filter} {k : String}
    (hk : k ∈ keys (bindingsFrom position fs)) (page : Option Pagination) :
    k ∉ keys (pageParameters page) := by
  -- the parameters of a page end in no number
  obtain ⟨i, -, hs⟩ := suffix_of_mem_bindingsFrom hk
  have hdigit : ∀ c ∈ (Filter.suffix k).toList, c.isDigit = true := by
    rw [hs]
    exact fun c hc => isDigit_of_mem_toString hc
  intro hp
  have hk : k ∈ ["skip", "limit"] := by
    rw [keys_pageParameters] at hp
    split at hp
    · exact hp
    · cases hp
  rcases List.mem_cons.mp hk with rfl | hk
  · exact absurd (hdigit 's' (by decide)) (by decide)
  · obtain rfl := List.mem_singleton.mp hk
    exact absurd (hdigit 'l' (by decide)) (by decide)

namespace Load

theorem parameters_build (root : RootMatch) (depth : Int) (order : Option SortOrder)
    (page : Option Pagination) (hn : (keys (root.parameters ++ pageParameters page)).Nodup) :
    (build root depth order page).parameters =
      mapValues Value.asParameter (root.parameters ++ pageParameters page) := by
  rw [← Entries.putAll_of_nodup hn, ← snd_paging order page]
  rfl

end Load

namespace Query

/-- What a query binds: what its filters do or the ids that it lists, and then its page. -/
def bindings : Query → Entries String Value
  | .one id _ => [("id", id)]
  | .byIds ids _ => idsParameters ids
  | .byType _ ids _ _ page => idsParameters ids ++ pageParameters page
  | .byProperties _ filters _ _ page => bindingsFrom 0 filters ++ pageParameters page
  | _ => []

theorem idsParameters_eq (ids : Value) :
    idsParameters ids = [] ∨ ∃ items, idsParameters ids = [("ids", .list items)] := by
  unfold idsParameters
  cases Load.idsOf ids with
  | error e => exact .inl rfl
  | ok items =>
    cases items with
    | nil => exact .inl rfl
    | cons item items => exact .inr ⟨item :: items, rfl⟩

theorem nodup_keys_idsParameters (ids : Value) (page : Option Pagination) :
    (keys (idsParameters ids ++ pageParameters page)).Nodup := by
  obtain h | ⟨items, h⟩ := idsParameters_eq ids
  · rw [h]
    exact nodup_keys_pageParameters page
  · rw [h, Entries.keys_append]
    change ("ids" :: keys (pageParameters page)).Nodup
    rw [keys_pageParameters]
    split <;> decide

theorem nodup_bindings (q : Query) : (keys q.bindings).Nodup := by
  cases q with
  | one id depth => exact List.nodup_singleton _
  | byIds ids depth =>
    have h : (keys (idsParameters ids ++ [])).Nodup := nodup_keys_idsParameters ids none
    rwa [List.append_nil] at h
  | byType label ids depth order page => exact nodup_keys_idsParameters ids page
  | byProperties label filters depth order page =>
    rw [bindings, Entries.keys_append]
    refine List.nodup_append.mpr
      ⟨nodup_bindingsFrom 0 filters, nodup_keys_pageParameters page, ?_⟩
    rintro k hk _ hp rfl
    exact disjoint_pageParameters hk page hp
  | _ => exact List.nodup_nil

theorem parameters_of_byType {label : Option String} {ids : Value} {items : List Value}
    (hi : Load.idsOf ids = .ok items) (depth : Int) (order : Option SortOrder)
    (page : Option Pagination) :
    (Load.byType label items depth order page).parameters =
      mapValues Value.asParameter (idsParameters ids ++ pageParameters page) := by
  have hids : (Load.rootByIds label items).parameters = idsParameters ids := by
    unfold idsParameters
    rw [hi]
    cases items <;> rfl
  have hn := nodup_keys_idsParameters ids page
  rw [← hids] at hn ⊢
  exact Load.parameters_build _ depth order page hn

theorem parameters_of_byProperties {label : Option String} {filters : List Filter} {depth : Int}
    {order : Option SortOrder} {page : Option Pagination} {r : Request}
    (h : Load.byProperties label filters depth order page = .ok r) :
    r.parameters = mapValues Value.asParameter (bindingsFrom 0 filters ++ pageParameters page) := by
  obtain ⟨c, hc, hr⟩ := Outcome.bind_eq_ok.mp h
  obtain rfl := Outcome.pure_eq_ok.mp hr
  cases label with
  | none => cases hc
  | some root =>
    have hn := nodup_bindings (.byProperties (some root) filters depth order page)
    rw [bindings, ← Composed.parameters_of_compose hc] at hn
    rw [← Composed.parameters_of_compose hc]
    exact Load.parameters_build ⟨c.text, c.parameters, true⟩ depth order page hn

theorem parameters_eq_bindings {q : Query} {r : Request}
    (hq : ∀ kind given, q ≠ .statement kind given) (h : q.request = .ok r) :
    r.parameters = mapValues Value.asParameter q.bindings := by
  cases q with
  | one id depth =>
    obtain rfl := Except.ok.inj h
    exact Load.parameters_build ⟨_, [("id", id)], false⟩ depth none none (List.nodup_singleton _)
  | byIds ids depth =>
    obtain ⟨items, hi, hr⟩ := Outcome.bind_eq_ok.mp h
    obtain rfl := Outcome.pure_eq_ok.mp hr
    have hp : (Load.byIds items depth).parameters =
        mapValues Value.asParameter (idsParameters ids ++ []) :=
      parameters_of_byType (Outcome.mapError_eq_ok.mp hi) depth none none
    rwa [List.append_nil] at hp
  | byType label ids depth order page =>
    obtain ⟨items, hi, hr⟩ := Outcome.bind_eq_ok.mp h
    obtain rfl := Outcome.pure_eq_ok.mp hr
    exact parameters_of_byType (Outcome.mapError_eq_ok.mp hi) depth order page
  | byProperties label filters depth order page =>
    exact parameters_of_byProperties (Outcome.mapError_eq_ok.mp h)
  | statement kind given => exact absurd rfl (hq kind given)
  | _ =>
    obtain rfl := Except.ok.inj h
    rfl

theorem asked_eq_keys {q : Query} (hq : ∀ label filters depth order page,
    q ≠ .byProperties label filters depth order page) : q.asked = keys q.bindings := by
  cases q with
  | byType label ids depth order page =>
    rw [bindings, Entries.keys_append]
    rfl
  | byProperties label filters depth order page => exact absurd rfl (hq _ _ _ _ _)
  | _ => rfl

theorem mem_keys_of_asked {q : Query} {r : Request} (h : q.request = .ok r) {x : String}
    (hx : x ∈ q.asked) : x ∈ keys q.bindings := by
  by_cases hq : ∃ label filters depth order page, q = .byProperties label filters depth order page
  · obtain ⟨label, filters, depth, order, page, rfl⟩ := hq
    obtain ⟨c, hc, -⟩ := Outcome.bind_eq_ok.mp (Outcome.mapError_eq_ok.mp h)
    cases label with
    | none => cases hx
    | some root =>
      rw [bindings, Entries.keys_append]
      rcases List.mem_append.mp hx with hx | hx
      · have hb := Layout.mem_keys_of_asked (Composed.accepted_of_compose hc) hx
        exact List.mem_append_left _ hb
      · exact List.mem_append_right _ hx
  · push Not at hq
    rwa [asked_eq_keys hq] at hx

/-- A request has a value for each name that its query binds, one after the other and none twice,
where a collection has become a list, and each placeholder of its statement stands for one of them.
Where no filters are given, the placeholders are just these names. -/
theorem parameters_of_request {q : Query} {r : Request}
    (hq : ∀ kind given, q ≠ .statement kind given) (h : q.request = .ok r) :
    r.parameters = mapValues Value.asParameter q.bindings ∧ (keys r.parameters).Nodup ∧
      (∀ e ∈ q.bindings, find? r.parameters e.1 = some e.2.asParameter) ∧
      ∃ ts, lex r.statement.toList = some ts ∧ (∀ x ∈ placeholders ts, x ∈ keys r.parameters) ∧
        ((∀ label filters depth order page, q ≠ .byProperties label filters depth order page) →
          placeholders ts = keys r.parameters) := by
  have hp := parameters_eq_bindings hq h
  have hk : keys r.parameters = keys q.bindings := by rw [hp, Entries.keys_mapValues]
  have hn : (keys r.parameters).Nodup := hk ▸ q.nodup_bindings
  obtain ⟨ts, hts, hasked⟩ := (spelled_request hq h).lex_asked
  refine ⟨hp, hn, ?_, ts, hts, ?_, ?_⟩
  · intro e he
    rw [hp, Entries.find?_mapValues, Entries.find?_of_mem q.nodup_bindings he]
    rfl
  · intro x hx
    rw [hk]
    exact mem_keys_of_asked h (hasked ▸ hx)
  · intro hne
    rw [hk, hasked, asked_eq_keys hne]

/-- Filters whose names look like parameters of other filters and of the page. -/
def lookalikes : Query :=
  .byProperties (some "skip")
    [⟨"lat", .int 1, .equal, .none, false, .property, .root⟩,
      ⟨"lat", .point (.int 57) (.int 24) (.int 5), .less, .and, false, .distance, .root⟩,
      ⟨"1", .tuple [.int 2], .isIn, .and, true, .property, .node "a" "ids" "limit" .outgoing⟩,
      ⟨"skip", .null, .present, .and, false, .property, .root⟩,
      ⟨"skip", .text "limit", .equal, .and, false, .property, .root⟩]
    (-1) none (some ⟨2, 10, by decide, by decide⟩)

theorem parameters_of_lookalikes : ∃ r, lookalikes.request = .ok r ∧
    keys r.parameters =
      ["lat_0", "lat_1", "lon_1", "distance_1", "a_1_2", "skip_4", "skip", "limit"] ∧
    (keys r.parameters).Nodup ∧
    ∃ ts, lex r.statement.toList = some ts ∧ ∀ x ∈ placeholders ts, x ∈ keys r.parameters := by
  obtain ⟨r, hr⟩ : ∃ r, lookalikes.request = .ok r := Outcome.eq_ok_of_isSome (by decide +kernel)
  obtain ⟨hp, hn, -, ts, hts, hkeys, -⟩ := parameters_of_request (q := lookalikes) nofun hr
  refine ⟨r, hr, ?_, hn, ts, hts, hkeys⟩
  rw [hp]
  decide +kernel

end Query

end CypherLink
