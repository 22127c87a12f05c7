import CypherLink.Proofs.Session.Reading

/-!
Shapes of values that a reply can be read from. A reply whose value is of another shape is not
refused for what it says: reading it fails. Main statements: `told_checkErrors` and `told_results`.
-/

namespace CypherLink

open Entries (find?)
open Outcome (Never Only)

namespace Value

/-- The faults that a value reports, if any, are a collection of maps. -/
def TellsFaults (v : Value) : Prop :=
  ∃ es, v = .map es ∧ ∀ errors, find? es "errors" = some errors → errors.truthy = true →
    ∃ items, errors.elements = .ok items ∧ ∀ item ∈ items, ∃ fs, item = .map fs

/-- The value has neither a row nor a graph, or it is a map, where it has one of them, of which the
row can be laid out under the columns. -/
structure IsDatum (columns : List Value) (d : Value) : Prop where
  row : d.holds "row" = .ok false ∨ ∃ es row values, d = .map es ∧ find? es "row" = some row ∧
    row.elements = .ok values ∧ ∀ e ∈ columns.zip values, e.1.unhashable? = none
  graph : d.holds "graph" = .ok false ∨ ∃ es, d = .map es

/-- The value is a map of columns and data, either of which may be left out. -/
def IsResult (v : Value) : Prop :=
  ∃ es columns data, v = .map es ∧ ((find? es "columns").getD (.list [])).elements = .ok columns ∧
    ((find? es "data").getD (.list [])).elements = .ok data ∧ ∀ d ∈ data, d.IsDatum columns

/-- The value reports faults, or its results are a collection of results. -/
def TellsResults (v : Value) : Prop :=
  v.TellsFaults ∧ ∀ es, v = .map es →
    (∀ errors, find? es "errors" = some errors → errors.truthy = false) →
    ∃ items, ((find? es "results").getD (.list [])).elements = .ok items ∧
      ∀ item ∈ items, item.IsResult

theorem never_member? {v : Value} {name : String} : Never (v.member? name) ↔ ∃ es, v = .map es := by
  cases v with
  | map es => exact iff_of_true (Outcome.only_ok _) ⟨es, rfl⟩
  | _ => exact iff_of_false (fun h => h _ rfl) nofun

theorem never_member {v : Value} {name : String} :
    Never (v.member name) ↔ ∃ es w, v = .map es ∧ find? es name = some w := by
  cases v with
  | map es =>
    cases hw : find? es name with
    | none =>
      have hmissing : (Value.map es).member name = .error (.missingKey (.text name)) := by
        simp only [member, hw]
      refine iff_of_false (fun h => h _ hmissing) ?_
      rintro ⟨es', w, ⟨⟩, hw'⟩
      exact absurd (hw.symm.trans hw') (by simp)
    | some w =>
      have hfound : (Value.map es).member name = .ok w := member_map es name w hw
      exact iff_of_true (Outcome.never_iff.mpr ⟨w, hfound⟩) ⟨es, w, rfl, hw⟩
  | text s =>
    refine iff_of_false (fun h => h _ rfl) ?_
    rintro ⟨_, _, ⟨⟩, -⟩
  | _ =>
    refine iff_of_false (fun h => h _ rfl) ?_
    rintro ⟨_, _, ⟨⟩, -⟩

/-- What is looked up where it is held is found in maps only. -/
theorem never_found {α : Type} {d : Value} {name : String} {k : Value → Except AccessError α}
    {x : Except AccessError α} :
    Never (d.holds name >>= fun b => if b = true then d.member name >>= k else x) ↔
      (d.holds name = .ok false ∧ Never x) ∨
        ∃ es v, d = .map es ∧ find? es name = some v ∧ Never (k v) := by
  cases hb : d.holds name with
  | error e =>
    refine iff_of_false (fun h => h e rfl) ?_
    rintro (⟨⟨⟩, -⟩ | ⟨es, v, rfl, -⟩)
    exact nomatch hb
  | ok b =>
    cases b with
    | false =>
      refine ⟨fun h => .inl ⟨rfl, h⟩, ?_⟩
      rintro (⟨-, h⟩ | ⟨es, v, rfl, hv, -⟩)
      · exact h
      · have hsome : (find? es name).isSome = false := Except.ok.inj hb
        rw [hv] at hsome
        exact nomatch hsome
    | true =>
      have hbind : Never (d.member name >>= k) ↔
          ∃ es v, d = .map es ∧ find? es name = some v ∧ Never (k v) := by
        rw [Outcome.never_bind, never_member]
        constructor
        · rintro ⟨⟨es, v, rfl, hv⟩, h⟩
          exact ⟨es, v, rfl, hv, h v (member_map es name v hv)⟩
        · rintro ⟨es, v, rfl, hv, h⟩
          refine ⟨⟨es, v, rfl, hv⟩, fun w hw => ?_⟩
          rw [member_map es name v hv] at hw
          exact Except.ok.inj hw ▸ h
      constructor
      · intro h
        exact .inr (hbind.mp h)
      · rintro (⟨⟨⟩, -⟩ | h)
        exact hbind.mpr h

end Value

namespace Reply

open Outcome

theorem never_errorText {e : Value} : Never (errorText e) ↔ ∃ fs, e = .map fs := by
  rw [errorText, never_bind, Value.never_member?]
  refine and_iff_left_of_imp ?_
  rintro ⟨fs, rfl⟩ code -
  rw [never_bind, Value.never_member?]
  exact ⟨⟨fs, rfl⟩, fun _ _ => only_ok _⟩

/-- What cannot be taken apart is not reported by the driver. -/
theorem only_access {α : Type} {x : Except AccessError α} :
    Only (fun e => (Failure.ofReply e).isReported = true) (x.mapError .access) ↔ Never x := by
  rw [only_mapError]
  constructor
  · intro h e he
    exact nomatch h e he
  · intro h e he
    exact (h e he).elim

theorem told_checkErrors {v : Value} :
    Only (fun e => (Failure.ofReply e).isReported = true) (checkErrors v) ↔ v.TellsFaults := by
  rw [checkErrors, only_bind, only_access, Value.never_member?]
  constructor
  · rintro ⟨⟨es, rfl⟩, h⟩
    refine ⟨es, rfl, fun errors hfind ht => ?_⟩
    have h := h (some errors) (by rw [← hfind]; rfl)
    dsimp only at h
    rw [if_pos ht, only_bind, only_access, never_iff] at h
    obtain ⟨⟨items, hitems⟩, h⟩ := h
    have h := h items (by rw [hitems]; rfl)
    rw [only_bind, only_access, never_mapM] at h
    exact ⟨items, hitems, fun item hitem => never_errorText.mp (h.1 item hitem)⟩
  · rintro ⟨es, rfl, h⟩
    refine ⟨⟨es, rfl⟩, fun errors? herrors => ?_⟩
    obtain rfl : find? es "errors" = errors? := Except.ok.inj herrors
    cases hfind : find? es "errors" with
    | none => exact only_ok ()
    | some errors =>
      dsimp only
      cases ht : errors.truthy with
      | false => exact only_ok ()
      | true =>
        obtain ⟨items, hitems, hmaps⟩ := h errors hfind ht
        rw [if_pos rfl, hitems]
        have htexts : Never (items.mapM errorText) :=
          never_mapM.mpr fun item hitem => never_errorText.mpr (hmaps item hitem)
        refine only_bind.mpr ⟨only_ok _, ?_⟩
        rintro _ ⟨⟩
        refine only_bind.mpr ⟨only_access.mpr htexts, fun texts _ => ?_⟩
        exact only_error.mpr rfl

theorem never_ofColumns {columns values : List Value} :
    Never (Row.ofColumns columns values) ↔ ∀ e ∈ columns.zip values, e.1.unhashable? = none := by
  refine never_foldlM fun row e => ?_
  cases e.1.unhashable? with
  | none => exact iff_of_true (only_ok _) rfl
  | some kind => exact iff_of_false (fun h => h _ rfl) nofun

theorem never_graph {d : Value} {r : QueryResult} :
    Never (d.holds "graph" >>= fun b => if b = true then
      d.member "graph" >>= fun g => pure { r with graphs := r.graphs ++ [g] } else pure r) ↔
      d.holds "graph" = .ok false ∨ ∃ es, d = .map es := by
  rw [Value.never_found]
  constructor
  · rintro (⟨h, -⟩ | ⟨es, g, rfl, -⟩)
    · exact .inl h
    · exact .inr ⟨es, rfl⟩
  · rintro (h | ⟨es, rfl⟩)
    · exact .inl ⟨h, only_ok r⟩
    · cases hg : find? es "graph" with
      | none =>
        have hnone : (Value.map es).holds "graph" = .ok false := by
          rw [Value.holds, hg]
          rfl
        exact .inl ⟨hnone, only_ok r⟩
      | some g => exact .inr ⟨es, g, rfl, hg, only_ok _⟩

theorem never_datum {columns : List Value} {r : QueryResult} {d : Value} :
    Never (datum columns r d) ↔ d.IsDatum columns := by
  unfold datum
  rw [Value.never_found]
  constructor
  · rintro (⟨hrow, h⟩ | ⟨es, row, rfl, hrow, h⟩)
    · exact ⟨.inl hrow, never_graph.mp h⟩
    · obtain ⟨hvalues, h⟩ := never_bind.mp h
      obtain ⟨values, hvalues⟩ := never_iff.mp hvalues
      obtain ⟨hlaid, h⟩ := never_bind.mp (h values hvalues)
      exact ⟨.inr ⟨es, row, values, rfl, hrow, hvalues, never_ofColumns.mp hlaid⟩, .inr ⟨es, rfl⟩⟩
  · rintro ⟨hrow | ⟨es, row, values, rfl, hrow, hvalues, hlaid⟩, hgraph⟩
    · exact .inl ⟨hrow, never_graph.mpr hgraph⟩
    · refine .inr ⟨es, row, rfl, hrow, ?_⟩
      rw [hvalues]
      refine never_bind.mpr ⟨only_ok values, ?_⟩
      rintro _ ⟨⟩
      exact never_bind.mpr ⟨never_ofColumns.mpr hlaid, fun laid _ => never_graph.mpr hgraph⟩

theorem never_data {columns data : List Value} {r : QueryResult} :
    Never (data.foldlM (datum columns) r) ↔ ∀ d ∈ data, d.IsDatum columns := by
  have hstep : ∀ r d, Never (datum columns r d) ↔ d.IsDatum columns := fun r d => never_datum
  exact never_foldlM hstep

theorem never_result {v : Value} : Never (result v) ↔ v.IsResult := by
  constructor
  · intro h
    obtain ⟨hmap, h⟩ := never_bind.mp h
    obtain ⟨es, rfl⟩ := Value.never_member?.mp hmap
    obtain ⟨hcolumns, h⟩ := never_bind.mp (h _ rfl)
    obtain ⟨columns, hcolumns⟩ := never_iff.mp hcolumns
    obtain ⟨-, h⟩ := never_bind.mp (h columns hcolumns)
    obtain ⟨-, h⟩ := never_bind.mp (h _ rfl)
    obtain ⟨hdata, h⟩ := never_bind.mp (h _ rfl)
    obtain ⟨data, hdata⟩ := never_iff.mp hdata
    exact ⟨es, columns, data, rfl, hcolumns, hdata, never_data.mp (h data hdata)⟩
  · rintro ⟨es, columns, data, rfl, hcolumns, hdata, h⟩
    have hresult : result (.map es) = data.foldlM (datum columns)
        { columns, stats := (find? es "stats").getD .null } := by
      unfold result
      simp only [Value.member?, bind, Except.bind, hcolumns, hdata]
    rw [hresult]
    exact never_data.mpr h

theorem checkErrors_map {es : List (String × Value)} : checkErrors (.map es) = .ok () ↔
    ∀ errors, find? es "errors" = some errors → errors.truthy = false := by
  constructor
  · intro h
    obtain ⟨es', he, hnone⟩ := checkErrors_eq_ok h
    obtain rfl := Value.map.inj he
    exact hnone
  · intro h
    unfold checkErrors
    have hread : ((Value.map es).member? "errors").mapError ReplyError.access =
        .ok (find? es "errors") := rfl
    rw [hread]
    cases hfind : find? es "errors" with
    | none => rfl
    | some errors =>
      change (if errors.truthy = true then _ else _) = _
      rw [if_neg (by rw [h errors hfind]; decide)]
      rfl

/-- Results are read only if no faults are reported. Without results there are none. -/
theorem told_results {v : Value} :
    Only (fun e => (Failure.ofReply e).isReported = true) (results v) ↔ v.TellsResults := by
  unfold results
  rw [only_bind, told_checkErrors]
  refine and_congr_right ?_
  rintro ⟨es, rfl, -⟩
  constructor
  · intro h es' he hnone
    obtain rfl := Value.map.inj he
    have hlisted : Never (((find? es "results").getD (.list [])).elements >>= fun items =>
        items.mapM result) := only_access.mp (h () (checkErrors_map.mpr hnone))
    obtain ⟨hitems, hresults⟩ := never_bind.mp hlisted
    obtain ⟨items, hitems⟩ := never_iff.mp hitems
    exact ⟨items, hitems, fun item hitem =>
      never_result.mp (never_mapM.mp (hresults items hitems) item hitem)⟩
  · intro h u hu
    obtain ⟨items, hitems, hresults⟩ := h es rfl (checkErrors_map.mp hu)
    have hlisted : Never (((find? es "results").getD (.list [])).elements >>= fun items =>
        items.mapM result) := by
      rw [hitems]
      exact never_mapM.mpr fun item hitem => never_result.mpr (hresults item hitem)
    exact only_access.mpr hlisted

end Reply

end CypherLink
