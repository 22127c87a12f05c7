import CypherLink.Load.Plan
import CypherLink.Proofs.Match.Realisation
import CypherLink.Proofs.Statement.Clause

/-!
What a reader finds in the statement of a query. Whatever the labels, types, properties and
parameters are called, they are read back as names, and nothing of them is left outside. Main
statement: `spelled_request`.
-/

namespace CypherLink

open Entries (keys)
open Name (quoted)

namespace SortOrder

theorem spelled_clause (c : SortClause) : Spelled (c.render "n") c.properties [] := by
  have hs : Spelled c.direction.suffix [] [] := by
    cases c.direction with
    | ascending => exact .empty
    | descending => exact .phrase (by simp [SortDirection.suffix, phrases]) (by decide)
  have hp : Spelled (c.render "n") (c.properties.map fun property => property) [] := by
    refine Spelled.intercalate_names ?_ (by simp [phrases]) (by decide)
    intro property _
    have hn := (Spelled.identifier .root).concat_name (t := ".")
      (by simp [phrases]) (by decide) property
    exact hn.append hs
  rwa [List.map_id'] at hp

def names (order : SortOrder) : List String := order.flatMap SortClause.properties

theorem spelled_render (order : SortOrder) : Spelled (order.render "n") order.names [] := by
  unfold render
  cases order with
  | nil => exact .empty
  | cons c order =>
    have hc : Spelled (",".intercalate ((c :: order).map fun c => c.render "n"))
        (names (c :: order)) ((c :: order).flatMap fun _ => []) :=
      .intercalate (by simp [phrases]) (by decide) fun c _ => spelled_clause c
    rw [List.flatMap_eq_nil_iff.mpr fun _ _ => rfl] at hc
    exact (Spelled.phrase (by simp [phrases]) (by decide)).append hc

end SortOrder

/-- The properties by which a query sorts, if it does. -/
def sortNames (order : Option SortOrder) : List String := (order.map SortOrder.names).getD []

/-- The parameters of a page, if there is one. -/
def pageParameters (page : Option Pagination) : Entries String Value :=
  (page.map Pagination.parameters).getD []

theorem snd_paging (order : Option SortOrder) (page : Option Pagination) :
    (paging order page).2 = pageParameters page := by
  cases page <;> rfl

theorem spelled_paging (order : Option SortOrder) (page : Option Pagination) :
    Spelled (paging order page).1 (sortNames order) (keys (pageParameters page)) := by
  have ho : Spelled ((order.map fun o => o.render "n").getD "") (sortNames order) [] := by
    cases order with
    | none => exact .empty
    | some order => exact order.spelled_render
  unfold paging
  cases page with
  | none => exact ho
  | some page =>
    exact ho.concat_asking ["skip", "limit"] (by simp [Pagination.text, phrases]) fun _ => rfl

section Tail

variable {paging : String} {ns as : List String}

theorem Reach.spelled_pattern {reach : Reach} {pattern : String}
    (h : reach.pattern? = some pattern) : Spelled pattern [] [] := by
  cases reach with
  | nowhere => cases h
  | upTo hops =>
    obtain rfl := Option.some.inj h
    have hopen := (Spelled.phrase (s := "p=(n)-[*0..") (by simp [phrases]) (by decide)).append (.hops hops)
    exact hopen.concat (by simp [phrases]) (by decide)
  | unbounded =>
    obtain rfl := Option.some.inj h
    exact .phrase (by simp [phrases]) (by decide)

theorem Reach.spelled_tail (reach : Reach) (filtered : Bool) (h : Spelled paging ns as) :
    Spelled (reach.tail filtered paging) ns as := by
  have hw : Spelled ("WITH n" ++ paging) ns as :=
    (Spelled.phrase (by simp [phrases]) (by decide)).append h
  unfold tail
  cases hp : reach.pattern? with
  | none =>
    by_cases he : paging = ""
    · rw [he] at h
      obtain ⟨rfl, rfl⟩ := h.of_empty
      simp only [he, if_true]
      exact .phrase (by simp [phrases]) (by decide)
    · simp only [he, if_false]
      exact hw.concat (by simp [phrases]) (by decide)
  | some pattern =>
    have hm := hw.concat (t := " MATCH ") (by simp [phrases]) (by decide)
    have hm := hm.append (spelled_pattern hp)
    have hp := hm.concat (t := " RETURN p") (by simp [phrases]) (by decide)
    have hids : Spelled (if filtered then ", ID(n)" else "") [] [] := by
      cases filtered with
      | false => exact .empty
      | true => exact .phrase (by simp [phrases]) (by decide)
    simpa using hp.append hids

theorem Reach.spelled_request (reach : Reach) {root : RootMatch} {ms bs : List String}
    (hr : Spelled root.text ms bs) (h : Spelled paging ns as) :
    Spelled (reach.request root paging).statement (ms ++ ns) (bs ++ as) :=
  hr.append (reach.spelled_tail root.filtered h)

end Tail

namespace Load

/-- The label of the nodes to be loaded, if it names one. -/
def labelNames : Option String → List String
  | none => []
  | some label => if label = "" then [] else [label]

theorem spelled_nodePattern (label : Option String) :
    Spelled (nodePattern label) (labelNames label) [] := by
  cases label with
  | none => exact .phrase (by simp [nodePattern, phrases]) (by decide)
  | some label =>
    by_cases h : label = ""
    · simp only [nodePattern, labelNames, h, if_true]
      exact .phrase (by simp [phrases]) (by decide)
    · simp only [nodePattern, labelNames, h, if_false]
      have hopen := Spelled.name (s := "(n:") (by simp [phrases]) (by decide) label
      exact hopen.concat (by simp [phrases]) (by decide)

theorem spelled_rootByIds (label : Option String) (ids : List Value) :
    Spelled (rootByIds label ids).text (labelNames label)
      (keys (rootByIds label ids).parameters) := by
  have hm : Spelled ("MATCH " ++ nodePattern label) (labelNames label) [] :=
    (Spelled.phrase (by simp [phrases]) (by decide)).append (spelled_nodePattern label)
  unfold rootByIds
  split
  · exact hm.concat (by simp [phrases]) (by decide)
  · exact hm.concat_asking ["ids"] (by simp [phrases]) fun _ => rfl

theorem spelled_build {root : RootMatch} {ns as : List String} (h : Spelled root.text ns as)
    (depth : Int) (order : Option SortOrder) (page : Option Pagination) :
    Spelled (build root depth order page).statement (ns ++ sortNames order)
      (as ++ keys (pageParameters page)) := by
  unfold build
  exact Reach.spelled_request _ h (spelled_paging order page)

theorem spelled_one (id : Value) (depth : Int) :
    Spelled (one id depth).statement [] ["id"] := by
  have hroot : Spelled "MATCH (n) WHERE id(n) = \x7b id \x7d " [] ["id"] :=
    .asking (by simp [phrases]) fun _ => rfl
  exact @spelled_build ⟨_, [("id", id)], false⟩ [] ["id"] hroot depth none none

theorem spelled_everything : Spelled everything.statement [] [] :=
  Spelled.phrase (s := "MATCH p=()-->() RETURN p") (by simp [phrases]) (by decide)

theorem spelled_countNodes (labels : List String) :
    Spelled (countNodes labels).statement labels [] := by
  have hl : Spelled (String.join (labels.map fun label => ":" ++ quoted label))
      (labels.map fun label => label) [] :=
    .join_names fun label _ => .name (by simp [phrases]) (by decide) label
  rw [List.map_id'] at hl
  have hopen := (Spelled.phrase (s := "MATCH (n") (by simp [phrases]) (by decide)).append hl
  exact hopen.concat (by simp [phrases]) (by decide)

theorem spelled_countRelationships (start type finish : String) :
    Spelled (countRelationships start type finish).statement [start, type, finish] [] := by
  have hs := Spelled.name (s := "MATCH (:") (by simp [phrases]) (by decide) start
  have ht := hs.concat_name (t := ")-[r:") (by simp [phrases]) (by decide) type
  have hf := ht.concat_name (t := "]->(:") (by simp [phrases]) (by decide) finish
  exact hf.concat (by simp [phrases]) (by decide)

end Load

namespace Query

/-- The names that a query puts into its statement, in order. -/
def names : Query → List String
  | .byType label _ _ order _ => Load.labelNames label ++ sortNames order
  | .byProperties (some root) filters _ order _ =>
    (Layout.ofChain root filters).names ++ sortNames order
  | .countNodes labels => labels
  | .countRelationships start type finish => [start, type, finish]
  | _ => []

/-- The parameters of the ids that a query lists, if it lists any. -/
def idsParameters (ids : Value) : Entries String Value :=
  match Load.idsOf ids with
  | .ok (item :: items) => [("ids", .list (item :: items))]
  | _ => []

/-- The parameters that the statement of a query asks for, in order. -/
def asked : Query → List String
  | .one _ _ => ["id"]
  | .byIds ids _ => keys (idsParameters ids)
  | .byType _ ids _ _ page => keys (idsParameters ids) ++ keys (pageParameters page)
  | .byProperties (some root) filters _ _ page =>
    (Layout.ofChain root filters).asked ++ keys (pageParameters page)
  | _ => []

theorem spelled_byProperties {label : Option String} {filters : List Filter} {depth : Int}
    {order : Option SortOrder} {page : Option Pagination} {r : Request}
    (h : Load.byProperties label filters depth order page = .ok r) :
    Spelled r.statement (names (.byProperties label filters depth order page))
      (asked (.byProperties label filters depth order page)) := by
  obtain ⟨c, hc, hr⟩ := Outcome.bind_eq_ok.mp h
  obtain rfl := Outcome.pure_eq_ok.mp hr
  cases label with
  | none => cases hc
  | some root =>
    have hroot : Spelled c.text (Layout.ofChain root filters).names
        (Layout.ofChain root filters).asked := by
      rw [Composed.text_of_compose hc]
      exact (Layout.ofChain root filters).spelled_text
    exact Load.spelled_build hroot depth order page

theorem spelled_byType {label : Option String} {ids : Value} {items : List Value}
    (hi : Load.idsOf ids = .ok items) (depth : Int) (order : Option SortOrder)
    (page : Option Pagination) :
    Spelled (Load.byType label items depth order page).statement
      (Load.labelNames label ++ sortNames order)
      (keys (idsParameters ids) ++ keys (pageParameters page)) := by
  have hids : keys (idsParameters ids) = keys (Load.rootByIds label items).parameters := by
    unfold idsParameters
    rw [hi]
    cases items <;> rfl
  rw [hids]
  exact Load.spelled_build (Load.spelled_rootByIds label items) depth order page

theorem spelled_request {q : Query} {r : Request} (hq : ∀ kind given, q ≠ .statement kind given)
    (h : q.request = .ok r) : Spelled r.statement q.names q.asked := by
  cases q with
  | one id depth =>
    obtain rfl := Except.ok.inj h
    exact Load.spelled_one id depth
  | byIds ids depth =>
    obtain ⟨items, hi, hr⟩ := Outcome.bind_eq_ok.mp h
    obtain rfl := Outcome.pure_eq_ok.mp hr
    have hs : Spelled (Load.byIds items depth).statement [] (keys (idsParameters ids) ++ []) :=
      spelled_byType (Outcome.mapError_eq_ok.mp hi) depth none none
    rwa [List.append_nil] at hs
  | byType label ids depth order page =>
    obtain ⟨items, hi, hr⟩ := Outcome.bind_eq_ok.mp h
    obtain rfl := Outcome.pure_eq_ok.mp hr
    exact spelled_byType (Outcome.mapError_eq_ok.mp hi) depth order page
  | everything =>
    obtain rfl := Except.ok.inj h
    exact Load.spelled_everything
  | byProperties label filters depth order page =>
    exact spelled_byProperties (Outcome.mapError_eq_ok.mp h)
  | countNodes labels =>
    obtain rfl := Except.ok.inj h
    exact Load.spelled_countNodes labels
  | countRelationships start type finish =>
    obtain rfl := Except.ok.inj h
    exact Load.spelled_countRelationships start type finish
  | statement kind given => exact absurd rfl (hq kind given)

theorem built_request {q : Query} {r : Request} (hq : ∀ kind given, q ≠ .statement kind given)
    (h : q.request = .ok r) : Built r.statement q.names :=
  (spelled_request hq h).built

/-- The statement of a query is read to its end outside the names. The names read are those that the
query puts there, and all else are phrases, identifiers and numbers of hops. -/
theorem lex_statement {q : Query} {r : Request} (hq : ∀ kind given, q ≠ .statement kind given)
    (h : q.request = .ok r) :
    ∃ ts, lex r.statement.toList = some ts ∧ ts.filterMap Token.name? = q.names ∧
      ∃ ps : List Piece, r.statement = Piece.render ps ∧ ts = ps.flatMap Piece.tokens := by
  obtain ⟨ps, hr, hn⟩ := built_request hq h
  refine ⟨ps.flatMap Piece.tokens, ?_, ?_, ps, hr.symm, rfl⟩
  · rw [← hr]
    exact Piece.lex_render ps
  · rw [Piece.names_tokens, hn]

/-- A query whose names would end a name early, open a condition or say nothing at all. -/
def hostile : Query :=
  .byProperties (some "Per`son")
    [⟨"`", .text "` OR true //", .equal, .none, true, .property, .root⟩,
      ⟨"a`) RETURN n", .int 1, .greater, .and, false, .property,
        .node "``" "" " WHERE " .incoming⟩]
    2 (some [⟨.descending, ["", "``"]⟩]) none

theorem lex_hostile : ∃ r, hostile.request = .ok r ∧
    ∃ ts, lex r.statement.toList = some ts ∧ ts.filterMap Token.name? =
      ["Per`son", "`", "`_0", "", "a`) RETURN n", "``_a`) RETURN n_1", " WHERE ", "", "``"] := by
  obtain ⟨r, hr⟩ : ∃ r, hostile.request = .ok r := Outcome.eq_ok_of_isSome (by decide +kernel)
  obtain ⟨ts, hts, hnames, -⟩ := lex_statement (q := hostile) nofun hr
  refine ⟨r, hr, ts, hts, ?_⟩
  rw [hnames]
  decide +kernel

end Query

end CypherLink
