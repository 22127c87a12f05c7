import CypherLink.Load.Plan
import CypherLink.Proofs.Outcome

/-!
The ways of loading nodes. The match of the root nodes is written by the composer where there are
filters, and from templates of its own where there are none; without any filter both say the same.
Main statements: `Load.build_filtered`, `Load.text_rootByIds_eq_iff` and `Query.loads_agree`.
-/

namespace CypherLink

namespace Request

/-- The request that asks besides, row by row, from which nodes its paths start. -/
def askingIds (r : Request) : Request :=
  { r with kind := .graphRows, statement := r.statement ++ ", ID(n)", contents := ["row", "graph"] }

end Request

namespace Reach

theorem ofDepth_eq_nowhere {depth : Int} : ofDepth depth = .nowhere ↔ depth = 0 := by
  grind [ofDepth]

theorem tail_filtered {reach : Reach} (h : reach ≠ .nowhere) (paging : String) :
    reach.tail true paging = reach.tail false paging ++ ", ID(n)" := by
  cases reach with
  | nowhere => exact absurd rfl h
  | upTo hops => simp [tail, pattern?]
  | unbounded => simp [tail, pattern?]

theorem request_filtered (reach : Reach) (text : String) (parameters : Entries String Value)
    (paging : String) : reach.request ⟨text, parameters, true⟩ paging =
      if reach = .nowhere then reach.request ⟨text, parameters, false⟩ paging
      else (reach.request ⟨text, parameters, false⟩ paging).askingIds := by
  split
  · next h =>
    subst h
    rfl
  · next h =>
    have hkind : reach.kind true = .graphRows := by
      cases reach with
      | nowhere => exact absurd rfl h
      | _ => rfl
    rw [request, hkind, tail_filtered h, ← String.append_assoc]
    rfl

end Reach

namespace Load

/-- A filtered load asks for the ids of its root nodes unless it stops at them. -/
theorem build_filtered (text : String) (parameters : Entries String Value) (depth : Int)
    (order : Option SortOrder) (page : Option Pagination) :
    build ⟨text, parameters, true⟩ depth order page =
      if depth = 0 then build ⟨text, parameters, false⟩ depth order page
      else (build ⟨text, parameters, false⟩ depth order page).askingIds := by
  have h := Reach.request_filtered (Reach.ofDepth depth) text
    (Entries.putAll parameters (paging order page).2) (paging order page).1
  simp only [Reach.ofDepth_eq_nowhere] at h
  exact h

theorem statement_build (root : RootMatch) (depth : Int) (order : Option SortOrder)
    (page : Option Pagination) : (build root depth order page).statement =
      root.text ++ (Reach.ofDepth depth).tail root.filtered (paging order page).1 := rfl

theorem build_empty_order (root : RootMatch) (depth : Int) (page : Option Pagination) :
    build root depth (some []) page = build root depth none page := by
  rw [build, build, paging_empty_order]

theorem build_eq_iff {text text' : String} {parameters : Entries String Value} {filtered : Bool}
    {depth : Int} {order : Option SortOrder} {page : Option Pagination} :
    build ⟨text, parameters, filtered⟩ depth order page =
      build ⟨text', parameters, filtered⟩ depth order page ↔ text = text' := by
  refine ⟨fun h => ?_, fun h => by rw [h]⟩
  have hs := congrArg Request.statement h
  rwa [statement_build, statement_build, String.append_left_inj] at hs

theorem byProperties_nil (label : String) (depth : Int) (order : Option SortOrder)
    (page : Option Pagination) : byProperties (some label) [] depth order page =
      .ok (build ⟨Clause.node Clause.rootIdentifier label, [], true⟩ depth order page) := by
  rw [byProperties, composed, Composed.compose_nil]
  rfl

/-- The composer and the template write one match of a label, unless it is empty: then the template
leaves it out. -/
theorem text_rootByIds_eq_iff {label : String} :
    (rootByIds (some label) []).text = Clause.node Clause.rootIdentifier label ↔ label ≠ "" := by
  constructor
  · rintro h rfl
    simp [rootByIds, nodePattern, Clause.node, Clause.rootIdentifier, ← String.toList_inj] at h
  · intro h
    simp [rootByIds, nodePattern, h, Clause.node, Clause.rootIdentifier, ← String.toList_inj]

theorem idsOf_of_elements {ids : Value} (h : ids.elements = .ok []) : idsOf ids = .ok [] := by
  rw [idsOf, h]
  split <;> rfl

end Load

namespace Query

variable (depth : Int) (order : Option SortOrder) (page : Option Pagination)

theorem request_byType_of_empty {ids : Value} (h : ids.elements = .ok []) (label : Option String) :
    (byType label ids depth order page).request =
      .ok (Load.build (Load.rootByIds label []) depth order page) := by
  rw [request, Load.idsOf_of_elements h]
  rfl

theorem request_byType_empty_order (label : Option String) (ids : Value) :
    (byType label ids depth (some []) page).request =
      (byType label ids depth none page).request := by
  simp only [request, Load.byType, Load.build_empty_order]

theorem request_byProperties_empty_order (label : Option String) (filters : List Filter) :
    (byProperties label filters depth (some []) page).request =
      (byProperties label filters depth none page).request := by
  simp only [request, Load.byProperties, Load.build_empty_order]

/-- Loading by no filters and loading by label give the same parameters; where the label is not
empty, and only there, they give one request at depth zero and at any other depth requests that
differ in that the filtered one asks for ids. An empty collection of ids is as good as none, ids
alone are ids without a label, and an order without clauses is as good as none. -/
theorem loads_agree (label : String) :
    (∃ r s, (byType (some label) (.tuple []) depth order page).request = .ok r ∧
      (byProperties (some label) [] depth order page).request = .ok s ∧
      s.parameters = r.parameters ∧
      ((s = if depth = 0 then r else r.askingIds) ↔ label ≠ "")) ∧
    (∀ (label : Option String) (ids : Value), ids.elements = .ok [] →
      (byType label ids depth order page).request =
        (byType label (.tuple []) depth order page).request) ∧
    (∀ ids : Value, (byIds ids depth).request = (byType none ids depth none none).request) ∧
    (∀ (label : Option String) (ids : Value), (byType label ids depth (some []) page).request =
      (byType label ids depth none page).request) ∧
    ∀ (label : Option String) (filters : List Filter),
      (byProperties label filters depth (some []) page).request =
        (byProperties label filters depth none page).request := by
  have htuple : (Value.tuple []).elements = .ok [] := rfl
  refine ⟨?_, ?_, fun _ => rfl, request_byType_empty_order depth page,
    request_byProperties_empty_order depth page⟩
  · have hs : (byProperties (some label) [] depth order page).request = .ok _ :=
      congrArg (·.mapError BuildError.composition) (Load.byProperties_nil label depth order page)
    refine ⟨_, _, request_byType_of_empty depth order page htuple (some label), hs, rfl, ?_⟩
    rw [← Load.text_rootByIds_eq_iff, eq_comm (b := Clause.node _ _), ← Load.build_eq_iff,
      Load.build_filtered (Load.rootByIds (some label) []).text]
    rfl
  · intro label ids h
    rw [request_byType_of_empty depth order page h, request_byType_of_empty depth order page htuple]

theorem loads_of_quoted_agree : ∃ r s,
    (byType (some "Per`son") (.tuple []) (-1) (some []) none).request = .ok r ∧
      (byProperties (some "Per`son") [] (-1) (some []) none).request = .ok s ∧ s = r.askingIds ∧
      s.statement = "MATCH (n:`Per``son`) WITH n MATCH p=(n)-[*0..]-(m) RETURN p, ID(n)" ∧
      (Value.frozen []).elements = .ok [] ∧
      (byType none (.frozen []) (-1) (some []) none).request =
        (byType none (.tuple []) (-1) (some []) none).request := by
  obtain ⟨⟨r, s, hr, hs, -, hiff⟩, hempty, -⟩ := loads_agree (-1) (some []) none "Per`son"
  have hlabel : "Per`son" ≠ "" := by decide
  have hask : s = r.askingIds := hiff.mpr hlabel
  refine ⟨r, s, hr, hs, hask, ?_, rfl, hempty none (.frozen []) rfl⟩
  obtain rfl := Except.ok.inj hs
  rfl

end Query

end CypherLink
