import CypherLink.Proofs.Entries
import CypherLink.Proofs.Session.Shape

/-!
Results as tables. A part of a reply that names each of its columns once and has rows as long as they
are is laid out without loss: what stood in a row is read back from its columns. Main statements:
`ofColumns_names`, `result_table` and `results_lossless`.
-/

namespace CypherLink

open Entries (find?)

namespace Row

def named (m : Entries String Value) : Row := m.map fun e => (.text e.1, e.2)

theorem sameKey_text (a b : String) : (Value.text a).sameKey (.text b) = decide (a = b) := by
  simp [Value.sameKey, Value.agrees]

theorem put_named (m : Entries String Value) (k : String) (v : Value) :
    put (named m) (.text k) v = named (Entries.put m k v) := by
  induction m with
  | nil => rfl
  | cons e rest ih =>
    obtain ⟨k', w⟩ := e
    simp only [named, List.map_cons] at ih ⊢
    by_cases hk : k' = k
    · simp [put, Entries.put, sameKey_text, hk]
    · simp [put, Entries.put, sameKey_text, hk, ih]

theorem find?_named (m : Entries String Value) (k : String) :
    find? (named m) (.text k) = Entries.find? m k := by
  induction m with
  | nil => rfl
  | cons e rest ih =>
    obtain ⟨k', w⟩ := e
    simp only [named, List.map_cons] at ih ⊢
    by_cases hk : k' = k
    · simp [find?, Entries.find?, sameKey_text, hk]
    · simp [find?, Entries.find?, sameKey_text, hk, ih]

theorem foldlM_named {f : Row → Value × Value → Except AccessError Row}
    (hf : ∀ row name v, f row (.text name, v) = .ok (put row (.text name) v))
    (m new : Entries String Value) :
    (named new).foldlM f (named m) = .ok (named (Entries.putAll m new)) := by
  induction new generalizing m with
  | nil => rfl
  | cons e rest ih =>
    have hstep : f (named m) (.text e.1, e.2) = .ok (named (Entries.put m e.1 e.2)) := by
      rw [hf, put_named]
    have hcons : named (e :: rest) = (.text e.1, e.2) :: named rest := rfl
    rw [hcons, List.foldlM_cons, hstep]
    exact ih (Entries.put m e.1 e.2)

-- a name is always taken for a key, so laying out a row cannot fail
theorem ofColumns_names (names : List String) (values : List Value) :
    ofColumns (names.map .text) values = .ok (named (Entries.putAll [] (names.zip values))) := by
  have hzip : (names.map Value.text).zip values = named (names.zip values) := by
    simp [named, List.zip_map_left]
  unfold ofColumns
  rw [hzip]
  apply foldlM_named (m := [])
  intro row name v
  rfl

section Columns

variable {names : List String} {values : List Value} (hn : names.Nodup)
  (hl : values.length = names.length)

include hl in
theorem keys_zip : Entries.keys (names.zip values) = names := by
  apply List.map_fst_zip
  omega

include hn hl

theorem ofColumns_distinct :
    ofColumns (names.map .text) values = .ok (named (names.zip values)) := by
  rw [ofColumns_names, Entries.putAll_of_nodup]
  · rfl
  · rw [List.nil_append, keys_zip hl]
    exact hn

theorem values_named :
    names.map (fun name => find? (named (names.zip values)) (.text name)) = values.map some := by
  apply List.ext_getElem
  · simp [hl]
  · intro k hk hv
    simp only [List.length_map] at hk hv
    simp only [List.getElem_map, find?_named]
    apply Entries.find?_of_mem
    · rw [keys_zip hl]
      exact hn
    · have hz : k < (names.zip values).length := by simp; omega
      have hmem : (names.zip values)[k] ∈ names.zip values := List.getElem_mem hz
      simpa using hmem

end Columns

end Row

namespace Reply

def row? (d : Entries String Value) : Option (List Value) :=
  match find? d "row" with
  | some (.list values) => some values
  | _ => none

def graph? (d : Entries String Value) : Option Value := find? d "graph"

theorem getElem?_filterMap_of_isSome {α β : Type} {f : α → Option β} {xs : List α}
    (h : ∀ x ∈ xs, (f x).isSome) (k : Nat) : (xs.filterMap f)[k]? = xs[k]?.bind f := by
  induction xs generalizing k with
  | nil => rfl
  | cons x xs ih =>
    rw [List.forall_mem_cons] at h
    obtain ⟨y, hy⟩ := Option.isSome_iff_exists.mp h.1
    rw [List.filterMap_cons_some hy]
    cases k with
    | zero => simp [hy]
    | succ k => simp [ih h.2]

/-- What a reply says of one statement: distinct columns, and data whose rows are as long as they. -/
structure Table where
  entries : Entries String Value
  names : List String
  data : List (Entries String Value)
  columns_eq : find? entries "columns" = some (.list (names.map .text))
  data_eq : find? entries "data" = some (.list (data.map .map))
  distinct : names.Nodup
  fits : ∀ d ∈ data, ∀ row, find? d "row" = some row →
    ∃ values, row = .list values ∧ values.length = names.length

namespace Table

variable (t : Table)

def rows : List (List Value) := t.data.filterMap row?

def graphs : List Value := t.data.filterMap graph?

def laid (values : List Value) : Row := Row.named (t.names.zip values)

def result : QueryResult where
  columns := t.names.map .text
  rows := t.rows.map t.laid
  graphs := t.graphs
  stats := (find? t.entries "stats").getD .null

variable {t} {d : Entries String Value} {values : List Value}

theorem row_of_fits (hd : d ∈ t.data) :
    (find? d "row" = none ∧ row? d = none) ∨ ∃ values, find? d "row" = some (.list values) ∧
      row? d = some values ∧ values.length = t.names.length := by
  cases hrow : find? d "row" with
  | none => simp [row?, hrow]
  | some row =>
    obtain ⟨values, rfl, hl⟩ := t.fits d hd row hrow
    exact .inr ⟨values, rfl, by simp [row?, hrow], hl⟩

theorem length_of_mem_rows (h : values ∈ t.rows) : values.length = t.names.length := by
  obtain ⟨d, hd, hrow⟩ := List.mem_filterMap.mp h
  obtain ⟨-, hnone⟩ | ⟨values', -, hsome, hl⟩ := row_of_fits hd
  · simp [hnone] at hrow
  · obtain rfl := Option.some.inj (hsome.symm.trans hrow)
    exact hl

theorem datum_table (hd : d ∈ t.data) (r : QueryResult) :
    datum (t.names.map .text) r (.map d) = .ok
      { r with
        rows := r.rows ++ (row? d).toList.map t.laid
        graphs := r.graphs ++ (graph? d).toList } := by
  have hgraph : ∀ r : QueryResult,
      (do
        if ← (Value.map d).holds "graph" then
          return { r with graphs := r.graphs ++ [← (Value.map d).member "graph"] }
        else return r : Except AccessError QueryResult) =
      .ok { r with graphs := r.graphs ++ (graph? d).toList } := by
    intro r
    cases hg : find? d "graph" with
    | none => simp [Value.holds, graph?, hg, pure, Except.pure, bind, Except.bind]
    | some g =>
      simp [Value.holds, Value.member, graph?, hg, pure, Except.pure, bind, Except.bind]
  obtain ⟨hnone, hrow⟩ | ⟨values, hsome, hrow, hl⟩ := row_of_fits hd
  · have hholds : (Value.map d).holds "row" = .ok false := by simp [Value.holds, hnone]
    unfold datum
    rw [hholds, hrow]
    simp only [Option.toList_none, List.map_nil, List.append_nil]
    exact hgraph r
  · have hholds : (Value.map d).holds "row" = .ok true := by simp [Value.holds, hsome]
    have hmember : (Value.map d).member "row" = .ok (.list values) := Value.member_map _ _ _ hsome
    have hlaid := Row.ofColumns_distinct t.distinct hl
    unfold datum
    simp only [hholds, hmember, hrow, Value.elements, hlaid, bind, Except.bind, pure, Except.pure,
      if_true]
    exact hgraph _

theorem data_table {data : List (Entries String Value)} (h : ∀ d ∈ data, d ∈ t.data)
    (r : QueryResult) :
    (data.map Value.map).foldlM (datum (t.names.map .text)) r = .ok
      { r with
        rows := r.rows ++ (data.filterMap row?).map t.laid
        graphs := r.graphs ++ data.filterMap graph? } := by
  induction data generalizing r with
  | nil => simp [pure, Except.pure]
  | cons d data ih =>
    rw [List.forall_mem_cons] at h
    rw [List.map_cons, List.foldlM_cons, datum_table h.1]
    refine (ih h.2 _).trans ?_
    cases hr : row? d <;> cases hg : graph? d <;> simp [hr, hg]

theorem result_table (t : Table) : Reply.result (.map t.entries) = .ok t.result := by
  have hdata := data_table (t := t) (fun _ hd => hd)
    { columns := t.names.map .text, stats := (find? t.entries "stats").getD .null }
  unfold Reply.result
  simp only [Value.member?, t.columns_eq, t.data_eq, Option.getD_some, Value.elements, bind,
    Except.bind]
  simpa [result, rows, graphs] using hdata

theorem singleValue_table (t : Table) :
    t.result.singleValue = .ok ((t.rows.head?.bind List.head?).getD .null) := by
  unfold QueryResult.singleValue result
  cases hrows : t.rows with
  | nil => rfl
  | cons values rest =>
    have hl : values.length = t.names.length := length_of_mem_rows (by simp [hrows])
    cases hnames : t.names with
    | nil =>
      rw [hnames, List.length_nil, List.length_eq_zero_iff] at hl
      simp [hl]
    | cons name names =>
      rw [hnames, List.length_cons] at hl
      obtain ⟨v, vs, rfl⟩ := List.exists_cons_of_length_eq_add_one hl
      have hfind := Row.find?_named (t.names.zip (v :: vs)) name
      simp [laid, hnames, Entries.find?, Value.unhashable?] at hfind ⊢
      simp [hfind]

end Table

theorem mapM_tables (tables : List Table) :
    (tables.map fun t => Value.map t.entries).mapM Reply.result = .ok (tables.map Table.result) := by
  induction tables with
  | nil => rfl
  | cons t tables ih =>
    rw [List.map_cons, List.mapM_cons, Table.result_table, ih]
    rfl

theorem results_tables {es : Entries String Value} {tables : List Table}
    (hclear : ∀ errors, find? es "errors" = some errors → errors.truthy = false)
    (hresults : find? es "results" = some (.list (tables.map fun t => .map t.entries))) :
    results (.map es) = .ok (tables.map Table.result) := by
  unfold results
  rw [checkErrors_map.mpr hclear]
  simp only [Value.member?, hresults, Option.getD_some, Value.elements, bind, Except.bind]
  rw [mapM_tables]
  rfl

/-- A reply without faults is read without loss, each of its results from its own part alone: what
stood in a row is read back from its columns, the row and the graph of one datum stay side by side
where every datum has both, and the single value is the first of the first row. -/
theorem results_lossless {es : Entries String Value} {tables : List Table}
    (hclear : ∀ errors, find? es "errors" = some errors → errors.truthy = false)
    (hresults : find? es "results" = some (.list (tables.map fun t => .map t.entries))) :
    results (.map es) = .ok (tables.map Table.result) ∧
      ∀ t ∈ tables,
        (∀ values ∈ t.rows,
          t.names.map (fun name => (t.laid values).find? (.text name)) = values.map some) ∧
        ((∀ d ∈ t.data, (row? d).isSome ∧ (graph? d).isSome) →
          ∀ (k : Nat) (d : Entries String Value), t.data[k]? = some d →
            t.result.rows[k]? = (row? d).map t.laid ∧ t.result.graphs[k]? = graph? d) ∧
        t.result.singleValue = .ok ((t.rows.head?.bind List.head?).getD .null) := by
  refine ⟨results_tables hclear hresults, fun t _ => ⟨?_, ?_, t.singleValue_table⟩⟩
  · intro values hvalues
    apply Row.values_named t.distinct
    exact Table.length_of_mem_rows hvalues
  · intro hwhole k d hk
    have hrows := getElem?_filterMap_of_isSome (fun d hd => (hwhole d hd).1) k
    have hgraphs := getElem?_filterMap_of_isSome (fun d hd => (hwhole d hd).2) k
    rw [hk, Option.bind_some] at hrows hgraphs
    constructor
    · simp [Table.result, Table.rows, hrows]
    · exact hgraphs

-- one datum has no row and one has no graph
def people : Table where
  entries := [("columns", .list [.text "p", .text "ID(n)"]),
    ("data", .list [.map [("graph", .text "g")], .map [("row", .list [.text "Tom", .int 5])]])]
  names := ["p", "ID(n)"]
  data := [[("graph", .text "g")], [("row", .list [.text "Tom", .int 5])]]
  columns_eq := rfl
  data_eq := rfl
  distinct := by decide
  fits := by
    intro d hd row hrow
    simp only [List.mem_cons, List.not_mem_nil, or_false] at hd
    obtain rfl | rfl := hd
    · exact nomatch hrow
    · exact ⟨_, (Option.some.inj hrow).symm, rfl⟩

-- a row without columns
def nameless : Table where
  entries := [("columns", .list []), ("data", .list [.map [("row", .list [])]]), ("stats", .int 1)]
  names := []
  data := [[("row", .list [])]]
  columns_eq := rfl
  data_eq := rfl
  distinct := by decide
  fits := by
    intro d hd row hrow
    obtain rfl := List.mem_singleton.mp hd
    exact ⟨_, (Option.some.inj hrow).symm, rfl⟩

theorem people_read_lossless :
    let es : Entries String Value :=
      [("results", .list [.map people.entries, .map nameless.entries]), ("errors", .list [])]
    (∀ errors, find? es "errors" = some errors → errors.truthy = false) ∧
      results (.map es) = .ok [people.result, nameless.result] ∧
      people.result.rows = [[(.text "p", .text "Tom"), (.text "ID(n)", .int 5)]] ∧
      people.result.graphs = [.text "g"] ∧ people.result.singleValue = .ok (.text "Tom") ∧
      nameless.result.rows = [[]] ∧ nameless.result.singleValue = .ok .null := by
  intro es
  have hclear : ∀ errors, find? es "errors" = some errors → errors.truthy = false := by
    intro errors herrors
    obtain rfl := Option.some.inj herrors
    rfl
  have hresults : find? es "results" =
      some (.list ([people, nameless].map fun t => .map t.entries)) := rfl
  obtain ⟨hread, htables⟩ := results_lossless hclear hresults
  obtain ⟨-, -, hpeople⟩ := htables people (by simp)
  obtain ⟨-, -, hnameless⟩ := htables nameless (by simp)
  exact ⟨hclear, hread, rfl, rfl, hpeople, rfl, hnameless⟩

end Reply

end CypherLink
