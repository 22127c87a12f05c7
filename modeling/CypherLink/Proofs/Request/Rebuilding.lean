import CypherLink.Proofs.Entries
import CypherLink.Proofs.Outcome
import CypherLink.Request.Fields

/-!
Payloads and the requests that are made of them. What travels holds neither points nor, among the
parameters themselves, tuples and sets, so a request made of a payload has that payload again. Main
statements: `Value.expanded_of_settled`, `Request.ofFields_entries` and `Request.payload_rebuilt`.
-/

namespace CypherLink

open Entries (mapValues)

namespace Value

/-- The values that a value is made of. -/
def parts : Value → List Value
  | .list items | .tuple items | .set items | .frozen items => items
  | .map entries => Entries.values entries
  | .point latitude longitude distance => [latitude, longitude, distance]
  | _ => []

theorem sizeOf_lt_of_mem_parts {v w : Value} (h : w ∈ v.parts) : sizeOf w < sizeOf v := by
  cases v with
  | list items | tuple items | set items | frozen items =>
    have hitems : sizeOf w < sizeOf items := List.sizeOf_lt_of_mem h
    simp only [list.sizeOf_spec, tuple.sizeOf_spec, set.sizeOf_spec, frozen.sizeOf_spec]
    omega
  | map entries =>
    obtain ⟨e, he, rfl⟩ := List.mem_map.mp h
    have hentries := List.sizeOf_lt_of_mem he
    have hpair : sizeOf e = 1 + sizeOf e.1 + sizeOf e.2 := rfl
    simp only [map.sizeOf_spec]
    omega
  | point a b c =>
    simp only [parts, List.mem_cons, List.not_mem_nil, or_false] at h
    simp only [point.sizeOf_spec]
    rcases h with rfl | rfl | rfl <;> omega
  | _ => exact absurd h List.not_mem_nil

theorem parts_induction {P : Value → Prop} (h : ∀ v, (∀ w ∈ v.parts, P w) → P v) (v : Value) :
    P v :=
  h v fun w _ => parts_induction h w
termination_by sizeOf v
decreasing_by exact sizeOf_lt_of_mem_parts ‹_›

mutual

/-- Whether a value and whatever is in it pass a test. -/
def everywhere (p : Value → Bool) : Value → Bool
  | .list items => p (.list items) && everywhereIn p items
  | .tuple items => p (.tuple items) && everywhereIn p items
  | .set items => p (.set items) && everywhereIn p items
  | .frozen items => p (.frozen items) && everywhereIn p items
  | .map entries => p (.map entries) && everywhereUnder p entries
  | .point a b c => p (.point a b c) && (everywhere p a && everywhere p b && everywhere p c)
  | v => p v

def everywhereIn (p : Value → Bool) : List Value → Bool
  | [] => true
  | v :: vs => everywhere p v && everywhereIn p vs

def everywhereUnder (p : Value → Bool) : List (String × Value) → Bool
  | [] => true
  | (_, v) :: rest => everywhere p v && everywhereUnder p rest

end

mutual

/-- The value with a map in the place of each point. -/
def mapped : Value → Value
  | .list items => .list (mappedAll items)
  | .tuple items => .tuple (mappedAll items)
  | .set items => .set (mappedAll items)
  | .frozen items => .frozen (mappedAll items)
  | .map entries => .map (mappedUnder entries)
  | .point latitude longitude distance =>
    .map [("latitude", mapped latitude), ("longitude", mapped longitude),
      ("distance", mapped distance)]
  | v => v

def mappedAll : List Value → List Value
  | [] => []
  | v :: vs => mapped v :: mappedAll vs

def mappedUnder : List (String × Value) → List (String × Value)
  | [] => []
  | (k, v) :: rest => (k, mapped v) :: mappedUnder rest

end

def pointFree (v : Value) : Bool := v.everywhere fun w => w.kind ≠ .point

/-- No set in the value has a point in it. -/
def settled (v : Value) : Bool := v.everywhere fun w => (w.setItems?.getD []).all pointFree

section Lists

theorem everywhereIn_iff {p : Value → Bool} {vs : List Value} :
    everywhereIn p vs = true ↔ ∀ v ∈ vs, v.everywhere p = true := by
  induction vs with
  | nil => exact ⟨nofun, fun _ => rfl⟩
  | cons v vs ih => rw [everywhereIn, Bool.and_eq_true, ih, List.forall_mem_cons]

theorem everywhereUnder_iff {p : Value → Bool} {entries : List (String × Value)} :
    everywhereUnder p entries = true ↔ ∀ v ∈ Entries.values entries, v.everywhere p = true := by
  induction entries with
  | nil => exact ⟨nofun, fun _ => rfl⟩
  | cons e rest ih =>
    rw [everywhereUnder, Bool.and_eq_true, ih, Entries.values, Entries.values, List.map_cons,
      List.forall_mem_cons]

theorem mappedAll_eq_map (vs : List Value) : mappedAll vs = vs.map mapped := by
  induction vs with
  | nil => rfl
  | cons v vs ih => exact congrArg (v.mapped :: ·) ih

theorem mappedUnder_eq (entries : List (String × Value)) :
    mappedUnder entries = mapValues mapped entries := by
  induction entries with
  | nil => rfl
  | cons e rest ih => exact congrArg ((e.1, e.2.mapped) :: ·) ih

theorem expandedAll_eq_ok {vs : List Value} (h : ∀ v ∈ vs, v.expanded = .ok v.mapped) :
    expandedAll vs = .ok (vs.map mapped) := by
  induction vs with
  | nil => rfl
  | cons v vs ih =>
    obtain ⟨hv, hvs⟩ := List.forall_mem_cons.mp h
    rw [expandedAll, hv, ih hvs]
    rfl

theorem expandedEntries_eq_ok {entries : List (String × Value)}
    (h : ∀ v ∈ Entries.values entries, v.expanded = .ok v.mapped) :
    expandedEntries entries = .ok (mapValues mapped entries) := by
  induction entries with
  | nil => rfl
  | cons e rest ih =>
    obtain ⟨hv, hrest⟩ := List.forall_mem_cons.mp h
    rw [expandedEntries, hv, ih hrest]
    rfl

end Lists

theorem everywhere_iff {p : Value → Bool} {v : Value} :
    v.everywhere p = true ↔ p v = true ∧ ∀ w ∈ v.parts, w.everywhere p = true := by
  cases v with
  | list items | tuple items | set items | frozen items =>
    rw [everywhere, Bool.and_eq_true, everywhereIn_iff]
    rfl
  | map entries =>
    rw [everywhere, Bool.and_eq_true, everywhereUnder_iff]
    rfl
  | point a b c => simp [everywhere, parts, and_assoc]
  | _ => simp [everywhere, parts]

theorem pointFree_iff {v : Value} :
    v.pointFree = true ↔ v.kind ≠ .point ∧ ∀ w ∈ v.parts, w.pointFree = true := by
  rw [pointFree, everywhere_iff, decide_eq_true_iff]
  rfl

theorem settled_iff {v : Value} :
    v.settled = true ↔ (∀ w ∈ v.setItems?.getD [], w.pointFree = true) ∧
      ∀ w ∈ v.parts, w.settled = true := by
  rw [settled, everywhere_iff, List.all_eq_true]
  rfl

theorem settled_of_pointFree {v : Value} (h : v.pointFree = true) : v.settled = true := by
  induction v using parts_induction with
  | h v ih =>
    obtain ⟨-, hparts⟩ := pointFree_iff.mp h
    refine settled_iff.mpr ⟨?_, fun w hw => ih w hw (hparts w hw)⟩
    cases v with
    | set items | frozen items => exact hparts
    | _ => exact nofun

theorem mapped_of_pointFree {v : Value} (h : v.pointFree = true) : v.mapped = v := by
  induction v using parts_induction with
  | h v ih =>
    obtain ⟨hkind, hparts⟩ := pointFree_iff.mp h
    have hsame : ∀ w ∈ v.parts, w.mapped = w := fun w hw => ih w hw (hparts w hw)
    cases v with
    | list items | tuple items | set items | frozen items =>
      have hitems : items.map mapped = items := (List.map_congr_left hsame).trans (List.map_id _)
      rw [mapped, mappedAll_eq_map, hitems]
    | map entries => rw [mapped, mappedUnder_eq, Entries.mapValues_of_fixed hsame]
    | point a b c => exact absurd rfl hkind
    | _ => rfl

theorem kind_mapped (v : Value) : v.mapped.kind ≠ .point := by
  cases v <;> simp [mapped, kind]

theorem parts_mapped (v : Value) : v.mapped.parts = v.parts.map mapped := by
  cases v with
  | list items | tuple items | set items | frozen items => exact mappedAll_eq_map items
  | map entries =>
    rw [mapped, mappedUnder_eq, parts, parts, Entries.values, Entries.values, mapValues,
      List.map_map, List.map_map]
    rfl
  | _ => rfl

theorem pointFree_mapped (v : Value) : v.mapped.pointFree = true := by
  induction v using parts_induction with
  | h v ih =>
    refine pointFree_iff.mpr ⟨v.kind_mapped, ?_⟩
    rw [parts_mapped]
    exact List.forall_mem_map.mpr ih

theorem holdsPoint_of_pointFree {vs : List Value} (h : ∀ v ∈ vs, v.pointFree = true) :
    holdsPoint vs = false := by
  fun_induction holdsPoint vs with
  | case1 => rfl
  | case2 a b c vs => exact absurd rfl (pointFree_iff.mp (h _ List.mem_cons_self)).1
  | case3 vs items hitems hvs =>
    obtain ⟨hv, hrest⟩ := List.forall_mem_cons.mp h
    rw [hitems (pointFree_iff.mp hv).2, hvs hrest]
    rfl
  | case4 v vs _ _ hvs => exact hvs (List.forall_mem_cons.mp h).2

/-- Points can be replaced wherever no set has one in it. -/
theorem expanded_of_settled {v : Value} (h : v.settled = true) : v.expanded = .ok v.mapped := by
  induction v using parts_induction with
  | h v ih =>
    obtain ⟨hset, hparts⟩ := settled_iff.mp h
    have hexpanded : ∀ w ∈ v.parts, w.expanded = .ok w.mapped := fun w hw => ih w hw (hparts w hw)
    cases v with
    | list items | tuple items =>
      rw [expanded, @expandedAll_eq_ok items hexpanded, mapped, mappedAll_eq_map]
      rfl
    | set items | frozen items =>
      rw [expanded, @holdsPoint_of_pointFree items hset, @expandedAll_eq_ok items hexpanded, mapped,
        mappedAll_eq_map]
      rfl
    | map entries =>
      rw [expanded, @expandedEntries_eq_ok entries hexpanded, mapped, mappedUnder_eq]
      rfl
    | point a b c =>
      simp only [parts, List.forall_mem_cons] at hexpanded
      obtain ⟨ha, hb, hc, -⟩ := hexpanded
      rw [expanded, ha, hb, hc]
      rfl
    | _ => rfl

/-- What travels in the place of a parameter. -/
def travelling (v : Value) : Value :=
  match v.collection? with
  | some items => .list (items.map mapped)
  | none => v.mapped

theorem mapped_asParameter (v : Value) : v.asParameter.mapped = v.travelling := by
  cases v with
  | tuple items | set items | frozen items => exact congrArg list (mappedAll_eq_map items)
  | _ => rfl

theorem asParameter_travelling (v : Value) : v.travelling.asParameter = v.travelling := by
  cases v <;> rfl

theorem pointFree_travelling (v : Value) : v.travelling.pointFree = true := by
  rw [← mapped_asParameter]
  exact v.asParameter.pointFree_mapped

theorem asTexts_texts (field : String) (ts : List String) :
    (list (ts.map .text)).asTexts field = .ok ts := by
  have hfaults : ((ts.map text).zipIdx.filter fun e => e.1.kind ≠ .text) = [] := by
    refine List.filter_eq_nil_iff.mpr fun e he => ?_
    obtain ⟨t, -, ht⟩ := List.mem_map.mp (List.fst_mem_of_mem_zipIdx he)
    simp [← ht, kind]
  simp only [asTexts, hfaults, List.map_nil, List.isEmpty_nil, if_true, List.filterMap_map]
  exact congrArg Except.ok List.filterMap_some

end Value

/-- The fields of a payload, under the names by which they travel. -/
def Payload.entries (p : Payload) : Entries String Value :=
  [("statement", .text p.statement), ("parameters", .map p.parameters),
    ("resultDataContents", .list (p.contents.map .text)), ("includeStats", .bool p.includeStats)]

namespace Request

theorem ofFields_entries (kind : RequestKind) (p : Payload) : ofFields kind p.entries =
    .ok (withContents kind p.statement p.parameters p.contents p.includeStats) := by
  have hparameters : parametersOf p.entries = .ok p.parameters := rfl
  have hcontents : given? p.entries ["resultDataContents", "result_data_contents"] =
      some (.list (p.contents.map .text)) := rfl
  rw [ofFields, hparameters, hcontents]
  simp only [Value.asTexts_texts]
  rfl

theorem parameters_of_ofFields {kind : RequestKind} {fields given : Entries String Value}
    {r : Request} (h : ofFields kind fields = .ok r) (hg : parametersOf fields = .ok given) :
    r.parameters = mapValues Value.asParameter given := by
  rw [ofFields, hg] at h
  obtain ⟨_, hp, h⟩ := Outcome.bind_eq_ok.mp h
  obtain rfl := Except.ok.inj hp
  extract_lets statement contents includeStats at h
  clear_value statement contents includeStats
  split at h
  · obtain rfl := Outcome.pure_eq_ok.mp h
    rfl
  · cases h

theorem payload_of_settled {r : Request}
    (h : ∀ v ∈ Entries.values r.parameters, v.settled = true) : r.payload =
      .ok ⟨r.statement, mapValues Value.mapped r.parameters, r.contents, r.includeStats⟩ := by
  rw [payload, Value.expandedEntries_eq_ok fun v hv => Value.expanded_of_settled (h v hv)]
  rfl

/-- A request that is made of what travels has nothing in it to be replaced. -/
theorem payload_withContents (kind : RequestKind) {p : Payload}
    (h : ∀ v ∈ Entries.values p.parameters, ∃ w : Value, w.travelling = v) :
    (withContents kind p.statement p.parameters p.contents p.includeStats).payload = .ok p := by
  have hlists : mapValues Value.asParameter p.parameters = p.parameters := by
    refine Entries.mapValues_of_fixed fun v hv => ?_
    obtain ⟨w, rfl⟩ := h v hv
    exact w.asParameter_travelling
  have hfree : ∀ v ∈ Entries.values p.parameters, v.pointFree = true := by
    intro v hv
    obtain ⟨w, rfl⟩ := h v hv
    exact w.pointFree_travelling
  have hmaps : mapValues Value.mapped p.parameters = p.parameters :=
    Entries.mapValues_of_fixed fun v hv => Value.mapped_of_pointFree (hfree v hv)
  have hparameters : (withContents kind p.statement p.parameters p.contents
      p.includeStats).parameters = p.parameters := hlists
  rw [payload_of_settled, hparameters, hmaps]
  · rfl
  · rw [hparameters]
    exact fun v hv => Value.settled_of_pointFree (hfree v hv)

/-- A request whose sets, those among the parameters themselves apart, have no points in them has a
payload, and a request of its kind that is made of that payload has it too. Its parameters are those
given, in their order: tuples and sets among them have become lists with the same elements, points
have become maps, and nothing else has changed. -/
theorem payload_rebuilt {kind : RequestKind} {fields given : Entries String Value} {r : Request}
    (h : ofFields kind fields = .ok r) (hg : parametersOf fields = .ok given)
    (hs : ∀ e ∈ given, e.2.asParameter.settled = true) :
    ∃ p, r.payload = .ok p ∧
      (∃ entries r', p.toValue = .map entries ∧ ofFields kind entries = .ok r' ∧
        r'.payload = .ok p) ∧
      Entries.keys p.parameters = Entries.keys given ∧
      p.parameters = mapValues Value.travelling given ∧
      ∀ e ∈ given, e.2.collection? = none → e.2.pointFree = true → e ∈ p.parameters := by
  have hparameters : r.parameters = mapValues Value.asParameter given := parameters_of_ofFields h hg
  have hsettled : ∀ v ∈ Entries.values r.parameters, v.settled = true := by
    rw [hparameters, Entries.values, mapValues, List.map_map]
    exact List.forall_mem_map.mpr hs
  have htravelling : mapValues Value.mapped r.parameters = mapValues Value.travelling given := by
    rw [hparameters, mapValues, mapValues, List.map_map]
    exact List.map_congr_left fun e _ => by simp [Value.mapped_asParameter]
  refine ⟨_, payload_of_settled hsettled, ⟨_, _, rfl, ofFields_entries kind _, ?_⟩, ?_, htravelling,
    ?_⟩
  · refine payload_withContents kind fun v hv => ?_
    rw [htravelling] at hv
    obtain ⟨e, he, rfl⟩ := List.mem_map.mp hv
    obtain ⟨e, -, rfl⟩ := List.mem_map.mp he
    exact ⟨e.2, rfl⟩
  · rw [htravelling, Entries.keys_mapValues]
  · intro e he hcollection hfree
    rw [htravelling]
    refine List.mem_map.mpr ⟨e, he, ?_⟩
    rw [Value.travelling, hcollection, Value.mapped_of_pointFree hfree]

/-- Points in a set and in tuples, and a set in a list: what travels is nested, too. -/
def nested : Entries String Value :=
  [("near", .set [.point (.int 57) (.int 24) (.int 5)]),
    ("path", .tuple [.tuple [.int 1, .point (.int 57) (.int 24) (.int 5)]]),
    ("tags", .list [.set [.frozen [.tuple [.int 1]]], .null])]

def fieldsOfNested : Entries String Value :=
  [("statement", .text "RETURN 1"), ("parameters", .map nested),
    ("resultDataContents", .tuple [.text "row"]), ("includeStats", .int 1)]

theorem payload_of_nested_rebuilt : ∃ r p,
    ofFields .graphRows fieldsOfNested = .ok r ∧ parametersOf fieldsOfNested = .ok nested ∧
    (∀ e ∈ nested, e.2.asParameter.settled = true) ∧ r.payload = .ok p ∧
    (∃ entries r', p.toValue = .map entries ∧ ofFields .graphRows entries = .ok r' ∧
      r'.payload = .ok p) ∧
    Entries.keys p.parameters = ["near", "path", "tags"] ∧
    ("tags", .list [.set [.frozen [.tuple [.int 1]]], .null]) ∈ p.parameters := by
  have hsettled : ∀ e ∈ nested, e.2.asParameter.settled = true := by decide
  have hr : ofFields .graphRows fieldsOfNested =
      .ok (withContents .graphRows "RETURN 1" nested ["row"] true) := rfl
  obtain ⟨p, hp, hrebuilt, hkeys, -, hsame⟩ := payload_rebuilt hr rfl hsettled
  exact ⟨_, p, hr, rfl, hsettled, hp, hrebuilt, hkeys,
    hsame _ (.tail _ (.tail _ (.head _))) rfl rfl⟩

end Request

end CypherLink
