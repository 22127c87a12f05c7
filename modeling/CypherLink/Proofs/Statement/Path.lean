import CypherLink.Proofs.Statement.Query

/-!
The paths that a statement matches. A reader of the words of a statement finds the path of its depth
once, behind the order and the page, and no other behind the match of the root nodes; so the depth
can be told from the statement. Main statements: `paths_append`, `exists_lexes_tail`,
`request_of_rootMatch` and `paths_of_request`.
-/

namespace CypherLink

open Name (quoted)

def Token.chars : Token → List Char
  | .outside c => [c]
  | .name text => (quoted text).toList

/-- What stands between the blanks of a statement. A blank inside a name does not count. -/
def words : List Token → List (List Token)
  | [] => [[]]
  | t :: ts =>
    if t = .outside ' ' then [] :: words ts
    else
      match words ts with
      | [] => [[t]]
      | w :: ws => (t :: w) :: ws

/-- The words that draw a relationship outside their names. -/
def paths (ts : List Token) : List String :=
  ((words ts).filter fun w => w.contains (.outside '-')).map fun w =>
    String.ofList (w.flatMap Token.chars)

section Words

variable {ts us : List Token}

theorem words_ne_nil (ts : List Token) : words ts ≠ [] := by
  cases ts with
  | nil => exact List.cons_ne_nil _ _
  | cons t ts =>
    rw [words]
    split
    · exact List.cons_ne_nil _ _
    · split <;> exact List.cons_ne_nil _ _

theorem words_append (ts us : List Token) :
    words (ts ++ .outside ' ' :: us) = words ts ++ words us := by
  induction ts with
  | nil => rfl
  | cons t ts ih =>
    rw [List.cons_append, words, words, ih]
    split
    · rfl
    · obtain ⟨w, ws, hw⟩ := List.exists_cons_of_ne_nil (words_ne_nil ts)
      simp only [hw, List.cons_append]

theorem mem_of_mem_words {w : List Token} {t : Token} (hw : w ∈ words ts) (ht : t ∈ w) :
    t ∈ ts := by
  induction ts generalizing w with
  | nil =>
    obtain rfl := List.mem_singleton.mp hw
    exact ht
  | cons u ts ih =>
    rw [words] at hw
    split at hw
    · rcases List.mem_cons.mp hw with rfl | hw
      · exact absurd ht List.not_mem_nil
      · exact List.mem_cons_of_mem _ (ih hw ht)
    · obtain ⟨v, vs, hv⟩ := List.exists_cons_of_ne_nil (words_ne_nil ts)
      rw [hv] at hw ih
      rcases List.mem_cons.mp hw with rfl | hw
      · rcases List.mem_cons.mp ht with rfl | ht
        · exact List.mem_cons_self
        · exact List.mem_cons_of_mem _ (ih List.mem_cons_self ht)
      · exact List.mem_cons_of_mem _ (ih (List.mem_cons_of_mem _ hw) ht)

theorem words_of_notMem (h : .outside ' ' ∉ ts) : words ts = [ts] := by
  induction ts with
  | nil => rfl
  | cons t ts ih =>
    simp only [List.mem_cons, not_or] at h
    rw [words, if_neg (Ne.symm h.1), ih h.2]

theorem paths_append (ts us : List Token) :
    paths (ts ++ .outside ' ' :: us) = paths ts ++ paths us := by
  rw [paths, words_append, List.filter_append, List.map_append, paths, paths]

theorem paths_eq_nil (h : .outside '-' ∉ ts) : paths ts = [] := by
  rw [paths, List.map_eq_nil_iff, List.filter_eq_nil_iff]
  intro w hw hc
  exact h (mem_of_mem_words hw (by simpa using hc))

theorem paths_word {cs : List Char} (hb : ' ' ∉ cs) (hd : '-' ∈ cs) :
    paths (cs.map .outside) = [String.ofList cs] := by
  have hw : words (cs.map .outside) = [cs.map .outside] := words_of_notMem (by simpa using hb)
  have hc : (cs.map Token.outside).flatMap Token.chars = cs := by
    simp [List.flatMap_map, Token.chars]
  rw [paths, hw, List.filter_cons_of_pos (by simpa using hd), List.filter_nil, List.map_singleton,
    hc]

end Words

/-- The text is made of pieces that are read as these tokens. -/
def Lexes (text : String) (ts : List Token) : Prop :=
  ∃ ps, Piece.render ps = text ∧ ps.flatMap Piece.tokens = ts

namespace Lexes

variable {s t : String} {ts us : List Token}

theorem lex (h : Lexes s ts) : lex s.toList = some ts := by
  obtain ⟨ps, rfl, rfl⟩ := h
  exact Piece.lex_render ps

theorem append (hs : Lexes s ts) (ht : Lexes t us) : Lexes (s ++ t) (ts ++ us) := by
  obtain ⟨ps, rfl, rfl⟩ := hs
  obtain ⟨qs, rfl, rfl⟩ := ht
  exact ⟨ps ++ qs, Piece.render_append ps qs, List.flatMap_append⟩

theorem empty : Lexes "" [] := ⟨[], rfl, rfl⟩

theorem piece (p : Piece) : Lexes p.text p.tokens :=
  ⟨[p], Piece.render_singleton p, List.flatMap_singleton _ _⟩

theorem phrase (h : s ∈ phrases) : Lexes s (s.toList.map .outside) := by
  have hp := piece (.phrase s h)
  simpa [Piece.text, Piece.tokens, Piece.opening, Piece.name?] using hp

theorem hops (n : Nat) : Lexes (toString n) ((toString n).toList.map .outside) := by
  have hp := piece (.hops n)
  simpa [Piece.text, Piece.tokens, Piece.opening, Piece.name?] using hp

end Lexes

theorem Spelled.lexes {s : String} {ns as : List String} (h : Spelled s ns as) :
    ∃ ts, Lexes s ts := by
  obtain ⟨ps, hr, -⟩ := h
  exact ⟨_, ps, hr, rfl⟩

/-- The text draws no relationship outside its names. -/
def Undrawn (text : String) : Prop := ∃ ts, Lexes text ts ∧ .outside '-' ∉ ts

namespace Undrawn

variable {s t : String}

theorem empty : Undrawn "" := ⟨[], .empty, List.not_mem_nil⟩

theorem append (hs : Undrawn s) (ht : Undrawn t) : Undrawn (s ++ t) := by
  obtain ⟨ts, hs, hts⟩ := hs
  obtain ⟨us, ht, hus⟩ := ht
  exact ⟨ts ++ us, hs.append ht, fun h => (List.mem_append.mp h).elim hts hus⟩

theorem piece (p : Piece) (h : '-' ∉ p.opening.toList) : Undrawn p.text := by
  refine ⟨p.tokens, .piece p, fun hm => ?_⟩
  rcases List.mem_append.mp hm with hm | hm
  · obtain ⟨c, hc, he⟩ := List.mem_map.mp hm
    obtain rfl := Token.outside.inj he
    exact h hc
  · cases hn : p.name? <;> simp [hn] at hm

theorem phrase (h : s ∈ phrases) (hd : '-' ∉ s.toList) : Undrawn s :=
  ⟨_, .phrase h, by simpa using hd⟩

theorem name (h : s ∈ phrases) (hd : '-' ∉ s.toList) (name : String) :
    Undrawn (s ++ quoted name) := piece (.name s h name) hd

theorem intercalate (hs : Undrawn s) {α : Type} {f : α → String} {xs : List α}
    (h : ∀ x ∈ xs, Undrawn (f x)) : Undrawn (s.intercalate (xs.map f)) := by
  induction xs with
  | nil => exact empty
  | cons x xs ih =>
    obtain ⟨hx, hxs⟩ := List.forall_mem_cons.mp h
    cases xs with
    | nil => simpa using hx
    | cons y ys =>
      rw [List.map_cons, List.map_cons, String.intercalate_cons_cons]
      exact (hx.append hs).append (ih hxs)

end Undrawn

theorem SortClause.undrawn (c : SortClause) : Undrawn (c.render "n") := by
  refine .intercalate (.phrase (by simp [phrases]) (by decide)) fun property _ => ?_
  have hn : Undrawn ("n" ++ "." ++ quoted property) := by
    rw [String.append_assoc]
    exact .append (.piece (.identifier .root) (by decide)) (.name (by simp [phrases]) (by decide) _)
  cases hd : c.direction with
  | ascending => simpa [SortDirection.suffix] using hn
  | descending => exact hn.append (.phrase (by simp [SortDirection.suffix, phrases]) (by decide))

theorem undrawn_paging (order : Option SortOrder) (page : Option Pagination) :
    Undrawn (paging order page).1 := by
  have ho : Undrawn ((order.map fun o => o.render "n").getD "") := by
    cases order with
    | none => exact .empty
    | some order =>
      cases order with
      | nil => exact .empty
      | cons c order =>
        exact .append (.phrase (by simp [phrases]) (by decide))
          (.intercalate (.phrase (by simp [phrases]) (by decide)) fun c _ => c.undrawn)
  cases page with
  | none => exact ho
  | some page => exact ho.append (.phrase (by simp [Pagination.text, phrases]) (by decide))

namespace Reach

theorem lexes_pattern {reach : Reach} {pattern : String} (h : reach.pattern? = some pattern) :
    Lexes pattern (pattern.toList.map .outside) ∧ ' ' ∉ pattern.toList ∧ '-' ∈ pattern.toList := by
  cases reach with
  | nowhere => exact nomatch h
  | upTo hops =>
    obtain rfl := Option.some.inj h
    refine ⟨?_, ?_, by simp⟩
    · have hopening : Lexes "p=(n)-[*0.." _ := .phrase (by simp [phrases])
      have hclosing : Lexes "]-(m)" _ := .phrase (by simp [phrases])
      have hl := (hopening.append (.hops hops)).append hclosing
      rwa [← List.map_append, ← List.map_append, ← String.toList_append,
        ← String.toList_append] at hl
    · have hdigits : ' ' ∉ (toString hops).toList :=
        fun h => absurd (isDigit_of_mem_toString h) (by decide)
      simp only [String.toList_append, List.mem_append, not_or]
      exact ⟨⟨by decide, hdigits⟩, by decide⟩
  | unbounded =>
    obtain rfl := Option.some.inj h
    exact ⟨.phrase (by simp [phrases]), by decide, by decide⟩

/-- Behind the match of the root nodes a reader finds the path of the reach and no other. -/
theorem exists_lexes_tail (reach : Reach) (filtered : Bool) {paging : String}
    (h : Undrawn paging) :
    ∃ ts, Lexes (reach.tail filtered paging) ts ∧ paths ts = reach.pattern?.toList := by
  have hw : Undrawn ("WITH n" ++ paging) := .append (.phrase (by simp [phrases]) (by decide)) h
  unfold tail
  cases hp : reach.pattern? with
  | none =>
    have ht : Undrawn (if paging = "" then "RETURN n" else "WITH n" ++ paging ++ " RETURN n") := by
      split
      · exact .phrase (by simp [phrases]) (by decide)
      · exact hw.append (.phrase (by simp [phrases]) (by decide))
    obtain ⟨ts, hts, hd⟩ := ht
    exact ⟨ts, hts, paths_eq_nil hd⟩
  | some pattern =>
    obtain ⟨ts, hts, hd⟩ := hw
    obtain ⟨hpattern, hblank, hdrawn⟩ := lexes_pattern hp
    have hids : Undrawn (if filtered then ", ID(n)" else "") := by
      split
      · exact .phrase (by simp [phrases]) (by decide)
      · exact .empty
    obtain ⟨us, hus, hud⟩ := hids
    have hmatch := (hts.append (.phrase (s := " MATCH ") (by simp [phrases]))).append hpattern
    have hall := (hmatch.append (.phrase (s := " RETURN p") (by simp [phrases]))).append hus
    refine ⟨_, hall, ?_⟩
    have hbefore : " MATCH ".toList.map Token.outside =
        " MATCH".toList.map .outside ++ [.outside ' '] := rfl
    have hafter : " RETURN p".toList.map Token.outside =
        .outside ' ' :: "RETURN p".toList.map .outside := rfl
    simp only [hbefore, hafter, List.append_assoc, List.cons_append, List.nil_append]
    rw [← List.append_assoc, paths_append, paths_append, paths_word hblank hdrawn,
      String.ofList_toList]
    have hopening : .outside '-' ∉ ts ++ " MATCH".toList.map Token.outside :=
      fun h => (List.mem_append.mp h).elim hd (by decide)
    have hending : .outside '-' ∉ "RETURN p".toList.map Token.outside ++ us :=
      fun h => (List.mem_append.mp h).elim (by decide) hud
    rw [paths_eq_nil hopening, paths_eq_nil hending]
    rfl

theorem pattern?_inj {reach reach' : Reach} :
    reach.pattern? = reach'.pattern? ↔ reach = reach' := by
  have hbound : ∀ n : Nat, "p=(n)-[*0.." ++ toString n ++ "]-(m)" ≠ "p=(n)-[*0..]-(m)" := by
    intro n h
    have hn : "p=(n)-[*0.." ++ toString n = "p=(n)-[*0.." ++ "" :=
      (String.append_left_inj "]-(m)").mp h
    exact Nat.repr_ne_empty ((String.append_right_inj _).mp hn)
  refine ⟨fun h => ?_, fun h => by rw [h]⟩
  cases reach <;> cases reach' <;> simp only [pattern?, reduceCtorEq, Option.some.injEq] at h ⊢
  case upTo.upTo m n =>
    rw [String.append_left_inj, String.append_right_inj] at h
    rw [eq_of_toString_eq h]
  case upTo.unbounded m => exact hbound m h
  case unbounded.upTo n => exact hbound n h.symm

theorem ofDepth_eq_iff {depth depth' : Int} :
    ofDepth depth = ofDepth depth' ↔ depth = depth' ∨ depth < 0 ∧ depth' < 0 := by
  grind [ofDepth]

end Reach

/-- The path from each root node that a query to a depth matches. -/
def pathTo? (depth : Int) : Option String :=
  if depth = 0 then none
  else if depth < 0 then some "p=(n)-[*0..]-(m)"
  else some ("p=(n)-[*0.." ++ toString depth ++ "]-(m)")

theorem pattern?_ofDepth (depth : Int) : (Reach.ofDepth depth).pattern? = pathTo? depth := by
  unfold Reach.ofDepth pathTo?
  by_cases hneg : depth < 0
  · have hz : depth ≠ 0 := by omega
    simp only [hneg, hz, if_true, if_false]
    rfl
  · by_cases hz : depth = 0
    · simp only [hz, Int.lt_irrefl, if_true, if_false]
      rfl
    · obtain ⟨n, rfl⟩ := Int.eq_ofNat_of_zero_le (Int.not_lt.mp hneg)
      simp only [hneg, hz, if_false]
      rfl

/-- What the nodes are looked for by. Without ids, all nodes of a label are. -/
inductive Aim where
  | one (id : Value)
  | byIds (ids : Value)
  | byType (label : Option String) (ids : Value)
  | byProperties (label : Option String) (filters : List Filter)

namespace Aim

def query (aim : Aim) (depth : Int) (order : Option SortOrder) (page : Option Pagination) : Query :=
  match aim with
  | .one id => .one id depth
  | .byIds ids => .byIds ids depth
  | .byType label ids => .byType label ids depth order page
  | .byProperties label filters => .byProperties label filters depth order page

def isFiltered : Aim → Bool
  | .byProperties _ _ => true
  | _ => false

/-- The order and the page as they are written. What is looked for by id takes neither. -/
def paging (aim : Aim) (order : Option SortOrder) (page : Option Pagination) : String :=
  match aim with
  | .one _ | .byIds _ => ""
  | _ => (CypherLink.paging order page).1

theorem undrawn_paging (aim : Aim) (order : Option SortOrder) (page : Option Pagination) :
    Undrawn (aim.paging order page) := by
  cases aim with
  | one | byIds => exact .empty
  | byType | byProperties => exact CypherLink.undrawn_paging order page

/-- The match of the root nodes. Neither the depth nor the order or the page has a part in it. -/
def rootMatch : Aim → Except BuildError RootMatch
  | .one id => .ok ⟨"MATCH (n) WHERE id(n) = \x7b id \x7d ", [("id", id)], false⟩
  | .byIds ids => ((Load.idsOf ids).mapError .access).map (Load.rootByIds none)
  | .byType label ids => ((Load.idsOf ids).mapError .access).map (Load.rootByIds label)
  | .byProperties label filters =>
    ((Load.composed label filters).mapError .composition).map fun c => ⟨c.text, c.parameters, true⟩

theorem request_query (aim : Aim) (order : Option SortOrder) (page : Option Pagination) :
    ∃ order' page', (CypherLink.paging order' page').1 = aim.paging order page ∧
      ∀ depth, (aim.query depth order page).request =
        aim.rootMatch.map fun m => Load.build m depth order' page' := by
  cases aim with
  | one id => exact ⟨none, none, rfl, fun _ => rfl⟩
  | byIds ids =>
    refine ⟨none, none, rfl, fun depth => ?_⟩
    rw [query, Query.request, rootMatch]
    cases Load.idsOf ids <;> rfl
  | byType label ids =>
    refine ⟨order, page, rfl, fun depth => ?_⟩
    rw [query, Query.request, rootMatch]
    cases Load.idsOf ids <;> rfl
  | byProperties label filters =>
    refine ⟨order, page, rfl, fun depth => ?_⟩
    rw [query, Query.request, Load.byProperties, rootMatch]
    cases Load.composed label filters <;> rfl

theorem filtered_rootMatch {aim : Aim} {m : RootMatch} (h : aim.rootMatch = .ok m) :
    m.filtered = aim.isFiltered := by
  have hids : ∀ label items, (Load.rootByIds label items).filtered = false := by
    intro label items
    unfold Load.rootByIds
    split <;> rfl
  cases aim with
  | one id =>
    obtain rfl := Except.ok.inj h
    rfl
  | byIds ids | byType label ids =>
    obtain ⟨items, -, rfl⟩ := Outcome.map_eq_ok.mp h
    exact hids _ items
  | byProperties label filters =>
    obtain ⟨c, -, rfl⟩ := Outcome.map_eq_ok.mp h
    rfl

theorem lexes_rootMatch {aim : Aim} {m : RootMatch} (h : aim.rootMatch = .ok m) :
    ∃ us, Lexes m.text us := by
  cases aim with
  | one id =>
    obtain rfl := Except.ok.inj h
    have hroot : Spelled "MATCH (n) WHERE id(n) = \x7b id \x7d " [] ["id"] :=
      .asking (by simp [phrases]) fun _ => rfl
    exact hroot.lexes
  | byIds ids | byType label ids =>
    obtain ⟨items, -, rfl⟩ := Outcome.map_eq_ok.mp h
    exact (Load.spelled_rootByIds _ items).lexes
  | byProperties label filters =>
    obtain ⟨c, hc, rfl⟩ := Outcome.map_eq_ok.mp h
    cases label with
    | none => cases hc
    | some root =>
      rw [Composed.text_of_compose (Outcome.mapError_eq_ok.mp hc)]
      exact (Layout.ofChain root filters).spelled_text.lexes

/-- Behind the match of the root nodes stands the tail of the depth. -/
theorem request_of_rootMatch {aim : Aim} {m : RootMatch} (h : aim.rootMatch = .ok m) (depth : Int)
    (order : Option SortOrder) (page : Option Pagination) :
    ∃ r, (aim.query depth order page).request = .ok r ∧
      r.statement = m.text ++ (Reach.ofDepth depth).tail m.filtered (aim.paging order page) ∧
      r.kind = (Reach.ofDepth depth).kind m.filtered := by
  obtain ⟨order', page', hpaging, hrequest⟩ := aim.request_query order page
  refine ⟨Load.build m depth order' page', ?_, ?_, rfl⟩
  · rw [hrequest, h]
    rfl
  · rw [← hpaging]
    rfl

theorem kind_ofDepth (depth : Int) (filtered : Bool) : (Reach.ofDepth depth).kind filtered =
    if filtered = true ∧ depth ≠ 0 then .graphRows else .graph := by
  have hsome : (pathTo? depth).isSome = decide (depth ≠ 0) := by
    unfold pathTo?
    by_cases hz : depth = 0
    · simp [hz]
    · simp only [hz, if_false, ne_eq, not_false_eq_true, decide_true]
      split <;> rfl
  rw [Reach.kind, pattern?_ofDepth, hsome]
  simp

theorem statement_eq_iff {aim : Aim} {m : RootMatch} (hm : aim.rootMatch = .ok m)
    {depth depth' : Int}
    {order : Option SortOrder} {page : Option Pagination} {r r' : Request}
    (h : (aim.query depth order page).request = .ok r)
    (h' : (aim.query depth' order page).request = .ok r') :
    r.statement = r'.statement ↔ depth = depth' ∨ depth < 0 ∧ depth' < 0 := by
  obtain ⟨s, hs, hstatement, -⟩ := request_of_rootMatch hm depth order page
  obtain ⟨s', hs', hstatement', -⟩ := request_of_rootMatch hm depth' order page
  obtain rfl : r = s := Except.ok.inj (h.symm.trans hs)
  obtain rfl : r' = s' := Except.ok.inj (h'.symm.trans hs')
  rw [← Reach.ofDepth_eq_iff, hstatement, hstatement', String.append_right_inj]
  refine ⟨fun ht => ?_, fun he => by rw [he]⟩
  -- the paths that are read in the tail tell the depth
  have hundrawn := aim.undrawn_paging order page
  obtain ⟨ts, hts, hpaths⟩ := (Reach.ofDepth depth).exists_lexes_tail m.filtered hundrawn
  obtain ⟨us, hus, hpaths'⟩ := (Reach.ofDepth depth').exists_lexes_tail m.filtered hundrawn
  have hlex := hts.lex
  rw [ht, hus.lex] at hlex
  obtain rfl := Option.some.inj hlex
  have hpattern := congrArg List.head? (hpaths.symm.trans hpaths')
  rw [Option.head?_toList, Option.head?_toList] at hpattern
  exact Reach.pattern?_inj.mp hpattern

/-- A query for root nodes is refused whatever its depth, order and page, or else it begins with the
match of its root nodes, which depends on none of them. Behind that stands one path, that of its
depth, unless the depth is zero; the order and the page stand before it, right behind the root
nodes. Two depths give one statement only if both are negative. -/
theorem paths_of_request (aim : Aim) :
    (∃ e, ∀ depth order page, (aim.query depth order page).request = .error e) ∨
    ∃ root us, lex root.toList = some us ∧
      (∀ depth order page, ∃ r tail ts, (aim.query depth order page).request = .ok r ∧
        r.statement = root ++ tail ∧ lex tail.toList = some ts ∧
        lex r.statement.toList = some (us ++ ts) ∧ paths ts = (pathTo? depth).toList ∧
        tail = (match pathTo? depth with
          | none =>
            if aim.paging order page = "" then "RETURN n"
            else "WITH n" ++ aim.paging order page ++ " RETURN n"
          | some path =>
            "WITH n" ++ aim.paging order page ++ " MATCH " ++ path ++ " RETURN p" ++
              if aim.isFiltered then ", ID(n)" else "") ∧
        r.kind = if aim.isFiltered = true ∧ depth ≠ 0 then .graphRows else .graph) ∧
      ∀ depth depth' order page r r', (aim.query depth order page).request = .ok r →
        (aim.query depth' order page).request = .ok r' →
        (r.statement = r'.statement ↔ depth = depth' ∨ depth < 0 ∧ depth' < 0) := by
  cases hm : aim.rootMatch with
  | error e =>
    refine .inl ⟨e, fun depth order page => ?_⟩
    obtain ⟨order', page', -, hrequest⟩ := aim.request_query order page
    rw [hrequest, hm]
    rfl
  | ok m =>
    obtain ⟨us, hus⟩ := lexes_rootMatch hm
    refine .inr ⟨m.text, us, hus.lex, fun depth order page => ?_,
      fun _ _ _ _ _ _ h h' => statement_eq_iff hm h h'⟩
    obtain ⟨r, hr, hstatement, hkind⟩ := request_of_rootMatch hm depth order page
    obtain ⟨ts, hts, hpaths⟩ :=
      (Reach.ofDepth depth).exists_lexes_tail m.filtered (aim.undrawn_paging order page)
    refine ⟨r, _, ts, hr, hstatement, hts.lex, ?_, ?_, ?_, ?_⟩
    · rw [hstatement]
      exact (hus.append hts).lex
    · rw [hpaths, pattern?_ofDepth]
    · rw [← pattern?_ofDepth, ← filtered_rootMatch hm]
      rfl
    · rw [hkind, kind_ofDepth, filtered_rootMatch hm]

/-- The label and the property to sort by look like paths. -/
def winding : Aim := .byType (some "p=(n)-[*0..]-(m)") .null

theorem paths_of_winding : ∃ r us ts,
    (winding.query 12 (some [⟨.descending, ["a -[b"]⟩]) none).request = .ok r ∧
      lex r.statement.toList = some (us ++ ts) ∧ paths ts = ["p=(n)-[*0..12]-(m)"] ∧
      r.kind = .graph := by
  obtain ⟨e, h⟩ | ⟨root, us, -, h, -⟩ := paths_of_request winding
  · exact nomatch h 12 none none
  · obtain ⟨r, tail, ts, hr, -, -, hlex, hpaths, -, hkind⟩ :=
      h 12 (some [⟨.descending, ["a -[b"]⟩]) none
    have hpath : (pathTo? 12).toList = ["p=(n)-[*0..12]-(m)"] := by decide +kernel
    exact ⟨r, us, ts, hr, hlex, hpaths.trans hpath, hkind⟩

end Aim

end CypherLink
