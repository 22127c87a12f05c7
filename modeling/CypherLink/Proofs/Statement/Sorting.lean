import CypherLink.Load.Paging
import CypherLink.Proofs.Statement.Lexer

/-!
Sort orders read back from their text. An order is a list of clauses, each with a direction for all
its properties; its text is one list of keys with commas between them, and the clauses cannot be told
apart in it. Main statements: `SortKey.read?_listed` and `SortOrder.keys_read_back`.
-/

namespace CypherLink

open Name (tick quoted)

/-- One property to sort by. -/
structure SortKey where
  property : String
  direction : SortDirection
  deriving DecidableEq

namespace SortKey

def text (k : SortKey) : String := "n." ++ quoted k.property ++ k.direction.suffix

/-- What stands behind the name in a key. -/
def ending (d : SortDirection) : List Token := d.suffix.toList.map .outside

def tokens (k : SortKey) : List Token :=
  .outside 'n' :: .outside '.' :: .name k.property :: ending k.direction

def ofTokens? : List Token → Option SortKey
  | .outside 'n' :: .outside '.' :: .name property :: rest =>
    (SortDirection.vocabulary.members.find? fun d => ending d = rest).map (⟨property, ·⟩)
  | _ => none

/-- Reads keys with commas between them. -/
def read? (cs : List Char) : Option (List SortKey) := do
  ((← lex cs).splitOn (.outside ',')).mapM ofTokens?

theorem find?_ending (d : SortDirection) :
    (SortDirection.vocabulary.members.find? fun e => ending e = ending d) = some d := by
  cases d <;> decide +kernel

theorem ofTokens?_tokens (k : SortKey) : ofTokens? k.tokens = some k := by
  change (SortDirection.vocabulary.members.find? fun e => ending e = ending k.direction).map _ = _
  rw [find?_ending]
  rfl

theorem comma_notMem_tokens (k : SortKey) : .outside ',' ∉ k.tokens := by
  obtain ⟨property, direction⟩ := k
  cases direction <;> simp [tokens, ending, SortDirection.suffix]

theorem lex_text (k : SortKey) {rest : List Char} (h : rest.head? ≠ some tick) :
    lex (k.text.toList ++ rest) = (lex rest).map (k.tokens ++ ·) := by
  have hfront : tick ∉ "n.".toList := by decide
  have hsuffix : tick ∉ k.direction.suffix.toList := by cases k.direction <;> decide
  have hnext : (k.direction.suffix.toList ++ rest).head? ≠ some tick := by
    cases k.direction with
    | ascending => exact h
    | descending => simp [SortDirection.suffix, tick]
  rw [text, String.toList_append, String.toList_append, List.append_assoc, List.append_assoc,
    lex_append hfront, lex_quoted _ hnext, lex_append hsuffix, Option.map_map, Option.map_map]
  rfl

theorem lex_listed (ks : List SortKey) :
    lex (",".intercalate (ks.map text)).toList =
      some ([Token.outside ','].intercalate (ks.map tokens)) := by
  induction ks with
  | nil => exact lex_nil
  | cons k ks ih =>
    cases ks with
    | nil =>
      have hend : ([] : List Char).head? ≠ some tick := nofun
      have hk := lex_text k hend
      rw [List.append_nil, lex_nil] at hk
      simpa using hk
    | cons l ks =>
      have hcomma : tick ∉ ",".toList := by decide
      have hnext : (",".toList ++ (",".intercalate ((l :: ks).map text)).toList).head? ≠
          some tick := by simp [tick]
      rw [List.map_cons, List.map_cons, String.intercalate_cons_cons, ← List.map_cons,
        String.toList_append, String.toList_append, List.append_assoc, lex_text k hnext,
        lex_append hcomma, ih]
      simp [List.intercalate_cons_cons]

/-- Every key is found where it stands, whatever commas the names hold. -/
theorem read?_listed {ks : List SortKey} (h : ks ≠ []) :
    read? (",".intercalate (ks.map text)).toList = some ks := by
  have hparts : ∀ ts ∈ ks.map tokens, Token.outside ',' ∉ ts := by
    intro ts hts
    obtain ⟨k, -, rfl⟩ := List.mem_map.mp hts
    exact comma_notMem_tokens k
  have hnonempty : ks.map tokens ≠ [] := by simpa using h
  have hsplit := List.splitOn_intercalate (Token.outside ',') hparts hnonempty
  have hread : ∀ ks : List SortKey, (ks.map tokens).mapM ofTokens? = some ks := by
    intro ks
    induction ks with
    | nil => rfl
    | cons k ks ih => simp [ofTokens?_tokens, ih]
  rw [read?, lex_listed, Option.bind_eq_bind, Option.bind_some, hsplit, hread]

theorem listed_injective {ks ls : List SortKey} (hk : ks ≠ []) (hl : ls ≠ [])
    (h : ",".intercalate (ks.map text) = ",".intercalate (ls.map text)) : ks = ls :=
  Option.some.inj (by rw [← read?_listed hk, h, read?_listed hl])

end SortKey

/-- The keys that a clause stands for. -/
def SortClause.keys (c : SortClause) : List SortKey := c.properties.map (⟨·, c.direction⟩)

theorem SortClause.render_eq (c : SortClause) :
    c.render "n" = ",".intercalate (c.keys.map SortKey.text) := by
  rw [SortClause.render, SortClause.keys, List.map_map]
  rfl

namespace SortOrder

def keys (order : SortOrder) : List SortKey := order.flatMap SortClause.keys

/-- The order that a sequence of additions makes, starting from the empty one. -/
def ofAdditions (calls : List SortClause) : Except NoProperty SortOrder :=
  calls.foldlM (fun order c => order.add c.properties c.direction) []

theorem ofAdditions_eq {calls : List SortClause} (h : ∀ c ∈ calls, c.properties ≠ []) :
    ofAdditions calls = .ok calls := by
  have hfrom : ∀ order : SortOrder,
      calls.foldlM (fun order c => order.add c.properties c.direction) order =
        .ok (order ++ calls) := by
    induction calls with
    | nil => intro order; simp [pure, Except.pure]
    | cons c calls ih =>
      intro order
      have hadd : order.add c.properties c.direction = .ok (order ++ [c]) := by
        have hc := h c List.mem_cons_self
        rw [add, if_neg (by simpa using hc)]
      rw [List.foldlM_cons, hadd]
      change calls.foldlM _ (order ++ [c]) = _
      rw [ih (fun d hd => h d (List.mem_cons_of_mem c hd)), List.append_assoc,
        List.singleton_append]
  exact hfrom []

section Listed

variable {order : SortOrder} (h : ∀ c ∈ order, c.properties ≠ [])

include h

theorem keys_ne_nil (hne : order ≠ []) : order.keys ≠ [] := by
  obtain ⟨c, rest, rfl⟩ := List.exists_cons_of_ne_nil hne
  have hc := h c List.mem_cons_self
  simp [keys, SortClause.keys, hc]

/-- The two joins are one. -/
theorem listed_keys :
    ",".intercalate (order.map fun c => c.render "n") =
      ",".intercalate (order.keys.map SortKey.text) := by
  induction order with
  | nil => rfl
  | cons c rest ih =>
    have hrest : ∀ d ∈ rest, d.properties ≠ [] := fun d hd => h d (List.mem_cons_of_mem c hd)
    by_cases hnil : rest = []
    · subst hnil
      simp [keys, SortClause.render_eq]
    · have hclause : c.keys.map SortKey.text ≠ [] := by
        simpa [SortClause.keys] using h c List.mem_cons_self
      have hkeys : (keys rest).map SortKey.text ≠ [] := by
        simpa using keys_ne_nil hrest hnil
      have hjoined : (keys (c :: rest)).map SortKey.text =
          c.keys.map SortKey.text ++ (keys rest).map SortKey.text := by
        simp [keys]
      rw [List.map_cons, String.intercalate_cons_of_ne_nil (by simpa using hnil), ih hrest,
        SortClause.render_eq, hjoined, String.intercalate_append_of_ne_nil hclause hkeys]

theorem render_of_ne_nil (hne : order ≠ []) :
    order.render "n" = " ORDER BY " ++ ",".intercalate (order.keys.map SortKey.text) := by
  rw [render, if_neg (by simpa using hne), listed_keys h]

theorem render_eq_empty_iff : order.render "n" = "" ↔ order = [] := by
  by_cases hne : order = []
  · subst hne
    exact iff_of_true rfl rfl
  · refine iff_of_false (fun hempty => ?_) hne
    rw [render_of_ne_nil h hne] at hempty
    simp at hempty

theorem keys_eq_nil_iff : order.keys = [] ↔ order = [] := by
  by_cases hne : order = []
  · subst hne
    exact iff_of_true rfl rfl
  · exact iff_of_false (keys_ne_nil h hne) hne

theorem render_eq_iff {other : SortOrder} (h' : ∀ c ∈ other, c.properties ≠ []) :
    order.render "n" = other.render "n" ↔ order.keys = other.keys := by
  by_cases hne : order = []
  · subst hne
    rw [render_nil, eq_comm, render_eq_empty_iff h', ← keys_eq_nil_iff h']
    exact eq_comm
  · by_cases hother : other = []
    · subst hother
      rw [render_nil, render_eq_empty_iff h, ← keys_eq_nil_iff h]
      rfl
    · rw [render_of_ne_nil h hne, render_of_ne_nil h' hother, String.append_right_inj]
      constructor
      · exact SortKey.listed_injective (keys_ne_nil h hne) (keys_ne_nil h' hother)
      · intro hkeys
        rw [hkeys]

end Listed

/-- Orders come back from their text. After any additions, each of at least one property, the text is
empty exactly if there were none; else it is a list from which every property is read back in its
place with the direction of its own addition. So two sequences of additions have one text exactly if
they list the same properties with the same directions. -/
theorem keys_read_back {calls : List SortClause} (h : ∀ c ∈ calls, c.properties ≠ []) :
    ∃ order, ofAdditions calls = .ok order ∧ (order.render "n" = "" ↔ calls = []) ∧
      (calls ≠ [] → ∃ list, order.render "n" = " ORDER BY " ++ list ∧
        SortKey.read? list.toList = some (keys calls)) ∧
      ∀ calls', (∀ c ∈ calls', c.properties ≠ []) → ∃ order', ofAdditions calls' = .ok order' ∧
        (order.render "n" = order'.render "n" ↔ keys calls = keys calls') := by
  refine ⟨calls, ofAdditions_eq h, render_eq_empty_iff h, fun hne => ?_, fun calls' h' => ?_⟩
  · exact ⟨_, render_of_ne_nil h hne, SortKey.read?_listed (keys_ne_nil h hne)⟩
  · exact ⟨calls', ofAdditions_eq h', render_eq_iff h h'⟩

/-- Names that look like what stands around them, and one that is empty. -/
def bewildering : List SortClause :=
  [⟨.descending, ["a` DESC,n.`b", ""]⟩, ⟨.ascending, ["`"]⟩]

theorem bewildering_read_back :
    (∀ c ∈ bewildering, c.properties ≠ []) ∧
      ∃ list, render bewildering "n" = " ORDER BY " ++ list ∧
        SortKey.read? list.toList =
          some [⟨"a` DESC,n.`b", .descending⟩, ⟨"", .descending⟩, ⟨"`", .ascending⟩] := by
  have h : ∀ c ∈ bewildering, c.properties ≠ [] := by decide
  obtain ⟨order, horder, -, hread, -⟩ := keys_read_back h
  obtain rfl : bewildering = order := Except.ok.inj ((ofAdditions_eq h).symm.trans horder)
  exact ⟨h, hread (by decide)⟩

end SortOrder

end CypherLink
