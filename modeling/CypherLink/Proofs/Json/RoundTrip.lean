import Mathlib.Data.List.Forall2
import CypherLink.Proofs.Entries
import CypherLink.Proofs.Json.Number
import CypherLink.Proofs.Json.Text
import CypherLink.Proofs.Outcome

/-!
What is written is read back: the text of a value is read as that value, with lists in the place of
its tuples. Main statements: `items_written`, `members_written` and `decode_of_write`.
-/

namespace CypherLink

namespace Value

mutual

/-- The value as its text gives it back: the tuples in it have become lists. -/
def plain : Value → Value
  | .list items | .tuple items => .list (plainAll items)
  | .map entries => .map (plainEntries entries)
  | v => v

def plainAll : List Value → List Value
  | [] => []
  | v :: vs => plain v :: plainAll vs

def plainEntries : List (String × Value) → List (String × Value)
  | [] => []
  | (k, v) :: rest => (k, plain v) :: plainEntries rest

end

mutual

/-- Whether the value can be held: its numbers are numbers of the format, and each of its maps has
a key once. -/
def isProper : Value → Bool
  | .real x => decide x.Proper
  | .list items | .tuple items => areProper items
  | .map entries => decide (Entries.keys entries).Nodup && haveProper entries
  | _ => true

def areProper : List Value → Bool
  | [] => true
  | v :: vs => isProper v && areProper vs

def haveProper : List (String × Value) → Bool
  | [] => true
  | (_, v) :: rest => isProper v && haveProper rest

end

theorem keys_plainEntries (entries : List (String × Value)) :
    Entries.keys (plainEntries entries) = Entries.keys entries := by
  induction entries with
  | nil => rfl
  | cons e rest ih =>
    obtain ⟨k, v⟩ := e
    exact congrArg (k :: ·) ih

theorem areProper_iff {vs : List Value} :
    areProper vs = true ↔ ∀ v ∈ vs, v.isProper = true := by
  induction vs with
  | nil => exact ⟨nofun, fun _ => rfl⟩
  | cons v vs ih => rw [areProper, Bool.and_eq_true, ih, List.forall_mem_cons]

end Value

namespace Json

/-- Reads a text in which lists and maps may stand as deep as its length allows. -/
def decode (text : String) : Except ReadError Value :=
  parseWithin text.toList.length text.toList

/-- The text begins with a mark of its own. -/
def Begins (text : List Char) : Prop :=
  ∃ c cs, text = c :: cs ∧ isBlank c = false ∧ c ≠ ']'

/-- The text is read as the value, whatever stops it. -/
structure Written (text : List Char) (v : Value) : Prop where
  begins : Begins text
  reads : ∀ (fuel depth : Nat) (rest : List Char), 2 * text.length ≤ fuel → text.length ≤ depth →
    Stops rest → value fuel depth (text ++ rest) = .ok (v, rest)

/-- The text is read as the member of a map. -/
def WrittenMember (text : List Char) (e : String × Value) : Prop :=
  ∃ cs, text = string compact e.1 ++ ':' :: cs ∧ Written cs e.2

section Marks

theorem skipBlanks_cons {c : Char} {cs : List Char} (h : isBlank c = false) :
    skipBlanks (c :: cs) = c :: cs :=
  List.dropWhile_cons_of_neg (by rw [h]; decide)

theorem Begins.skipBlanks {text : List Char} (h : Begins text) (rest : List Char) :
    skipBlanks (text ++ rest) = text ++ rest := by
  obtain ⟨c, cs, rfl, hc, -⟩ := h
  exact skipBlanks_cons hc

theorem Begins.append {text : List Char} (h : Begins text) (rest : List Char) :
    Begins (text ++ rest) := by
  obtain ⟨c, cs, rfl, hc⟩ := h
  exact ⟨c, cs ++ rest, rfl, hc⟩

theorem stops_cons {c : Char} (h : c = ',' ∨ c = ']' ∨ c = '\x7d') (rest : List Char) :
    Stops (c :: rest) := by
  intro d hd
  obtain rfl := Option.some.inj hd
  obtain rfl | rfl | rfl := h <;> decide

theorem stops_nil : Stops [] := nofun

end Marks

section Atoms

theorem written_of {text : List Char} {v : Value} (hb : Begins text)
    (h : ∀ (fuel depth : Nat) (rest : List Char), 2 * text.length ≤ fuel + 1 →
      text.length ≤ depth → Stops rest → value (fuel + 1) depth (text ++ rest) = .ok (v, rest)) :
    Written text v := by
  refine ⟨hb, fun fuel depth rest hfuel hdepth hr => ?_⟩
  obtain ⟨c, cs, htext, -⟩ := id hb
  cases fuel with
  | zero =>
    rw [htext, List.length_cons] at hfuel
    omega
  | succ fuel => exact h fuel depth rest hfuel hdepth hr

/-- A text that begins neither a string nor a list nor a map is read as a word or as a number. -/
theorem value_atom {c : Char} (h : c ≠ '"' ∧ c ≠ '[' ∧ c ≠ '\x7b') (fuel depth : Nat)
    (cs : List Char) :
    value (fuel + 1) depth (c :: cs) =
      match word (c :: cs) with
      | some found => .ok found
      | none => number (c :: cs) := by
  obtain ⟨hquote, hlist, hmap⟩ := h
  rw [value.eq_def]
  split
  · next heq => exact nomatch heq
  · next heq =>
    obtain rfl := Nat.succ.inj heq
    split
    · next h => exact absurd (List.cons.inj h).1 hquote
    · next h => exact absurd (List.cons.inj h).1 hlist
    · next h => exact absurd (List.cons.inj h).1 hmap
    · rfl

theorem written_word {name : String} {v : Value} {c : Char} {cs : List Char}
    (hname : name.toList = c :: cs) (hc : isBlank c = false ∧ c ≠ ']')
    (hother : c ≠ '"' ∧ c ≠ '[' ∧ c ≠ '\x7b')
    (h : ∀ rest, word (name.toList ++ rest) = some (v, rest)) : Written name.toList v := by
  refine written_of ⟨c, cs, hname, hc⟩ fun fuel depth rest _ _ _ => ?_
  have hword := h rest
  rw [hname] at hword ⊢
  rw [List.cons_append, value_atom hother, ← List.cons_append, hword]

theorem written_null : Written "null".toList .null :=
  written_word rfl (by decide) (by decide) fun _ => rfl

theorem written_bool (b : Bool) : Written (if b then "true" else "false").toList (.bool b) := by
  cases b with
  | true => exact written_word rfl (by decide) (by decide) fun _ => rfl
  | false => exact written_word rfl (by decide) (by decide) fun _ => rfl

theorem afterWord_eq_none {w : String} {c d : Char} {cs ds : List Char} (hw : w.toList = d :: ds)
    (h : d ≠ c) : afterWord w (c :: cs) = none := by
  unfold afterWord
  rw [hw]
  exact if_neg fun hp => h (beq_iff_eq.mp (Bool.and_eq_true_iff.mp hp).1)

/-- A number is no word. -/
theorem word_number {c : Char} (h : c = '-' ∨ isDigit c = true) (cs : List Char) :
    word (c :: cs) = none := by
  have hfirst : ∀ w ∈ words, ∃ d ds, w.1.toList = d :: ds ∧ d ≠ '-' ∧ isDigit d = false := by
    simp only [words, List.forall_mem_cons]
    exact ⟨⟨'n', _, rfl, by decide⟩, ⟨'t', _, rfl, by decide⟩, ⟨'f', _, rfl, by decide⟩,
      ⟨'N', _, rfl, by decide⟩, ⟨'I', _, rfl, by decide⟩, nofun⟩
  apply List.findSome?_eq_none_iff.mpr
  intro w hw
  obtain ⟨d, ds, hd, hsign, hdigit⟩ := hfirst w hw
  have hne : d ≠ c := by
    rintro rfl
    cases h with
    | inl h => exact hsign h
    | inr h => exact absurd (h.symm.trans hdigit) (by decide)
  rw [afterWord_eq_none hd hne]
  rfl

theorem written_number {text : List Char} {v : Value} {c : Char} {cs : List Char}
    (htext : text = c :: cs) (hc : c = '-' ∨ isDigit c = true)
    (h : ∀ {rest}, Stops rest → number (text ++ rest) = .ok (v, rest)) : Written text v := by
  have hmark : ∀ d ∈ ['"', '[', '\x7b', ']', ' ', '\t', '\n', '\r'], c ≠ d := by
    rintro d hd rfl
    have hnone : ['"', '[', '\x7b', ']', ' ', '\t', '\n', '\r'].all
        (fun d => !(d == '-' || isDigit d)) = true := rfl
    have hnot := List.all_eq_true.mp hnone c hd
    obtain rfl | hdigit := hc
    · exact nomatch hnot
    · rw [hdigit, Bool.or_true] at hnot
      exact nomatch hnot
  simp only [List.forall_mem_cons] at hmark
  obtain ⟨hquote, hlist, hmap, hend, hspace, htab, hline, hreturn, -⟩ := hmark
  have hblank : isBlank c = false := by
    simp only [isBlank, hspace, htab, hline, hreturn, decide_false, Bool.or_false]
  refine written_of ⟨c, cs, htext, hblank, hend⟩ fun fuel depth rest _ _ hr => ?_
  have hnumber := h hr
  rw [htext, List.cons_append] at hnumber ⊢
  rw [value_atom ⟨hquote, hlist, hmap⟩, word_number hc, hnumber]

theorem exists_head_minus (negative : Bool) {whole : List Char} (h : Whole whole)
    (tail : List Char) :
    ∃ c cs, Binary64.minus negative ++ (whole ++ tail) = c :: cs ∧
      (c = '-' ∨ isDigit c = true) := by
  cases negative with
  | true => exact ⟨'-', _, rfl, .inl rfl⟩
  | false =>
    obtain ⟨c, cs, rfl, hc⟩ := exists_digit_of_whole h
    exact ⟨c, _, rfl, .inr hc⟩

theorem written_int {i : Int} (hi : (Nat.toDigits 10 i.natAbs).length ≤ mostDigits) :
    Written (toString i).toList (.int i) := by
  obtain ⟨c, cs, htext, hc⟩ :=
    exists_head_minus (decide (i < 0)) (whole_toDigits i.natAbs) []
  rw [List.append_nil, ← toList_toString] at htext
  exact written_number htext hc fun hr => number_int hr hi

theorem written_real {negative : Bool} {m : Nat} {e : Int}
    (h : Binary64.Proper (.finite negative m e)) :
    Written (Binary64.finite negative m e).text.toList (.real (.finite negative m e)) := by
  obtain ⟨c, cs, htext, hc⟩ : ∃ c cs, (Binary64.finite negative m e).text.toList = c :: cs ∧
      (c = '-' ∨ isDigit c = true) := by
    unfold Binary64.text
    dsimp only
    rw [String.toList_ofList]
    split
    · exact exists_head_minus negative (.inl rfl) ['.', '0']
    · next hm =>
      obtain ⟨whole, places, exponent?, hspells⟩ :=
        exists_spells (Decimal.ofDecimal_shortest h hm).1
      rw [hspells.text_eq]
      exact exists_head_minus negative hspells.whole_digits _
  exact written_number htext hc fun hr => number_real hr h

theorem stringBody_string (s : String) (rest : List Char) :
    ∃ cs, string compact s ++ rest = '"' :: cs ∧
      stringBody cs.length.succ cs = some (s.toList, rest) := by
  refine ⟨s.toList.flatMap (escapeChar false) ++ '"' :: rest, ?_, ?_⟩
  · rw [string, List.cons_append, List.append_assoc]
    rfl
  · apply stringBody_escaped
    have hlength := length_le_escaped s.toList
    rw [List.length_append]
    omega

theorem written_string (s : String) : Written (string compact s) (.text s) := by
  refine written_of ⟨'"', _, rfl, rfl, by decide⟩ fun fuel depth rest _ _ _ => ?_
  obtain ⟨cs, htext, hbody⟩ := stringBody_string s rest
  rw [htext, value, hbody]
  exact congrArg (fun s => Except.ok (Value.text s, rest)) String.ofList_toList

end Atoms

section Nested

theorem enclosed_compact (depth : Nat) (opening closing : Char) (parts : List (List Char)) :
    enclosed compact depth opening closing parts =
      opening :: ([','].intercalate parts ++ [closing]) := by
  have hparts : (parts.mapIdx fun i part =>
      if i = 0 then part else newline compact (depth + 1) ++ part) = parts := by
    apply List.ext_getElem List.length_mapIdx
    intro i hi hi'
    rw [List.getElem_mapIdx]
    split <;> rfl
  unfold enclosed
  rw [hparts]
  cases parts with
  | nil => rfl
  | cons part parts => exact congrArg (opening :: · ++ [closing]) (List.append_nil _)

variable {part more rest text : List Char} {parts : List (List Char)} {fuel depth : Nat} {v : Value}
  {vs : List Value}

theorem exists_intercalate (part : List Char) (parts : List (List Char)) :
    ∃ tail, [','].intercalate (part :: parts) = part ++ tail := by
  cases parts with
  | nil => exact ⟨[], List.intercalate_singleton.trans (List.append_nil part).symm⟩
  | cons p ps => exact ⟨_, List.intercalate_cons_cons.trans (List.append_assoc part _ _)⟩

theorem Begins.intercalate (h : Begins part) (parts : List (List Char)) :
    Begins ([','].intercalate (part :: parts)) := by
  obtain ⟨tail, htail⟩ := exists_intercalate part parts
  rw [htail]
  exact h.append tail

theorem items_last (hb : Begins part)
    (hv : value fuel depth (part ++ ']' :: rest) = .ok (v, ']' :: rest)) :
    items (fuel + 1) depth (part ++ ']' :: rest) = .ok ([v], rest) := by
  rw [items, hb.skipBlanks, hv]
  rfl

theorem items_more (hb : Begins part)
    (hv : value fuel depth (part ++ ',' :: more) = .ok (v, ',' :: more))
    (hvs : items fuel depth more = .ok (vs, rest)) :
    items (fuel + 1) depth (part ++ ',' :: more) = .ok (v :: vs, rest) := by
  rw [items, hb.skipBlanks, hv]
  change items fuel depth more >>= _ = _
  rw [hvs]
  rfl

/-- Elements are read up to the end of their list. -/
theorem items_written (h : List.Forall₂ Written parts vs) (hne : parts ≠ [])
    (hfuel : 2 * ([','].intercalate parts).length + 1 ≤ fuel)
    (hdepth : ([','].intercalate parts).length ≤ depth) (rest : List Char) :
    items fuel depth ([','].intercalate parts ++ ']' :: rest) = .ok (vs, rest) := by
  induction h generalizing fuel with
  | nil => exact absurd rfl hne
  | @cons part v parts vs hpart hparts ih =>
    obtain ⟨fuel, rfl⟩ := Nat.exists_eq_add_of_lt (show 0 < fuel by omega)
    rw [Nat.zero_add] at hfuel ⊢
    cases hparts with
    | nil =>
      rw [List.intercalate_singleton] at hfuel hdepth ⊢
      exact items_last hpart.begins
        (hpart.reads fuel depth _ (by omega) hdepth (stops_cons (.inr (.inl rfl)) rest))
    | @cons part' v' parts vs hpart' hparts =>
      rw [List.intercalate_cons_cons, List.length_append, List.length_append,
        List.length_singleton] at hfuel hdepth
      rw [List.intercalate_cons_cons, List.append_assoc, List.append_assoc]
      exact items_more hpart.begins
        (hpart.reads fuel depth _ (by omega) (by omega) (stops_cons (.inl rfl) _))
        (ih (List.cons_ne_nil _ _) (by omega) (by omega))

section Member

variable {seen : Entries String Value} {k : String} (hb : Begins part)

include hb

theorem members_last (hv : value fuel depth (part ++ '\x7d' :: rest) = .ok (v, '\x7d' :: rest)) :
    members (fuel + 1) depth seen (string compact k ++ ':' :: (part ++ '\x7d' :: rest)) =
      .ok (Entries.put seen k v, rest) := by
  obtain ⟨cs, htext, hbody⟩ := stringBody_string k (':' :: (part ++ '\x7d' :: rest))
  have hquote : skipBlanks ('"' :: cs) = '"' :: cs := skipBlanks_cons rfl
  have hcolon : ∀ text, afterWord ":" (skipBlanks (':' :: text)) = some text := fun _ => rfl
  have hmark : skipBlanks ('\x7d' :: rest) = '\x7d' :: rest := skipBlanks_cons rfl
  simp only [members, htext, hquote, hbody, expected, hcolon, hb.skipBlanks, hv, hmark, bind,
    Except.bind, pure, Except.pure, String.ofList_toList]

theorem members_more (hv : value fuel depth (part ++ ',' :: more) = .ok (v, ',' :: more)) :
    members (fuel + 1) depth seen (string compact k ++ ':' :: (part ++ ',' :: more)) =
      members fuel depth (Entries.put seen k v) more := by
  obtain ⟨cs, htext, hbody⟩ := stringBody_string k (':' :: (part ++ ',' :: more))
  have hquote : skipBlanks ('"' :: cs) = '"' :: cs := skipBlanks_cons rfl
  have hcolon : ∀ text, afterWord ":" (skipBlanks (':' :: text)) = some text := fun _ => rfl
  have hmark : skipBlanks (',' :: more) = ',' :: more := skipBlanks_cons rfl
  simp only [members, htext, hquote, hbody, expected, hcolon, hb.skipBlanks, hv, hmark, bind,
    Except.bind, String.ofList_toList]

end Member

/-- Members are read up to the end of their map. -/
theorem members_written {entries : List (String × Value)}
    (h : List.Forall₂ WrittenMember parts entries) (hne : parts ≠ [])
    (hfuel : 2 * ([','].intercalate parts).length + 1 ≤ fuel)
    (hdepth : ([','].intercalate parts).length ≤ depth) (seen : Entries String Value)
    (rest : List Char) :
    members fuel depth seen ([','].intercalate parts ++ '\x7d' :: rest) =
      .ok (Entries.putAll seen entries, rest) := by
  induction h generalizing fuel seen with
  | nil => exact absurd rfl hne
  | @cons part e parts entries hpart hparts ih =>
    obtain ⟨cs, rfl, hcs⟩ := hpart
    obtain ⟨fuel, rfl⟩ := Nat.exists_eq_add_of_lt (show 0 < fuel by omega)
    rw [Nat.zero_add] at hfuel ⊢
    cases hparts with
    | nil =>
      rw [List.intercalate_singleton, List.length_append, List.length_cons] at hfuel hdepth
      rw [List.intercalate_singleton, List.append_assoc]
      exact members_last hcs.begins
        (hcs.reads fuel depth _ (by omega) (by omega) (stops_cons (.inr (.inr rfl)) rest))
    | @cons part' e' parts entries hpart' hparts =>
      rw [List.intercalate_cons_cons, List.length_append, List.length_append, List.length_append,
        List.length_singleton, List.length_cons] at hfuel hdepth
      rw [List.intercalate_cons_cons, List.append_assoc, List.append_assoc, List.append_assoc]
      refine (members_more hcs.begins
        (hcs.reads fuel depth _ (by omega) (by omega) (stops_cons (.inl rfl) _))).trans ?_
      exact ih (List.cons_ne_nil _ _) (by omega) (by omega) (Entries.put seen e.1 e.2)

theorem value_list (hb : Begins text) (h : items fuel depth text = .ok (vs, rest)) :
    value (fuel + 1) (depth + 1) ('[' :: text) = .ok (.list vs, rest) := by
  have hskip := hb.skipBlanks []
  rw [List.append_nil] at hskip
  obtain ⟨c, cs, rfl, -, hc⟩ := hb
  rw [value, hskip]
  split
  · next heq => exact absurd (List.cons.inj heq).1 hc
  · rw [h]
    rfl

theorem value_map {k : String} {entries : List (String × Value)}
    (h : members fuel depth [] (string compact k ++ text) = .ok (entries, rest)) :
    value (fuel + 1) (depth + 1) ('\x7b' :: (string compact k ++ text)) =
      .ok (.map entries, rest) := by
  have hskip : skipBlanks (string compact k ++ text) = string compact k ++ text :=
    skipBlanks_cons rfl
  rw [value, hskip]
  split
  · next heq => exact absurd (List.cons.inj heq).1 (by decide)
  · rw [h]
    rfl

/-- A value between brackets is read if what stands between them is. -/
theorem written_enclosed {opening closing : Char} (ho : isBlank opening = false ∧ opening ≠ ']')
    (k : Nat) (h : ∀ (fuel depth : Nat) (rest : List Char),
      2 * ([','].intercalate parts).length + 1 ≤ fuel → ([','].intercalate parts).length ≤ depth →
        value (fuel + 1) (depth + 1) (opening :: ([','].intercalate parts ++ closing :: rest)) =
          .ok (v, rest)) :
    Written (enclosed compact k opening closing parts) v := by
  rw [enclosed_compact]
  refine written_of ⟨opening, _, rfl, ho⟩ fun fuel depth rest hfuel hdepth _ => ?_
  rw [List.length_cons, List.length_append, List.length_singleton] at hfuel hdepth
  obtain ⟨depth, rfl⟩ := Nat.exists_eq_succ_of_ne_zero (show depth ≠ 0 by omega)
  rw [List.cons_append, List.append_assoc]
  exact h fuel depth rest (by omega) (by omega)

theorem written_list (h : List.Forall₂ Written parts vs) (k : Nat) :
    Written (enclosed compact k '[' ']' parts) (.list vs) := by
  refine written_enclosed (by decide) k fun fuel depth rest hfuel hdepth => ?_
  cases h with
  | nil => rfl
  | @cons part v parts vs hpart hparts =>
    have hitems := items_written (.cons hpart hparts) (List.cons_ne_nil _ _) hfuel hdepth rest
    exact value_list ((hpart.begins.intercalate parts).append _) hitems

theorem written_map {entries : List (String × Value)}
    (h : List.Forall₂ WrittenMember parts entries) (hn : (Entries.keys entries).Nodup) (k : Nat) :
    Written (enclosed compact k '\x7b' '\x7d' parts) (.map entries) := by
  refine written_enclosed (by decide) k fun fuel depth rest hfuel hdepth => ?_
  have hall : Entries.putAll [] entries = entries := Entries.putAll_of_nodup hn
  cases h with
  | nil => rfl
  | @cons part e parts entries hpart hparts =>
    have hmembers :=
      members_written (.cons hpart hparts) (List.cons_ne_nil _ _) hfuel hdepth [] rest
    rw [hall] at hmembers
    obtain ⟨cs, rfl, -⟩ := hpart
    obtain ⟨tail, htail⟩ := exists_intercalate (string compact e.1 ++ ':' :: cs) parts
    rw [htail, List.append_assoc, List.append_assoc] at hmembers ⊢
    exact value_map hmembers

end Nested

section Values

mutual

theorem written_value : ∀ (v : Value) (k : Nat) (text : List Char), v.isProper = true →
    writeAt compact k v = .ok text → Written text v.plain
  | .null, _, _, _, h => Except.ok.inj h ▸ written_null
  | .bool b, _, _, _, h => Except.ok.inj h ▸ written_bool b
  | .int i, k, text, _, h => by
    rw [writeAt] at h
    split at h
    · exact nomatch h
    · next hi => exact Except.ok.inj h ▸ written_int (Nat.not_lt.mp hi)
  | .real (.finite negative m e), _, _, hx, h =>
    Except.ok.inj h ▸ written_real (of_decide_eq_true hx)
  | .real .nan, _, _, _, h => nomatch h
  | .real (.infinity _), _, _, _, h => nomatch h
  | .text s, _, _, _, h => Except.ok.inj h ▸ written_string s
  | .list vs, k, text, hv, h => by
    obtain ⟨parts, hparts, h⟩ := Outcome.bind_eq_ok.mp h
    obtain rfl := Except.ok.inj h
    exact written_list (written_values vs (k + 1) parts hv hparts) k
  | .tuple vs, k, text, hv, h => by
    obtain ⟨parts, hparts, h⟩ := Outcome.bind_eq_ok.mp h
    obtain rfl := Except.ok.inj h
    exact written_list (written_values vs (k + 1) parts hv hparts) k
  | .map entries, k, text, hv, h => by
    obtain ⟨hn, hv⟩ := Bool.and_eq_true_iff.mp hv
    obtain ⟨parts, hparts, h⟩ := Outcome.bind_eq_ok.mp h
    obtain rfl := Except.ok.inj h
    have hkeys := of_decide_eq_true hn
    rw [← Value.keys_plainEntries] at hkeys
    exact written_map (written_entries entries (k + 1) parts hv hparts) hkeys k
  | .set _, _, _, _, h => nomatch h
  | .frozen _, _, _, _, h => nomatch h
  | .point _ _ _, _, _, _, h => nomatch h

theorem written_values : ∀ (vs : List Value) (k : Nat) (parts : List (List Char)),
    Value.areProper vs = true → writeItems compact k vs = .ok parts →
      List.Forall₂ Written parts (Value.plainAll vs)
  | [], _, _, _, h => Except.ok.inj h ▸ .nil
  | v :: vs, k, parts, hv, h => by
    obtain ⟨hv, hvs⟩ := Bool.and_eq_true_iff.mp hv
    obtain ⟨part, hpart, h⟩ := Outcome.bind_eq_ok.mp h
    obtain ⟨parts, hparts, h⟩ := Outcome.bind_eq_ok.mp h
    obtain rfl := Except.ok.inj h
    exact .cons (written_value v k part hv hpart) (written_values vs k parts hvs hparts)

theorem written_entries : ∀ (entries : List (String × Value)) (k : Nat) (parts : List (List Char)),
    Value.haveProper entries = true → writeMembers compact k entries = .ok parts →
      List.Forall₂ WrittenMember parts (Value.plainEntries entries)
  | [], _, _, _, h => Except.ok.inj h ▸ .nil
  | (key, v) :: rest, k, parts, hv, h => by
    obtain ⟨hv, hrest⟩ := Bool.and_eq_true_iff.mp hv
    obtain ⟨part, hpart, h⟩ := Outcome.bind_eq_ok.mp h
    obtain ⟨parts, hparts, h⟩ := Outcome.bind_eq_ok.mp h
    obtain rfl := Except.ok.inj h
    have hmember : WrittenMember (string compact key ++ colon compact ++ part) (key, v.plain) :=
      ⟨part, List.append_assoc _ _ _, written_value v k part hv hpart⟩
    exact .cons hmember (written_entries rest k parts hrest hparts)

end

mutual

/-- On one line it does not matter how deep a value stands. -/
theorem writeAt_compact : ∀ (v : Value) (k : Nat), writeAt compact k v = writeAt compact 0 v
  | .list vs, k => by
    simp only [writeAt, enclosed_compact, writeItems_compact vs (k + 1),
      writeItems_compact vs (0 + 1)]
  | .tuple vs, k => by
    simp only [writeAt, enclosed_compact, writeItems_compact vs (k + 1),
      writeItems_compact vs (0 + 1)]
  | .map entries, k => by
    simp only [writeAt, enclosed_compact, writeMembers_compact entries (k + 1),
      writeMembers_compact entries (0 + 1)]
  | .null, _ | .bool _, _ | .int _, _ | .real _, _ | .text _, _ | .set _, _ | .frozen _, _
  | .point _ _ _, _ => by simp only [writeAt]

theorem writeItems_compact : ∀ (vs : List Value) (k : Nat),
    writeItems compact k vs = writeItems compact 0 vs
  | [], _ => rfl
  | v :: vs, k => by
    simp only [writeItems, writeAt_compact v k, writeItems_compact vs k]

theorem writeMembers_compact : ∀ (entries : List (String × Value)) (k : Nat),
    writeMembers compact k entries = writeMembers compact 0 entries
  | [], _ => rfl
  | (_, v) :: rest, k => by
    simp only [writeMembers, writeAt_compact v k, writeMembers_compact rest k]

end

theorem exists_writeItems {vs : List Value}
    (h : ∀ v ∈ vs, ∃ text, writeAt compact 0 v = .ok text) (k : Nat) :
    ∃ parts, writeItems compact k vs = .ok parts := by
  rw [writeItems_compact]
  induction vs with
  | nil => exact ⟨[], rfl⟩
  | cons v vs ih =>
    obtain ⟨text, htext⟩ := h v List.mem_cons_self
    obtain ⟨parts, hparts⟩ := ih fun w hw => h w (List.mem_cons_of_mem v hw)
    exact ⟨text :: parts, by rw [writeItems, htext, hparts]; rfl⟩

theorem write_eq_ok {style : Style} {v : Value} {text : String} :
    write style v = .ok text ↔ ∃ cs, writeAt style 0 v = .ok cs ∧ String.ofList cs = text := by
  rw [write]
  cases writeAt style 0 v with
  | error e => exact ⟨nofun, nofun⟩
  | ok cs =>
    constructor
    · intro h
      exact ⟨cs, rfl, Except.ok.inj h⟩
    · rintro ⟨_, h, rfl⟩
      obtain rfl := Except.ok.inj h
      rfl

/-- What was written is read back, however deep it is nested. -/
theorem decode_of_write {v : Value} {text : String} (hv : v.isProper = true)
    (h : write compact v = .ok text) : decode text = .ok v.plain := by
  obtain ⟨cs, hcs, rfl⟩ := write_eq_ok.mp h
  have hwritten := written_value v 0 cs hv hcs
  have hread := hwritten.reads (2 * cs.length + 2) cs.length [] (Nat.le_add_right _ 2)
    (Nat.le_refl _) stops_nil
  have hskip := hwritten.begins.skipBlanks []
  rw [List.append_nil] at hread hskip
  rw [decode, parseWithin, String.toList_ofList, hskip, hread]
  rfl

end Values

end Json

end CypherLink
