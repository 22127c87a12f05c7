import CypherLink.Proofs.Statement.Piece

/-!
Placeholders: the parameters that a reader finds in a statement. Main statements: `Asks.append`,
what two pieces of text ask for is asked for by both together, and `Spelled.lex_asked`.
-/

namespace CypherLink

open Name (quoted placeholder)

/-- The letters that a text outside the names begins with. -/
def letters : List Token → List Char
  | .outside c :: ts => if c.isAlpha then c :: letters ts else []
  | _ => []

/-- The name of a placeholder whose opening brace is already gone. A plain name may stand without
backticks. -/
def placeholder? : List Token → Option String
  | .outside ' ' :: .name x :: .outside ' ' :: .outside '\x7d' :: _ => some x
  | .outside ' ' :: ts =>
    match ts.drop (letters ts).length with
    | .outside ' ' :: .outside '\x7d' :: _ => some (String.ofList (letters ts))
    | _ => none
  | _ => none

/-- The names in the placeholders of a statement, in order. -/
def placeholders : List Token → List String
  | [] => []
  | .outside '\x7b' :: ts => (placeholder? ts).toList ++ placeholders ts
  | _ :: ts => placeholders ts

/-- The tokens ask for these parameters, whatever follows them. -/
def Asks (ts : List Token) (asked : List String) : Prop :=
  ∀ us, placeholders (ts ++ us) = asked ++ placeholders us

namespace Asks

variable {ts us : List Token} {as bs : List String}

theorem nil : Asks [] [] := fun _ => rfl

theorem append (ht : Asks ts as) (hu : Asks us bs) : Asks (ts ++ us) (as ++ bs) := by
  intro vs
  rw [List.append_assoc, ht, hu, List.append_assoc]

theorem placeholders_eq (h : Asks ts as) : placeholders ts = as := by
  simpa [placeholders] using h []

theorem name (x : String) : Asks [.name x] [] := fun _ => rfl

theorem outside {c : Char} (hc : c ≠ '\x7b') : Asks [.outside c] [] := by
  intro us
  rw [List.singleton_append, List.nil_append, placeholders]
  exact fun h => hc (Token.outside.inj h)

/-- Text without an opening brace asks for nothing. -/
theorem text {cs : List Char} (h : '\x7b' ∉ cs) : Asks (cs.map .outside) [] := by
  induction cs with
  | nil => exact nil
  | cons c cs ih =>
    simp only [List.mem_cons, not_or] at h
    exact (outside (Ne.symm h.1)).append (ih h.2)

theorem placeholder (x : String) :
    Asks ("\x7b ".toList.map .outside ++ .name x :: " \x7d".toList.map .outside) [x] :=
  fun _ => rfl

end Asks

/-- The text is made of pieces that have these names and ask for these parameters. -/
def Spelled (text : String) (names asked : List String) : Prop :=
  ∃ ps, Piece.render ps = text ∧ Piece.names ps = names ∧ Asks (ps.flatMap Piece.tokens) asked

namespace Spelled

variable {s t : String} {ms ns as bs : List String}

theorem built (h : Spelled s ns as) : Built s ns := by
  obtain ⟨ps, hr, hn, -⟩ := h
  exact ⟨ps, hr, hn⟩

theorem lex_asked (h : Spelled s ns as) :
    ∃ ts, lex s.toList = some ts ∧ placeholders ts = as := by
  obtain ⟨ps, rfl, -, ha⟩ := h
  exact ⟨ps.flatMap Piece.tokens, Piece.lex_render ps, ha.placeholders_eq⟩

theorem empty : Spelled "" [] [] := ⟨[], rfl, rfl, .nil⟩

theorem piece (p : Piece) (h : Asks p.tokens as) : Spelled p.text p.name?.toList as := by
  refine ⟨[p], Piece.render_singleton p, ?_, ?_⟩
  · rw [Piece.names_cons]
    exact List.append_nil _
  · rw [List.flatMap_singleton]
    exact h

theorem append (hs : Spelled s ms as) (ht : Spelled t ns bs) :
    Spelled (s ++ t) (ms ++ ns) (as ++ bs) := by
  obtain ⟨ps, rfl, rfl, hp⟩ := hs
  obtain ⟨qs, rfl, rfl, hq⟩ := ht
  refine ⟨ps ++ qs, Piece.render_append ps qs, Piece.names_append ps qs, ?_⟩
  rw [List.flatMap_append]
  exact hp.append hq

theorem asking (h : s ∈ phrases) (ha : Asks (s.toList.map .outside) as) : Spelled s [] as := by
  have hp := piece (.phrase s h) (by simpa [Piece.tokens, Piece.opening, Piece.name?] using ha)
  simpa [Piece.text, Piece.opening, Piece.name?] using hp

theorem phrase (h : s ∈ phrases) (hb : '\x7b' ∉ s.toList) : Spelled s [] [] :=
  asking h (.text hb)

theorem identifier (i : Identifier) : Spelled i.text [] [] := by
  have hb : '\x7b' ∉ i.text.toList := i.framed.notMem (by decide) (by decide)
  have hp := piece (.identifier i)
    (by simpa [Piece.tokens, Piece.opening, Piece.name?] using Asks.text hb)
  simpa [Piece.text, Piece.opening, Piece.name?] using hp

theorem hops (n : Nat) : Spelled (toString n) [] [] := by
  have hb : '\x7b' ∉ (toString n).toList := fun h => absurd (isDigit_of_mem_toString h) (by decide)
  have hp := piece (.hops n)
    (by simpa [Piece.tokens, Piece.opening, Piece.name?] using Asks.text hb)
  simpa [Piece.text, Piece.opening, Piece.name?] using hp

theorem name (h : s ∈ phrases) (hb : '\x7b' ∉ s.toList) (name : String) :
    Spelled (s ++ quoted name) [name] [] := by
  have ha := (Asks.text hb).append (.name name)
  have hp := piece (.name s h name)
    (by simpa [Piece.tokens, Piece.opening, Piece.name?] using ha)
  simpa [Piece.text, Piece.opening, Piece.name?] using hp

theorem placeholder (name : String) : Spelled (placeholder name) [name] [name] := by
  have ho : "\x7b " ∈ phrases := by simp [phrases]
  have hc : " \x7d" ∈ phrases := by simp [phrases]
  refine ⟨[.name "\x7b " ho name, .phrase " \x7d" hc], ?_, rfl, ?_⟩
  · simp [Piece.render_cons, Piece.render_nil, Piece.text, Piece.opening, Piece.name?,
      Name.placeholder]
  · simpa [Piece.tokens, Piece.opening, Piece.name?] using Asks.placeholder name

theorem concat_asking (hs : Spelled s ms as) (bs : List String) (ht : t ∈ phrases)
    (ha : Asks (t.toList.map .outside) bs) : Spelled (s ++ t) ms (as ++ bs) := by
  simpa using hs.append (asking ht ha)

theorem concat (hs : Spelled s ms as) (ht : t ∈ phrases) (hb : '\x7b' ∉ t.toList) :
    Spelled (s ++ t) ms as := by
  simpa using hs.concat_asking [] ht (.text hb)

theorem concat_name (hs : Spelled s ms as) (ht : t ∈ phrases) (hb : '\x7b' ∉ t.toList)
    (n : String) : Spelled (s ++ t ++ quoted n) (ms ++ [n]) as := by
  rw [String.append_assoc]
  simpa using hs.append (name ht hb n)

section Lists

variable {α : Type} {f : α → String} {g a : α → List String} {xs : List α}

theorem join (h : ∀ x ∈ xs, Spelled (f x) (g x) (a x)) :
    Spelled (String.join (xs.map f)) (xs.flatMap g) (xs.flatMap a) := by
  induction xs with
  | nil => exact empty
  | cons x xs ih =>
    rw [List.map_cons, String.join_cons, List.flatMap_cons, List.flatMap_cons]
    exact (h x List.mem_cons_self).append (ih fun y hy => h y (List.mem_cons_of_mem _ hy))

theorem intercalate (hs : s ∈ phrases) (hb : '\x7b' ∉ s.toList)
    (h : ∀ x ∈ xs, Spelled (f x) (g x) (a x)) :
    Spelled (s.intercalate (xs.map f)) (xs.flatMap g) (xs.flatMap a) := by
  induction xs with
  | nil => exact empty
  | cons x xs ih =>
    have hx := h x List.mem_cons_self
    have hxs := ih fun y hy => h y (List.mem_cons_of_mem _ hy)
    cases xs with
    | nil => simpa using hx
    | cons y ys =>
      rw [List.map_cons, List.map_cons, String.intercalate_cons_cons, List.flatMap_cons,
        List.flatMap_cons]
      exact (hx.concat hs hb).append hxs

section Names

variable {n : α → String} (h : ∀ x ∈ xs, Spelled (f x) [n x] [])

include h

theorem join_names : Spelled (String.join (xs.map f)) (xs.map n) [] := by
  have hj := join (a := fun _ => []) h
  rwa [← List.map_eq_flatMap, List.flatMap_eq_nil_iff.mpr fun _ _ => rfl] at hj

theorem intercalate_names (hs : s ∈ phrases) (hb : '\x7b' ∉ s.toList) :
    Spelled (s.intercalate (xs.map f)) (xs.map n) [] := by
  have hj := intercalate (a := fun _ => []) hs hb h
  rwa [← List.map_eq_flatMap, List.flatMap_eq_nil_iff.mpr fun _ _ => rfl] at hj

end Names

end Lists

theorem of_empty (h : Spelled "" ns as) : ns = [] ∧ as = [] := by
  obtain ⟨ps, hr, rfl, ha⟩ := h
  cases ps with
  | nil => exact ⟨rfl, ha.placeholders_eq.symm⟩
  | cons p ps =>
    rw [Piece.render_cons, Piece.text, String.append_eq_empty_iff, String.append_eq_empty_iff] at hr
    exact absurd (congrArg String.toList hr.1.1) p.opening_ne_nil

end Spelled

end CypherLink
