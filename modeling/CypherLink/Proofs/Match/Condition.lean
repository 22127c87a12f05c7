import CypherLink.Proofs.Match.Layout

/-!
Conditions: where a clause says `WHERE`. The word is looked for in the whole text of a clause, so a
name that contains it counts as a condition. Main statements: `Pattern.hasWhere_text`, a pattern has
the word only if its label or type does, and `Group.text_add`, each predicate that joins a clause is
introduced as the text of the clause asks for.
-/

namespace CypherLink

open Name (tick escape quoted)

/-- The word that opens a condition, with the blanks around it. -/
def whereWord : List Char := " WHERE ".toList

theorem tick_notMem_whereWord : tick ∉ whereWord := by decide +kernel

theorem infix_append_cons {α : Type} {w : List α} {a : α} (h : a ∉ w) (xs ys : List α) :
    w <:+: xs ++ a :: ys ↔ w <:+: xs ∨ w <:+: ys := by
  constructor
  · intro hw
    rcases List.infix_append_iff.mp hw with hx | hy | ⟨w₁, w₂, rfl, h₁, h₂⟩
    · exact .inl hx
    · rcases List.infix_cons_iff.mp hy with hp | hi
      · cases w with
        | nil => exact .inl List.nil_infix
        | cons c w =>
          have hc : c = a := (List.cons_prefix_cons.mp hp).1
          exact absurd (hc ▸ List.mem_cons_self) h
      · exact .inr hi
    · cases w₂ with
      | nil => exact .inl (by simpa using h₁.isInfix)
      | cons c w =>
        have hc : c = a := (List.cons_prefix_cons.mp h₂).1
        exact absurd (by simp [hc]) h
  · rintro (hx | hy)
    · exact List.infix_append_of_infix_left hx
    · exact List.infix_append_of_infix_right (List.infix_cons hy)

theorem prefix_of_prefix_escape {w cs : List Char} (h : tick ∉ w) (hw : w <+: escape cs) :
    w <+: cs := by
  induction cs generalizing w with
  | nil => simpa [escape] using hw
  | cons c cs ih =>
    cases w with
    | nil => exact List.nil_prefix
    | cons d w =>
      simp only [List.mem_cons, not_or] at h
      by_cases hc : c = tick
      · simp only [escape, hc, if_true] at hw
        exact absurd (List.cons_prefix_cons.mp hw).1.symm h.1
      · simp only [escape, hc, if_false] at hw
        obtain ⟨hd, hr⟩ := List.cons_prefix_cons.mp hw
        exact List.cons_prefix_cons.mpr ⟨hd, ih h.2 hr⟩

theorem escape_of_notMem {w : List Char} (h : tick ∉ w) : escape w = w := by
  induction w with
  | nil => rfl
  | cons c w ih =>
    simp only [List.mem_cons, not_or] at h
    simp [escape, Ne.symm h.1, ih h.2]

theorem infix_escape {w cs : List Char} (h : tick ∉ w) : w <:+: escape cs ↔ w <:+: cs := by
  constructor
  · intro hw
    induction cs with
    | nil => simpa [escape] using hw
    | cons c cs ih =>
      by_cases hc : c = tick
      · simp only [escape, hc, if_true] at hw
        have hr := (infix_append_cons h [tick] _).mp hw
        rcases hr with h1 | hr
        · have h0 := (infix_append_cons h [] []).mp h1
          have hn : w = [] := by simpa using h0
          exact hn ▸ List.nil_infix
        · exact List.infix_cons (ih hr)
      · simp only [escape, hc, if_false] at hw
        rcases List.infix_cons_iff.mp hw with hp | hi
        · have hp' : w <+: escape (c :: cs) := by simpa [escape, hc] using hp
          exact (prefix_of_prefix_escape h hp').isInfix
        · exact List.infix_cons (ih hi)
  · rintro ⟨xs, ys, rfl⟩
    refine ⟨escape xs, escape ys, ?_⟩
    rw [Name.escape_append, Name.escape_append, escape_of_notMem h]

theorem not_infix_of_notMem {pre : List Char} (h : 'W' ∉ pre) : ¬ whereWord <:+: pre := by
  intro hw
  have hm : 'W' ∈ whereWord := by decide +kernel
  exact h (hw.subset hm)

theorem infix_around_quoted {pre post : List Char} (name : String) (hpre : 'W' ∉ pre)
    (hpost : 'W' ∉ post) :
    whereWord <:+: pre ++ (quoted name).toList ++ post ↔ whereWord <:+: name.toList := by
  have hs : pre ++ (quoted name).toList ++ post =
      pre ++ tick :: (escape name.toList ++ tick :: post) := by
    simp [Name.toList_quoted]
  rw [hs, infix_append_cons tick_notMem_whereWord, infix_append_cons tick_notMem_whereWord,
    infix_escape tick_notMem_whereWord]
  simp [not_infix_of_notMem hpre, not_infix_of_notMem hpost]

theorem isDigit_of_mem_toString {n : Nat} {c : Char} (h : c ∈ (toString n).toList) :
    c.isDigit = true := by
  rw [Nat.toString_eq_repr, Nat.toList_repr] at h
  exact Nat.isDigit_of_mem_toDigits (by decide) (by decide) h

theorem eq_of_toString_eq {m n : Nat} (h : toString m = toString n) : m = n := by
  have hd := congrArg (fun s => Nat.ofDigitChars 10 s.toList 0) h
  simpa [Nat.ofDigitChars_ten_toDigits] using hd

theorem Identifier.mem_text {i : Identifier} {c : Char} (h : c ∈ i.text.toList) :
    c ∈ ['n', 'r', 'm'] ∨ c.isDigit = true := by
  cases i with
  | root => exact .inl (by simp_all [Identifier.text, Clause.rootIdentifier])
  | relationship => exact .inl (by simp_all [Identifier.text, Clause.relationshipIdentifier])
  | far k =>
    simp only [Identifier.text, Composed.farIdentifier, String.toList_append, List.mem_append] at h
    rcases h with h | h
    · exact .inl (by simp_all)
    · exact .inr (isDigit_of_mem_toString h)

/-- The characters of a pattern that are no digits and belong to no name. -/
def frame : List Char := "MATCH (nrm:)-[]<>".toList

def Framed (cs : List Char) : Prop := ∀ c ∈ cs, c ∈ frame ∨ c.isDigit = true

instance (cs : List Char) : Decidable (Framed cs) :=
  List.decidableBAll (fun c => c ∈ frame ∨ c.isDigit = true) cs

theorem Framed.append {xs ys : List Char} (hx : Framed xs) (hy : Framed ys) : Framed (xs ++ ys) := by
  intro c hc
  rcases List.mem_append.mp hc with hc | hc
  · exact hx c hc
  · exact hy c hc

theorem Framed.notMem {cs : List Char} (h : Framed cs) {c : Char} (hf : c ∉ frame)
    (hd : c.isDigit = false) : c ∉ cs := by
  intro hc
  rcases h c hc with hm | hm
  · exact hf hm
  · simp [hd] at hm

theorem Identifier.framed (i : Identifier) : Framed i.text.toList := by
  have hletters : Framed ['n', 'r', 'm'] := by decide
  intro c hc
  rcases i.mem_text hc with hm | hd
  · exact hletters c hm
  · exact .inr hd

namespace Pattern

theorem text_around (p : Pattern) : ∃ pre post : List Char,
    p.text.toList = pre ++ (quoted p.word).toList ++ (post ++ [' ']) ∧ Framed pre ∧ Framed post := by
  have hmatch : Framed "MATCH (".toList := by decide
  cases p with
  | node identifier label =>
    refine ⟨"MATCH (".toList ++ identifier.text.toList ++ [':'], [')'], ?_, ?_, by decide⟩
    · unfold text Clause.node
      simp [word]
    · exact (hmatch.append identifier.framed).append (by decide)
  | relationship type direction far bound =>
    have hleft : Framed (Clause.leftArrow direction).toList := by cases direction <;> decide
    have hright : Framed (Clause.rightArrow direction).toList := by cases direction <;> decide
    have hbound : Framed (if bound then "r" else "").toList := by cases bound <;> decide
    have hfar : Framed (Composed.farIdentifier far).toList := (Identifier.far far).framed
    refine ⟨"MATCH (n)".toList ++ (Clause.leftArrow direction).toList ++ "-[".toList ++
        (if bound then "r" else "").toList ++ [':'],
      "]-".toList ++ (Clause.rightArrow direction).toList ++ ['('] ++
        (Composed.farIdentifier far).toList ++ [')'], ?_, ?_, ?_⟩
    · unfold text Clause.relationship
      simp [word, Clause.rootIdentifier, Clause.relationshipIdentifier]
    · have hopen : Framed ("MATCH (n)".toList ++ (Clause.leftArrow direction).toList) :=
        Framed.append (by decide) hleft
      exact ((hopen.append (by decide)).append hbound).append (by decide)
    · have hclose : Framed ("]-".toList ++ (Clause.rightArrow direction).toList) :=
        Framed.append (by decide) hright
      exact ((hclose.append (by decide)).append hfar).append (by decide)

theorem hasWhere_text (p : Pattern) : p.text.hasWhere = true ↔ whereWord <:+: p.word.toList := by
  obtain ⟨pre, post, ht, hpre, hpost⟩ := p.text_around
  rw [Clause.hasWhere, occursIn_iff, ht]
  have hpost : 'W' ∉ post := hpost.notMem (by decide) (by decide)
  exact infix_around_quoted p.word (hpre.notMem (by decide) (by decide)) (by simpa using hpost)

end Pattern

theorem Placed.text_first (p : Placed) : p.text true = "WHERE " ++ p.fragment := rfl

namespace Group

theorem hasWhere_text {g : Group} (h : g.placed ≠ []) : g.text.hasWhere = true := by
  obtain ⟨p, ps, hp⟩ := List.exists_cons_of_ne_nil h
  cases hw : g.pattern.text.hasWhere with
  | true => exact Clause.hasWhere_append_of_left _ _ hw
  | false =>
    obtain ⟨pre, post, ht, -, -⟩ := g.pattern.text_around
    have hs : g.text = g.pattern.text ++ ("WHERE " ++ p.fragment ++ Placed.texts false ps) := by
      rw [Group.text, hw, hp, Placed.texts, Bool.not_false, Placed.text_first]
    have hword : whereWord = ' ' :: "WHERE ".toList := by decide +kernel
    rw [Clause.hasWhere, occursIn_iff, hs]
    refine ⟨pre ++ (quoted g.pattern.word).toList ++ post,
      p.fragment.toList ++ (Placed.texts false ps).toList, ?_⟩
    change _ ++ whereWord ++ _ = _
    simp only [hword, String.toList_append, ht, List.append_assoc, List.cons_append,
      List.nil_append]

/-- A predicate that joins a clause opens its condition exactly if the text has none so far. -/
theorem text_add (g : Group) (p : Placed) :
    (g.add p).text = g.text ++ p.text (!g.text.hasWhere) := by
  have hs : (g.add p).text =
      g.text ++ p.text (!g.pattern.text.hasWhere && g.placed.isEmpty) := by
    simp [text, add, Placed.texts_append, String.append_assoc]
  rw [hs]
  cases hp : g.placed with
  | nil =>
    have hg : g.text = g.pattern.text := by simp [text, hp, Placed.texts]
    simp [hg]
  | cons q qs => simp [hasWhere_text (g := g) (by simp [hp])]

end Group

end CypherLink
