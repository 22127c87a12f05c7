import CypherLink.Json.Writer
import CypherLink.Proofs.Number.Shortest

/-!
Numbers on the wire: a text of digits, perhaps places and an exponent, is read as the number that it
stands for; and so the text that is written for a number is read as that number. Main statements:
`magnitude_text`, `number_int` and `number_real`.
-/

namespace CypherLink.Json

/-- A number does not go on here. -/
def Stops (rest : List Char) : Prop :=
  ∀ c ∈ rest.head?, isDigit c = false ∧ c ≠ '.' ∧ c ≠ 'e' ∧ c ≠ 'E'

/-- Digits, the first of which is a zero only if it is the only one. -/
def Whole (ds : List Char) : Prop :=
  ds = ['0'] ∨ ds ≠ [] ∧ (∀ c ∈ ds, isDigit c = true) ∧ ds.head? ≠ some '0'

def fractionText (places : List Char) : List Char := if places.isEmpty then [] else '.' :: places

def exponentText (exponent? : Option Int) : List Char :=
  exponent?.elim [] fun p => 'e' :: Decimal.signed p

section Digits

variable {ds rest : List Char} (hd : ∀ c ∈ ds, isDigit c = true)
  (hr : ∀ c ∈ rest.head?, isDigit c = false)

include hd hr

theorem takeWhile_digits : (ds ++ rest).takeWhile isDigit = ds := by
  rw [List.takeWhile_append_of_pos hd]
  cases rest with
  | nil => rw [List.takeWhile_nil, List.append_nil]
  | cons c rest =>
    have hc := hr c rfl
    rw [List.takeWhile_cons_of_neg (by rw [hc]; decide), List.append_nil]

theorem dropWhile_digits : (ds ++ rest).dropWhile isDigit = rest := by
  rw [List.dropWhile_append_of_pos hd]
  cases rest with
  | nil => rfl
  | cons c rest =>
    have hc := hr c rfl
    rw [List.dropWhile_cons_of_neg (by rw [hc]; decide)]

end Digits

theorem isDigit_zero : ∀ c ∈ ['0'], isDigit c = true :=
  fun _ hc => List.mem_singleton.mp hc ▸ rfl

theorem whole_toDigits (n : Nat) : Whole (Nat.toDigits 10 n) := by
  by_cases h : n = 0
  · subst h
    exact .inl rfl
  · exact .inr ⟨Nat.toDigits_ne_nil, fun c => isDigit_of_mem_toDigits, head_toDigits_ne_zero h⟩

section Parts

variable {rest : List Char}

theorem fractionPart_text {places : List Char} (hp : ∀ c ∈ places, isDigit c = true)
    (hr : ∀ c ∈ rest.head?, isDigit c = false ∧ c ≠ '.') :
    fractionPart (fractionText places ++ rest) = (places, rest) := by
  have hdigit : ∀ c ∈ rest.head?, isDigit c = false := fun c hc => (hr c hc).1
  cases places with
  | nil =>
    have hpoint : ∀ cs, rest = '.' :: cs → False := by
      rintro cs rfl
      exact (hr '.' rfl).2 rfl
    exact fractionPart.eq_2 rest hpoint
  | cons d ds =>
    change fractionPart ('.' :: ((d :: ds) ++ rest)) = _
    rw [fractionPart, takeWhile_digits hp hdigit, dropWhile_digits hp hdigit]

theorem exponentPart_stops (hr : Stops rest) : exponentPart rest = (none, rest) := by
  cases rest with
  | nil => rfl
  | cons c rest =>
    obtain ⟨-, -, he, hE⟩ := hr c rfl
    rw [exponentPart.eq_def]
    exact if_neg (not_or.mpr ⟨he, hE⟩)

theorem digits_signed (p : Int) :
    ∃ ds, Decimal.signed p = (if p < 0 then '-' else '+') :: ds ∧ ds ≠ [] ∧
      (∀ c ∈ ds, isDigit c = true) ∧ digitsValue ds = p.natAbs := by
  refine ⟨_, rfl, ?_, ?_, ?_⟩
  · exact List.append_ne_nil_of_right_ne_nil _ Nat.toDigits_ne_nil
  · intro c hc
    obtain hc | hc := List.mem_append.mp hc
    · rw [List.eq_of_mem_replicate hc]
      rfl
    · exact isDigit_of_mem_toDigits hc
  · rw [digitsValue_append, digitsValue_zeros, digitsValue_toDigits, Nat.zero_mul, Nat.zero_add]

theorem exponentPart_signed (hr : Stops rest) (p : Int) :
    exponentPart ('e' :: (Decimal.signed p ++ rest)) = (some p, rest) := by
  obtain ⟨ds, hsigned, hne, hds, hvalue⟩ := digits_signed p
  have hdigit : ∀ c ∈ rest.head?, isDigit c = false := fun c hc => (hr c hc).1
  have htake := takeWhile_digits hds hdigit
  have hdrop := dropWhile_digits hds hdigit
  obtain ⟨d, ds', rfl⟩ := List.exists_cons_of_ne_nil hne
  rw [List.cons_append] at htake hdrop
  rw [hsigned, exponentPart.eq_def]
  by_cases hp : p < 0
  · have hneg : -(digitsValue (d :: ds') : Int) = p := by omega
    simp [hp, htake, hdrop, hneg]
  · have hpos : (digitsValue (d :: ds') : Int) = p := by omega
    simp [hp, htake, hdrop, hpos]

theorem wholePart_text {whole : List Char} (hw : Whole whole)
    (hr : ∀ c ∈ rest.head?, isDigit c = false) :
    wholePart (whole ++ rest) = some (whole, rest) := by
  obtain rfl | ⟨hne, hdigits, hzero⟩ := hw
  · rfl
  · have htake := takeWhile_digits hdigits hr
    have hdrop := dropWhile_digits hdigits hr
    obtain ⟨d, ds, rfl⟩ := List.exists_cons_of_ne_nil hne
    have hd : ∀ cs, (d :: ds) ++ rest = '0' :: cs → False := by
      intro cs hcs
      exact hzero (congrArg some (List.cons.inj hcs).1)
    rw [wholePart, htake, hdrop]
    exact hd

theorem exponentPart_text (hr : Stops rest) (exponent? : Option Int) :
    exponentPart (exponentText exponent? ++ rest) = (exponent?, rest) := by
  cases exponent? with
  | none => exact exponentPart_stops hr
  | some p => exact exponentPart_signed hr p

theorem head_exponentText (hr : Stops rest) (exponent? : Option Int) :
    ∀ c ∈ (exponentText exponent? ++ rest).head?, isDigit c = false ∧ c ≠ '.' := by
  cases exponent? with
  | none =>
    intro c hc
    obtain ⟨hdigit, hpoint, -⟩ := hr c hc
    exact ⟨hdigit, hpoint⟩
  | some p =>
    intro c hc
    obtain rfl := Option.some.inj hc
    exact ⟨rfl, by decide⟩

theorem head_fractionText {places tail : List Char}
    (ht : ∀ c ∈ tail.head?, isDigit c = false ∧ c ≠ '.') :
    ∀ c ∈ (fractionText places ++ tail).head?, isDigit c = false := by
  cases places with
  | nil => exact fun c hc => (ht c hc).1
  | cons d ds =>
    intro c hc
    obtain rfl := Option.some.inj hc
    rfl

/-- What the text of a number is read as. -/
theorem magnitude_text (negative : Bool) {whole places : List Char} (exponent? : Option Int)
    (hw : Whole whole) (hp : ∀ c ∈ places, isDigit c = true) (hr : Stops rest) :
    magnitude negative (whole ++ (fractionText places ++ (exponentText exponent? ++ rest))) =
      if places.isEmpty && exponent?.isNone then
        if mostDigits < whole.length then .error .longInteger
        else .ok (.int (if negative then -(digitsValue whole : Int) else digitsValue whole), rest)
      else
        .ok (.real (Binary64.ofDecimal negative (digitsValue (whole ++ places))
          (exponent?.getD 0 - places.length)), rest) := by
  have hexponent := head_exponentText hr exponent?
  unfold magnitude
  rw [wholePart_text hw (head_fractionText hexponent)]
  dsimp only [expected, bind, Except.bind]
  rw [fractionPart_text hp hexponent, exponentPart_text hr]
  split
  · split <;> rfl
  · rfl

end Parts

/-- The text shows digits, places and perhaps an exponent, by which it stands for a decimal. -/
structure Spells (text : List Char) (d : Decimal) (whole places : List Char)
    (exponent? : Option Int) : Prop where
  text_eq : text = whole ++ (fractionText places ++ exponentText exponent?)
  whole_digits : Whole whole
  places_digits : ∀ c ∈ places, isDigit c = true
  isReal : (places.isEmpty && exponent?.isNone) = false
  worth : ∀ negative, Binary64.ofDecimal negative (digitsValue (whole ++ places))
    (exponent?.getD 0 - places.length) = Binary64.ofDecimal negative d.digits d.exponent

theorem fractionText_of_ne_nil {places : List Char} (h : places ≠ []) :
    fractionText places = '.' :: places :=
  if_neg (by rwa [List.isEmpty_iff])

section Spelling

variable {d : Decimal} {ds : List Char} (hds : Nat.toDigits 10 d.digits = ds)

include hds

theorem isDigit_of_digits : ∀ c ∈ ds, isDigit c = true := by
  subst hds
  exact fun c => isDigit_of_mem_toDigits

theorem digitsValue_digits : digitsValue ds = d.digits := by
  subst hds
  exact digitsValue_toDigits d.digits

theorem whole_take (hd : d.digits ≠ 0) {n : Nat} (hn : 0 < n) : Whole (ds.take n) := by
  have hhead := head_toDigits_ne_zero hd
  have hne : Nat.toDigits 10 d.digits ≠ [] := Nat.toDigits_ne_nil
  rw [hds] at hhead hne
  refine .inr ⟨?_, fun c hc => isDigit_of_digits hds c (List.mem_of_mem_take hc), ?_⟩
  · rw [Ne, List.take_eq_nil_iff]
    rintro (h | h)
    · omega
    · exact hne h
  · rwa [List.head?_take, if_neg (by omega)]

theorem spells_small {n : Nat} (hn : (n : Int) + ds.length + d.exponent = 0) :
    Spells ('0' :: '.' :: (List.replicate n '0' ++ ds)) d ['0'] (List.replicate n '0' ++ ds)
      none := by
  have hne : List.replicate n '0' ++ ds ≠ [] := by
    subst hds
    exact List.append_ne_nil_of_right_ne_nil _ Nat.toDigits_ne_nil
  constructor
  · rw [fractionText_of_ne_nil hne]
    exact (congrArg ('0' :: '.' :: ·) (List.append_nil _)).symm
  · exact .inl rfl
  · intro c hc
    obtain hc | hc := List.mem_append.mp hc
    · rw [List.eq_of_mem_replicate hc]
      rfl
    · exact isDigit_of_digits hds c hc
  · rw [List.isEmpty_eq_false_iff.mpr hne]
    rfl
  · intro negative
    have hvalue : digitsValue (['0'] ++ (List.replicate n '0' ++ ds)) = d.digits := by
      change digitsValue (List.replicate (n + 1) '0' ++ ds) = d.digits
      rw [digitsValue_append, digitsValue_zeros, Nat.zero_mul, Nat.zero_add, digitsValue_digits hds]
    have hexponent : (0 : Int) - ((List.replicate n '0' ++ ds).length : Nat) = d.exponent := by
      rw [List.length_append, List.length_replicate]
      omega
    rw [hvalue, Option.getD_none, hexponent]

theorem spells_whole (hd : d.digits ≠ 0) {k : Nat} (hk : d.exponent = k) :
    Spells (ds ++ List.replicate k '0' ++ ['.', '0']) d (ds ++ List.replicate k '0') ['0']
      none := by
  have hzeros : ds ++ List.replicate k '0' = Nat.toDigits 10 (d.digits * 10 ^ k) := by
    rw [toDigits_mul_pow hd, hds]
  rw [hzeros]
  constructor
  · rfl
  · exact whole_toDigits _
  · exact isDigit_zero
  · rfl
  · intro negative
    have hvalue : digitsValue (Nat.toDigits 10 (d.digits * 10 ^ k) ++ ['0']) =
        d.digits * 10 ^ (k + 1) := by
      rw [digitsValue_append, digitsValue_toDigits, Nat.pow_succ, ← Nat.mul_assoc]
      rfl
    rw [hvalue, Binary64.ofDecimal_mul_pow, hk]
    congr 1
    change (0 : Int) - 1 + ((k + 1 : Nat) : Int) = k
    omega

theorem spells_split (hd : d.digits ≠ 0) {n : Nat} (hn : 0 < n) (hlength : n < ds.length)
    (hexponent : d.exponent + ds.length = n) :
    Spells (ds.take n ++ '.' :: ds.drop n) d (ds.take n) (ds.drop n) none := by
  have hne : ds.drop n ≠ [] := by
    rw [Ne, List.drop_eq_nil_iff]
    omega
  constructor
  · rw [fractionText_of_ne_nil hne]
    exact congrArg (ds.take n ++ '.' :: ·) (List.append_nil _).symm
  · exact whole_take hds hd hn
  · exact fun c hc => isDigit_of_digits hds c (List.mem_of_mem_drop hc)
  · rw [List.isEmpty_eq_false_iff.mpr hne]
    rfl
  · intro negative
    rw [List.take_append_drop, digitsValue_digits hds, List.length_drop, Option.getD_none,
      show (0 : Int) - ((ds.length - n : Nat) : Int) = d.exponent by omega]

theorem spells_exponent (hd : d.digits ≠ 0) {place : Int}
    (hplace : place = ds.length - 1 + d.exponent) :
    Spells (ds.take 1 ++ (fractionText (ds.drop 1) ++ exponentText (some place))) d (ds.take 1)
      (ds.drop 1) (some place) := by
  have hpos : 0 < ds.length := by
    subst hds
    exact Nat.length_toDigits_pos
  constructor
  · rfl
  · exact whole_take hds hd Nat.one_pos
  · exact fun c hc => isDigit_of_digits hds c (List.mem_of_mem_drop hc)
  · rw [Option.isNone_some, Bool.and_false]
  · intro negative
    rw [List.take_append_drop, digitsValue_digits hds, List.length_drop, Option.getD_some,
      show place - ((ds.length - 1 : Nat) : Int) = d.exponent by omega]

end Spelling

/-- The text of a decimal stands for it. -/
theorem exists_spells {d : Decimal} (hd : d.digits ≠ 0) :
    ∃ whole places exponent?,
      Spells (Decimal.text Decimal.standard d) d whole places exponent? := by
  unfold Decimal.text
  generalize hds : Nat.toDigits 10 d.digits = ds
  have hpos : 0 < ds.length := by
    subst hds
    exact Nat.length_toDigits_pos
  dsimp only
  split
  · split
    · exact ⟨_, _, _, spells_small hds (by omega)⟩
    · split
      · exact ⟨_, _, _, spells_whole hds hd (by omega)⟩
      · exact ⟨_, _, _, spells_split hds hd (by omega) (by omega) (by omega)⟩
  · have hexponent := spells_exponent hds hd rfl
    match ds, hpos with
    | [c], _ => exact ⟨_, _, _, hexponent⟩
    | c :: c' :: cs, _ => exact ⟨_, _, _, hexponent⟩

theorem number_minus (negative : Bool) {c : Char} (hc : isDigit c = true) (cs : List Char) :
    number (Binary64.minus negative ++ c :: cs) = magnitude negative (c :: cs) := by
  cases negative with
  | false =>
    refine number.eq_2 (c :: cs) fun cs' h => ?_
    obtain ⟨rfl, -⟩ := List.cons.inj h
    exact absurd hc (by decide)
  | true =>
    have hword : afterWord "Infinity" (c :: cs) = none := by
      refine if_neg fun h => ?_
      obtain ⟨hletter, -⟩ := Bool.and_eq_true_iff.mp h
      obtain rfl := beq_iff_eq.mp hletter
      exact absurd hc (by decide)
    change number ('-' :: c :: cs) = _
    rw [number, hword]

theorem exists_digit_of_whole {whole : List Char} (h : Whole whole) :
    ∃ c cs, whole = c :: cs ∧ isDigit c = true := by
  obtain rfl | ⟨hne, hdigits, -⟩ := h
  · exact ⟨'0', [], rfl, rfl⟩
  · obtain ⟨c, cs, rfl⟩ := List.exists_cons_of_ne_nil hne
    exact ⟨c, cs, rfl, hdigits c List.mem_cons_self⟩

/-- What a signed text of a number is read as. -/
theorem number_text (negative : Bool) {whole places rest : List Char} (exponent? : Option Int)
    (hw : Whole whole) (hp : ∀ c ∈ places, isDigit c = true) (hr : Stops rest) :
    number (Binary64.minus negative ++
        (whole ++ (fractionText places ++ (exponentText exponent? ++ rest)))) =
      if places.isEmpty && exponent?.isNone then
        if mostDigits < whole.length then .error .longInteger
        else .ok (.int (if negative then -(digitsValue whole : Int) else digitsValue whole), rest)
      else
        .ok (.real (Binary64.ofDecimal negative (digitsValue (whole ++ places))
          (exponent?.getD 0 - places.length)), rest) := by
  rw [← magnitude_text negative exponent? hw hp hr]
  obtain ⟨c, cs, rfl, hc⟩ := exists_digit_of_whole hw
  exact number_minus negative hc _

theorem toList_toString (i : Int) :
    (toString i).toList = Binary64.minus (decide (i < 0)) ++ Nat.toDigits 10 i.natAbs := by
  cases i with
  | ofNat n => exact String.toList_ofList
  | negSucc n =>
    have htext : toString (Int.negSucc n) = "-" ++ String.ofList (Nat.toDigits 10 (n + 1)) := rfl
    rw [decide_eq_true (Int.negSucc_lt_zero n), htext, String.toList_append, String.toList_ofList,
      String.toList_ofList]
    rfl

/-- An integer of not too many digits is read from its text. -/
theorem number_int {i : Int} {rest : List Char} (hr : Stops rest)
    (hi : (Nat.toDigits 10 i.natAbs).length ≤ mostDigits) :
    number ((toString i).toList ++ rest) = .ok (.int i, rest) := by
  have hnone : ∀ c ∈ ([] : List Char), isDigit c = true := fun c hc => absurd hc List.not_mem_nil
  have htext := number_text (decide (i < 0)) none (whole_toDigits i.natAbs) hnone hr
  have hsign : (if decide (i < 0) = true then -(i.natAbs : Int) else i.natAbs) = i := by
    simp only [decide_eq_true_eq]
    split <;> omega
  rw [show ([].isEmpty && (none : Option Int).isNone) = true from rfl, if_pos rfl,
    if_neg (Nat.not_lt.mpr hi), digitsValue_toDigits, hsign] at htext
  rw [toList_toString, List.append_assoc]
  exact htext

/-- A finite number is read from its text. -/
theorem number_real {negative : Bool} {m : Nat} {e : Int} {rest : List Char} (hr : Stops rest)
    (h : Binary64.Proper (.finite negative m e)) :
    number ((Binary64.finite negative m e).text.toList ++ rest) =
      .ok (.real (.finite negative m e), rest) := by
  unfold Binary64.text
  dsimp only
  rw [String.toList_ofList, List.append_assoc]
  by_cases hm : m = 0
  · subst hm
    have he : e = Binary64.leastExponent := h.2.2.2.resolve_left (by decide)
    have htext := number_text negative none (.inl rfl) isDigit_zero hr
    rw [if_pos rfl, he]
    exact htext
  · obtain ⟨hdigits, hreads⟩ := Decimal.ofDecimal_shortest h hm
    obtain ⟨whole, places, exponent?, hspells⟩ := exists_spells hdigits
    have htext := number_text negative exponent? hspells.whole_digits hspells.places_digits hr
    rw [hspells.isReal, if_neg Bool.false_ne_true, hspells.worth, hreads] at htext
    rw [if_neg hm, hspells.text_eq, List.append_assoc, List.append_assoc]
    exact htext

end CypherLink.Json
