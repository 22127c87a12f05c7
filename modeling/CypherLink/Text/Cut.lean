/-!
Texts cut into pieces at some of their characters.
-/

namespace CypherLink

/-- Cuts a text at some characters: there is one piece more than there are cuts. -/
def cutAt (isCut : Char → Bool) : List Char → List (List Char)
  | [] => [[]]
  | c :: rest =>
    match isCut c, cutAt isCut rest with
    | true, pieces => [] :: pieces
    | false, piece :: pieces => (c :: piece) :: pieces
    | false, [] => [[c]]

theorem length_cutAt (isCut : Char → Bool) (cs : List Char) :
    (cutAt isCut cs).length = cs.countP isCut + 1 := by
  induction cs with
  | nil => rfl
  | cons c rest ih =>
    cases h : isCut c
    · simp only [cutAt, h, List.countP_cons, Bool.false_eq_true, if_false]
      split <;> simp_all
    · simp [cutAt, h, ih]

end CypherLink
