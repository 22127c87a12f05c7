import CypherLink.Text.Literal

/-!
Text that has to be ASCII because it stands in a header.
-/

namespace CypherLink.Ascii

def isAscii (c : Char) : Bool := c.toNat < 128

/-- The first run of characters that a header cannot hold, and its place. -/
structure Fault where
  place : Nat
  chars : List Char
  deriving DecidableEq

def fault? (text : List Char) : Option Fault :=
  match (text.dropWhile isAscii).takeWhile fun c => !isAscii c with
  | [] => none
  | chars => some ⟨(text.takeWhile isAscii).length, chars⟩

def Fault.message (f : Fault) : String :=
  "'ascii' codec can't encode " ++
    (match f.chars with
      | [c] =>
        "character '" ++ String.ofList (Literal.numbered c) ++ "' in position " ++ toString f.place
      | cs =>
        "characters in position " ++ toString f.place ++ "-" ++
          toString (f.place + cs.length - 1)) ++
    ": ordinal not in range(128)"

theorem fault?_of_ascii (text : List Char) (h : ∀ c ∈ text, isAscii c = true) :
    fault? text = none := by
  have : text.dropWhile isAscii = [] := by
    induction text with
    | nil => rfl
    | cons c rest ih =>
      rw [List.dropWhile_cons_of_pos (h c (by simp))]
      exact ih fun d hd => h d (List.mem_cons_of_mem _ hd)
  simp [fault?, this]

end CypherLink.Ascii
