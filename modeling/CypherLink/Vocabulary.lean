import CypherLink.Value.Display

/-!
Closed sets of words. Each word has a name, by which it is shown, and a symbol, by which it is
written and looked up.
-/

namespace CypherLink

structure Vocabulary (α : Type) where
  title : String
  members : List α
  name : α → String
  symbol : α → String

/-- A value that is the symbol of no word of the vocabulary with that title. -/
structure UnknownWord where
  title : String
  value : Value

def UnknownWord.message (e : UnknownWord) : String :=
  e.value.literal ++ " is not a valid " ++ e.title

namespace Vocabulary

variable {α : Type}

def find? (voc : Vocabulary α) (symbol : String) : Option α :=
  voc.members.find? fun a => voc.symbol a = symbol

theorem symbol_of_find? {voc : Vocabulary α} {s : String} {a : α} (h : voc.find? s = some a) :
    voc.symbol a = s := by
  simpa using List.find?_some h

def lookup (voc : Vocabulary α) (v : Value) : Except UnknownWord α :=
  match v with
  | .text s =>
    match voc.find? s with
    | some a => .ok a
    | none => .error ⟨voc.title, v⟩
  | _ => .error ⟨voc.title, v⟩

/-- A word as messages show it, with its name and its symbol. -/
def shown (voc : Vocabulary α) (a : α) : String :=
  "<" ++ voc.title ++ "." ++ voc.name a ++ ": " ++ Literal.shown (voc.symbol a) ++ ">"

end Vocabulary

end CypherLink
