import CypherLink.Text.Occurrence
import CypherLink.Value.Display
import CypherLink.Value.Equality

/-!
Taking values apart. A value of the wrong kind is refused with the operation that it does not have.
-/

namespace CypherLink

inductive AccessError where
  | noAttribute (kind : Kind) (name : String)
  | notIterable (kind : Kind)
  | noMembership (kind : Kind)
  | textIndex
  | listIndex
  | unhashable (kind : Kind)
  | missingKey (key : Value)

def AccessError.message : AccessError → String
  | .noAttribute kind name => "'" ++ kind.name ++ "' object has no attribute '" ++ name ++ "'"
  | .notIterable kind => "'" ++ kind.name ++ "' object is not iterable"
  | .noMembership kind => "argument of type '" ++ kind.name ++ "' is not iterable"
  | .textIndex => "string indices must be integers, not 'str'"
  | .listIndex => "list indices must be integers or slices, not str"
  | .unhashable kind => "unhashable type: '" ++ kind.name ++ "'"
  | .missingKey key => key.literal

namespace Value

/-- The member of a map with that name, if the map has one. -/
def member? (v : Value) (name : String) : Except AccessError (Option Value) :=
  match v with
  | .map entries => .ok (Entries.find? entries name)
  | v => .error (.noAttribute v.kind "get")

/-- The elements in order: those of a collection, the characters of a text, the keys of a map. -/
def elements (v : Value) : Except AccessError (List Value) :=
  match v with
  | .list items | .tuple items | .set items | .frozen items => .ok items
  | .text s => .ok (s.toList.map fun c => .text (String.singleton c))
  | .map entries => .ok (entries.map fun e => .text e.1)
  | v => .error (.notIterable v.kind)

/-- Whether a word is a key of the map, an element of the collection or a part of the text. -/
def holds (v : Value) (word : String) : Except AccessError Bool :=
  match v with
  | .map entries => .ok (Entries.find? entries word).isSome
  | .text s => .ok (occursIn word.toList s.toList)
  | .list items | .tuple items | .set items | .frozen items =>
    .ok (items.any fun item => item.agrees (.text word))
  | v => .error (.noMembership v.kind)

/-- The member of a map that is known to hold the name. -/
def member (v : Value) (name : String) : Except AccessError Value :=
  match v with
  | .map entries =>
    match Entries.find? entries name with
    | some w => .ok w
    | none => .error (.missingKey (.text name))
  | .text _ => .error .textIndex
  | _ => .error .listIndex

/-- The elements of a set: each is taken once and has to be one that can be told from the others. -/
def distinct (items : List Value) : Except AccessError (List Value) :=
  match firstUnhashable? items with
  | some kind => .error (.unhashable kind)
  | none =>
    .ok (items.foldl (fun seen v => if seen.any (·.agrees v) then seen else seen ++ [v]) [])

theorem member_map (entries : List (String × Value)) (name : String) (v : Value)
    (h : Entries.find? entries name = some v) : (Value.map entries).member name = .ok v := by
  simp [member, h]

end Value

end CypherLink
