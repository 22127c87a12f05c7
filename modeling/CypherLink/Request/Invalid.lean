import CypherLink.Value.Access

/-!
Values that do not fit the field they are given for. All faults of a record are reported together,
in the order of its fields.
-/

namespace CypherLink

inductive FaultKind where
  | missing | textType | tupleType | boolParsing | boolType | floatParsing | floatType | frozen
  deriving DecidableEq

namespace FaultKind

def code : FaultKind → String
  | .missing => "missing"
  | .textType => "string_type"
  | .tupleType => "tuple_type"
  | .boolParsing => "bool_parsing"
  | .boolType => "bool_type"
  | .floatParsing => "float_parsing"
  | .floatType => "float_type"
  | .frozen => "frozen_instance"

def message : FaultKind → String
  | .missing => "Field required"
  | .textType => "Input should be a valid string"
  | .tupleType => "Input should be a valid tuple"
  | .boolParsing => "Input should be a valid boolean, unable to interpret input"
  | .boolType => "Input should be a valid boolean"
  | .floatParsing => "Input should be a valid number, unable to parse string as a number"
  | .floatType => "Input should be a valid number"
  | .frozen => "Instance is frozen"

end FaultKind

/-- A fault in a field, or in an element of it. -/
structure Fault where
  kind : FaultKind
  field : String
  element : Option Nat := none
  deriving DecidableEq

structure Invalid where
  title : String
  faults : List Fault
  deriving DecidableEq

/-- The record's name, then each fault behind its field. -/
def Invalid.message (e : Invalid) : String :=
  e.title ++ " is not valid" ++ String.join (e.faults.map fun f =>
    "\n" ++ f.field ++
      (match f.element with
        | some i => "." ++ toString i
        | none => "") ++
      ": " ++ f.kind.message)

/-- Either a value or the faults that prevent it. -/
abbrev Checked (α : Type) := Except (List Fault) α

namespace Checked

def faults {α : Type} : Checked α → List Fault
  | .ok _ => []
  | .error fs => fs

theorem faults_eq_nil_of_ok {α : Type} {c : Checked α} {a : α} (h : c = .ok a) : c.faults = [] := by
  subst h
  rfl

end Checked

namespace Value

def asText (field : String) : Value → Checked String
  | .text s => .ok s
  | _ => .error [⟨.textType, field, none⟩]

def truthWords : List (String × Bool) :=
  [("0", false), ("f", false), ("n", false), ("no", false), ("off", false), ("false", false),
    ("1", true), ("t", true), ("y", true), ("yes", true), ("on", true), ("true", true)]

def ofInteger? (i : Int) : Option Bool :=
  if i = 0 then some false else if i = 1 then some true else none

/-- A truth value, or a number or a word that stands for one. -/
def asBool (field : String) (v : Value) : Checked Bool :=
  let parsed (b? : Option Bool) : Checked Bool :=
    match b? with
    | some b => .ok b
    | none => .error [⟨.boolParsing, field, none⟩]
  match v with
  | .bool b => .ok b
  | .int i => parsed (ofInteger? i)
  | .real x =>
    match x.toInt? with
    | some i => parsed (ofInteger? i)
    | none => .error [⟨.boolType, field, none⟩]
  | .text s => parsed (Entries.find? truthWords (s.map Char.toLower))
  | _ => .error [⟨.boolType, field, none⟩]

/-- A collection of texts; each element that is no text is a fault of its own. -/
def asTexts (field : String) (v : Value) : Checked (List String) :=
  match v with
  | .list items | .tuple items | .set items | .frozen items =>
    let faults := (items.zipIdx.filter fun e => e.1.kind ≠ .text).map fun e =>
      (⟨.textType, field, some e.2⟩ : Fault)
    if faults.isEmpty then
      .ok (items.filterMap fun
        | .text s => some s
        | _ => none)
    else .error faults
  | _ => .error [⟨.tupleType, field, none⟩]

end Value

end CypherLink
