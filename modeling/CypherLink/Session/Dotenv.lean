import CypherLink.Entries
import CypherLink.Text.Space

/-!
Variables from a settings file. Each line binds a name to a value, or only names a variable, which
then has none; `export` may stand before the name, a comment after the value. A quoted value may run
over several lines and hold escapes. A value may name other variables, which are filled in from the
lines before it and from the environment.
-/

namespace CypherLink.Dotenv

structure Binding where
  name : Option String
  value : Option String
  deriving DecidableEq

def isInlineSpace (c : Char) : Bool := Space.isSpace c && c ≠ '\n'

/-- Drops the word `export` and the space behind it. -/
def skipExport (cs : List Char) : List Char :=
  if "export".toList.isPrefixOf cs then
    match (cs.drop 6).span isInlineSpace with
    | ([], _) => cs
    | (_, rest) => rest
  else cs

/-- The text up to its closing quote, and what follows the quote. A backslash keeps the character
after it from closing. -/
def quotedBody (quote : Char) : List Char → Option (List Char × List Char)
  | [] => none
  | '\\' :: c :: rest => (quotedBody quote rest).map fun r => ('\\' :: c :: r.1, r.2)
  | c :: rest =>
    if c = quote then some ([], rest) else (quotedBody quote rest).map fun r => (c :: r.1, r.2)

def escapeOf : Char → Char
  | 'a' => '\x07'
  | 'b' => '\x08'
  | 'f' => '\x0c'
  | 'n' => '\n'
  | 'r' => '\r'
  | 't' => '\t'
  | 'v' => '\x0b'
  | c => c

/-- Replaces the escapes of some characters; other backslashes stay. -/
def unescape (known : List Char) : List Char → List Char
  | '\\' :: c :: rest =>
    if known.contains c then escapeOf c :: unescape known rest
    else '\\' :: c :: unescape known rest
  | c :: rest => c :: unescape known rest
  | [] => []

/-- An unquoted value ends before a comment that a space introduces. -/
def dropComment : List Char → List Char
  | [] => []
  | c :: rest =>
    if Space.isSpace c then
      match (c :: rest).dropWhile Space.isSpace with
      | '#' :: _ => []
      | _ => c :: dropComment rest
    else c :: dropComment rest

/-- The value behind an equals sign, and what follows it. -/
def value (cs : List Char) : Option (List Char × List Char) :=
  match cs.dropWhile isInlineSpace with
  | '\'' :: rest =>
    (quotedBody '\'' rest).map fun r => (unescape ['\\', '\''] r.1, r.2)
  | '"' :: rest =>
    (quotedBody '"' rest).map fun r =>
      (unescape ['\\', '\'', '"', 'a', 'b', 'f', 'n', 'r', 't', 'v'] r.1, r.2)
  | _ =>
    let (line, rest) := cs.span (· ≠ '\n')
    some (Space.trim Space.isSpace (dropComment line), rest)

def name (cs : List Char) : Option (Option (List Char) × List Char) :=
  match cs with
  | '#' :: _ => some (none, cs)
  | '\'' :: rest =>
    match rest.span (· ≠ '\'') with
    | (c :: k, '\'' :: rest) => some (some (c :: k), rest)
    | _ => none
  | _ =>
    match cs.span fun c => c ≠ '=' && c ≠ '#' && !Space.isSpace c with
    | ([], _) => none
    | (k, rest) => some (some k, rest)

def skipComment (cs : List Char) : List Char :=
  match cs.dropWhile isInlineSpace with
  | '#' :: rest => rest.dropWhile (· ≠ '\n')
  | _ => cs

/-- What follows the end of a line, if nothing but space comes before it. -/
def endOfLine (cs : List Char) : Option (List Char) :=
  match cs.dropWhile isInlineSpace with
  | [] => some []
  | '\n' :: rest => some rest
  | _ => none

def skipLine (cs : List Char) : List Char := (cs.dropWhile (· ≠ '\n')).drop 1

/-- Reads one binding; a line that holds none is skipped from where it goes wrong. -/
def binding (cs : List Char) : Option Binding × List Char :=
  let cs := skipExport cs
  match name cs with
  | none => (none, skipLine cs)
  | some (key, rest) =>
    let rest := rest.dropWhile isInlineSpace
    let given : Option (Option (List Char) × List Char) :=
      match rest with
      | '=' :: rest => (value rest).map fun r => (some r.1, r.2)
      | _ => some (none, rest)
    match given with
    | none => (none, skipLine rest)
    | some (v, rest) =>
      match endOfLine (skipComment rest) with
      | some after => (some ⟨key.map String.ofList, v.map String.ofList⟩, after)
      | none => (none, skipLine (skipComment rest))

def bindings (fuel : Nat) (cs : List Char) : List Binding :=
  match fuel with
  | 0 => []
  | fuel + 1 =>
    match cs.dropWhile Space.isSpace with
    | [] => []
    | cs =>
      let (found, rest) := binding cs
      found.toList ++ bindings fuel rest

/-- Line ends are read as a line feed, however they are written. -/
def normalise : List Char → List Char
  | '\r' :: '\n' :: rest => '\n' :: normalise rest
  | '\r' :: rest => '\n' :: normalise rest
  | c :: rest => c :: normalise rest
  | [] => []

/-- A reference to a variable behind `$` and an opening brace: its name, its default, the rest. -/
def reference (cs : List Char) : Option (String × String × List Char) :=
  let (key, rest) := cs.span fun c => c ≠ '\x7d' && c ≠ ':'
  match rest with
  | '\x7d' :: rest => some (String.ofList key, "", rest)
  | ':' :: '-' :: rest =>
    match rest.span (· ≠ '\x7d') with
    | (fallback, '\x7d' :: rest) => some (String.ofList key, String.ofList fallback, rest)
    | _ => none
  | _ => none

def fill (fuel : Nat) (known : String → Option String) (cs : List Char) : List Char :=
  match fuel, cs with
  | 0, _ => cs
  | _, [] => []
  | fuel + 1, '$' :: '\x7b' :: rest =>
    match reference rest with
    | some (key, fallback, after) => ((known key).getD fallback).toList ++ fill fuel known after
    | none => '$' :: fill fuel known ('\x7b' :: rest)
  | fuel + 1, c :: rest => c :: fill fuel known rest

def dropMark : List Char → List Char
  | '\ufeff' :: rest => rest
  | cs => cs

/-- What a reference to a variable stands for. One that the file names without a value is empty. -/
def known (environment : Entries String String) (seen : Entries String (Option String))
    (name : String) : Option String :=
  match Entries.find? seen name with
  | some v => some (v.getD "")
  | none => Entries.find? environment name

/-- The variables of a file, with their values if they have any. A byte order mark is skipped. -/
def read (environment : Entries String String) (text : String) : Entries String (Option String) :=
  let cs := normalise (dropMark text.toList)
  (bindings (cs.length + 1) cs).foldl (fun seen b =>
    match b.name with
    | some name =>
      Entries.put seen name (b.value.map fun v =>
        String.ofList (fill (v.length + 1) (known environment seen) v.toList))
    | none => seen) []

theorem known_unset (environment : Entries String String) (name : String) :
    known environment [(name, none)] name = some "" := by
  simp [known, Entries.find?]

end CypherLink.Dotenv
