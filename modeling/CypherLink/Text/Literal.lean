import CypherLink.Text.Hex
import CypherLink.Text.Printable

/-!
A text shown between quotes. Single quotes are used, unless the text holds one and no double quote;
what cannot be printed is shown by its number.
-/

namespace CypherLink.Literal

def quoteFor (text : List Char) : Char :=
  if text.contains '\'' && !text.contains '"' then '"' else '\''

/-- The shortest of the three numbered escapes that can hold the character. -/
def numbered (c : Char) : List Char :=
  if c.toNat < 0x100 then '\\' :: 'x' :: Hex.padded 2 c.toNat
  else if c.toNat < 0x10000 then '\\' :: 'u' :: Hex.padded 4 c.toNat
  else '\\' :: 'U' :: Hex.padded 8 c.toNat

def escapeChar (quote c : Char) : List Char :=
  if c = quote ∨ c = '\\' then ['\\', c]
  else if c = '\t' then ['\\', 't']
  else if c = '\n' then ['\\', 'n']
  else if c = '\r' then ['\\', 'r']
  else if Printable.isPrintable c then [c]
  else numbered c

def shown (text : String) : String :=
  let quote := quoteFor text.toList
  String.ofList (quote :: (text.toList.flatMap (escapeChar quote) ++ [quote]))

theorem shown_plain : shown "Tom" = "'Tom'" := by decide +kernel

theorem shown_apostrophe : shown "x' OR" = "\"x' OR\"" := by decide +kernel

end CypherLink.Literal
