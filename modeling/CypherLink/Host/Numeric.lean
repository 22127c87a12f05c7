import CypherLink.Host.Domain
import CypherLink.Text.Hex

/-!
Hosts given by a number. One of 32 bits is written as four decimal numbers, one of 128 bits as groups
of hexadecimal digits, where one run of zero groups may be left out.
-/

namespace CypherLink.Host.Numeric

def isDigit (c : Char) : Bool := '0' ≤ c && c ≤ '9'

/-- What may follow the first characters of a text that looks like four decimal numbers: an even
stage waits for the first digit of a number, an odd one for more digits or for what stands between. -/
def nextStages (c : Char) (stage : Nat) : List Nat :=
  if stage % 2 = 0 then if isDigit c then [stage + 1] else []
  else (if isDigit c then [stage] else []) ++ (if stage < 7 then [stage + 1] else [])

/-- Whether a text is four runs of digits with one character, whichever it is, between them. -/
def looksDotted (host : List Char) : Bool :=
  (host.foldl (fun stages c => (stages.flatMap (nextStages c)).eraseDups) [0]).contains 7

def isOctet (cs : List Char) : Bool :=
  cs ≠ [] && cs.all isDigit && cs.length ≤ 3 && (cs = ['0'] || cs.head? ≠ some '0') &&
    cs.foldl (fun n d => n * 10 + (d.toNat - '0'.toNat)) 0 ≤ 255

def isDotted (host : List Char) : Bool :=
  let pieces := cutAt (· = '.') host
  pieces.length = 4 && pieces.all isOctet

def isGroup (cs : List Char) : Bool :=
  cs ≠ [] && cs.length ≤ 4 && cs.all fun c => (Hex.value? c).isSome

/-- The number of groups in a text; four decimal numbers at its end may stand for two of them. -/
def groupCount? (dottedEnd : Bool) (cs : List Char) : Option Nat :=
  if cs = [] then some 0
  else
    let pieces := cutAt (· = ':') cs
    match dottedEnd && pieces.getLast?.any isDotted with
    | true => if pieces.dropLast.all isGroup then some (pieces.length + 1) else none
    | false => if pieces.all isGroup then some pieces.length else none

/-- The text before the first two colons, and the text behind them. -/
def splitGap : List Char → Option (List Char × List Char)
  | ':' :: ':' :: rest => some ([], rest)
  | c :: rest => (splitGap rest).map fun (before, after) => (c :: before, after)
  | [] => none

def isGrouped (cs : List Char) : Bool :=
  match splitGap cs with
  | none => groupCount? true cs = some 8
  | some (before, after) =>
    match groupCount? false before, groupCount? true after with
    | some m, some n => m + n ≤ 7
    | _, _ => false

/-- A percent sign and the name of a zone may follow the groups. -/
def isZoned (host : List Char) : Bool :=
  match host.span (· ≠ '%') with
  | (address, []) => isGrouped address
  | (address, _ :: zone) => zone ≠ [] && !zone.contains '%' && isGrouped address

theorem isDotted_loopback : isDotted "127.0.0.1".toList = true := by decide +kernel

theorem isZoned_loopback : isZoned "::1".toList = true := by decide +kernel

theorem not_isZoned_zone : isZoned "::1%".toList = false := by decide +kernel

end CypherLink.Host.Numeric
