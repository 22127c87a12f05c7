import CypherLink.Text.Hex
import CypherLink.Text.Utf8

/-!
Characters that may not stand in a part of an address are written as their bytes after percent signs.
Each part has its own safe characters; the percent sign is safe everywhere.
-/

namespace CypherLink.Percent

def isVisible (c : Char) : Bool := 0x20 < c.toNat && c.toNat < 0x7f

def pathSafe (c : Char) : Bool :=
  isVisible c && !(['"', '#', '<', '>', '?', '\x60', '\x7b', '\x7d'].contains c)

def querySafe (c : Char) : Bool := isVisible c && !(['"', '#', '<', '>'].contains c)

def fragmentSafe (c : Char) : Bool := isVisible c && !(['"', '<', '>', '\x60'].contains c)

def userinfoSafe (c : Char) : Bool :=
  pathSafe c && !(['/', ';', '=', '@', '[', '\\', ']', '^', '|'].contains c)

def hostSafe (c : Char) : Bool :=
  isVisible c && !(['#', '/', ':', '<', '>', '?', '@', '[', ']', '^'].contains c)

/-- Writes each unsafe character as its bytes. -/
def encode (safe : Char → Bool) (cs : List Char) : List Char :=
  cs.flatMap fun c =>
    if safe c then [c]
    else (String.singleton c).toUTF8.toList.flatMap fun b => '%' :: Hex.byte b

/-- The bytes of a text in which percent signs may introduce bytes. -/
def bytes : List Char → List UInt8
  | '%' :: a :: b :: rest =>
    match Hex.value? a, Hex.value? b with
    | some x, some y => UInt8.ofNat (x * 16 + y) :: bytes rest
    | _, _ => "%".toUTF8.toList ++ bytes (a :: b :: rest)
  | c :: rest => (String.singleton c).toUTF8.toList ++ bytes rest
  | [] => []

def decode (cs : List Char) : List Char := Utf8.lossy (bytes cs)

theorem encode_safe (safe : Char → Bool) (cs : List Char) (h : ∀ c ∈ cs, safe c = true) :
    encode safe cs = cs := by
  induction cs with
  | nil => rfl
  | cons c cs ih =>
    have hc := h c (by simp)
    have ht := ih fun d hd => h d (List.mem_cons_of_mem _ hd)
    simp only [encode, List.flatMap_cons, hc, if_true, List.singleton_append] at *
    rw [ht]

theorem safe_percent :
    pathSafe '%' ∧ querySafe '%' ∧ fragmentSafe '%' ∧ userinfoSafe '%' ∧ hostSafe '%' := by decide

end CypherLink.Percent
