import CypherLink.Request.Basic

/-!
How far a query reaches from its root nodes: not at all, up to a number of hops, or without bound.
The match of the root nodes comes first, then the page, then the paths.
-/

namespace CypherLink

inductive Reach where
  | nowhere
  | upTo (hops : Nat)
  | unbounded
  deriving DecidableEq

/-- The match that binds the root nodes; a filtered one is also asked which nodes they are. -/
structure RootMatch where
  text : String
  parameters : Entries String Value
  filtered : Bool := false

namespace Reach

/-- The reaches that can be asked for by their titles. -/
inductive Form where
  | nowhere | bounded | unbounded
  deriving DecidableEq

def Form.title : Form → String
  | .nowhere => "ZeroDepthStrategy"
  | .bounded => "BoundedDepthStrategy"
  | .unbounded => "UnboundedDepthStrategy"

/-- A negative depth is no bound. -/
def ofDepth (depth : Int) : Reach :=
  if depth < 0 then .unbounded else if depth = 0 then .nowhere else .upTo depth.toNat

/-- At most that many hops; below zero there are none. -/
def bounded (depth : Int) : Reach := .upTo depth.toNat

def form : Reach → Form
  | .nowhere => .nowhere
  | .upTo _ => .bounded
  | .unbounded => .unbounded

def title (reach : Reach) : String := reach.form.title

/-- A bounded reach needs a depth, and no other takes one. -/
inductive FormError where
  | missingDepth
  | surplusDepth (form : Form)
  deriving DecidableEq

def FormError.message : FormError → String
  | .missingDepth =>
    Form.bounded.title ++ ".__init__() missing 1 required positional argument: 'depth'"
  | .surplusDepth .nowhere => Form.nowhere.title ++ "() takes no arguments"
  | .surplusDepth form =>
    form.title ++ ".__init__() takes 1 positional argument but 2 were given"

def ofForm (form : Form) (depth : Option Int) : Except FormError Reach :=
  match form, depth with
  | .nowhere, none => .ok .nowhere
  | .unbounded, none => .ok .unbounded
  | .bounded, some depth => .ok (bounded depth)
  | .bounded, none => .error .missingDepth
  | form, some _ => .error (.surplusDepth form)

theorem form_of_ofForm {form : Form} {depth : Option Int} {reach : Reach}
    (h : ofForm form depth = .ok reach) : reach.form = form := by
  cases form <;> cases depth <;> simp only [ofForm, Except.ok.injEq, reduceCtorEq] at h <;>
    subst h <;> rfl

def pattern? : Reach → Option String
  | .nowhere => none
  | .upTo hops => some ("p=(n)-[*0.." ++ toString hops ++ "]-(m)")
  | .unbounded => some "p=(n)-[*0..]-(m)"

/-- The least and greatest number of hops, where paths are matched; without bound both are zero. -/
def hops? : Reach → Option (Nat × Nat)
  | .nowhere => none
  | .upTo hops => some (0, hops)
  | .unbounded => some (0, 0)

def tail (reach : Reach) (filtered : Bool) (paging : String) : String :=
  match reach.pattern? with
  | none => if paging = "" then "RETURN n" else "WITH n" ++ paging ++ " RETURN n"
  | some pattern =>
    "WITH n" ++ paging ++ " MATCH " ++ pattern ++ " RETURN p" ++ (if filtered then ", ID(n)" else "")

def kind (reach : Reach) (filtered : Bool) : RequestKind :=
  if filtered && reach.pattern?.isSome then .graphRows else .graph

def request (reach : Reach) (root : RootMatch) (paging : String) : Request :=
  .of (reach.kind root.filtered) (root.text ++ reach.tail root.filtered paging) root.parameters

theorem ofDepth_of_pos (depth : Int) (h : 0 < depth) : ofDepth depth = bounded depth := by
  have h1 : ¬ depth < 0 := by omega
  have h2 : depth ≠ 0 := by omega
  simp [ofDepth, bounded, h1, h2]

end Reach

end CypherLink
