import CypherLink.Match.Clause

/-!
A draft holds the clauses of one statement while it is composed. Clauses are numbered as they are
made. Match clauses are found by label, relationship clauses by label and type; a clause that is put
where another stands takes its place and leaves the other unrendered.
-/

namespace CypherLink

structure Draft where
  clauses : List Clause := []
  nodes : Entries String Nat := []
  relationships : Entries (String × String) Nat := []
  identifiers : Entries String String := []
  parameters : Entries String Value := []
  /-- Whether a filter on a relationship has been met. -/
  bound : Bool := false

namespace Draft

def clause (d : Draft) (i : Nat) : Clause := d.clauses.getD i ""

/-- Adds a clause and gives its number. -/
def make (d : Draft) (clause : Clause) : Draft × Nat :=
  ({ d with clauses := d.clauses ++ [clause] }, d.clauses.length)

/-- The match clause of a label, made on first use. -/
def matchClause (d : Draft) (label identifier : String) : Draft × Nat :=
  match Entries.find? d.nodes label with
  | some i => (d, i)
  | none =>
    let (d, i) := d.make (Clause.node identifier label)
    ({ d with nodes := Entries.put d.nodes label i }, i)

def putMatch (d : Draft) (key : String) (clause : Clause) : Draft × Nat :=
  let (d, i) := d.make clause
  ({ d with nodes := Entries.put d.nodes key i }, i)

def putRelationship (d : Draft) (label type : String) (clause : Clause) : Draft × Nat :=
  let (d, i) := d.make clause
  ({ d with relationships := Entries.put d.relationships (label, type) i }, i)

def append (d : Draft) (i : Nat) (fragment : String) : Draft :=
  { d with clauses := d.clauses.modify i (· ++ fragment) }

/-- All match clauses in the order of their keys, then all relationship clauses. -/
def render (d : Draft) : String :=
  String.join (d.nodes.map fun e => d.clause e.2) ++
    String.join (d.relationships.map fun e => d.clause e.2)

theorem matchClause_found (d : Draft) (label identifier : String) (i : Nat)
    (h : Entries.find? d.nodes label = some i) : d.matchClause label identifier = (d, i) := by
  simp [matchClause, h]

theorem clause_make (d : Draft) (clause : Clause) : (d.make clause).1.clause d.clauses.length = clause := by
  simp [make, Draft.clause]

end Draft

end CypherLink
