import CypherLink.Match.Compose
import CypherLink.Proofs.Entries

/-!
Layouts: the clauses of a composed statement with the predicates still apart. A layout says which
pattern each match clause has, which filters stand on it in which order, and how each label is
reached; its text is what is left when that is forgotten.
-/

namespace CypherLink

/-- A place in a chain: the filter, how many filters stand before it, and how many nested ones. -/
structure Occurrence where
  filter : Filter
  position : Nat
  sequence : Nat

def occurrences (position sequence : Nat) : List Filter → List Occurrence
  | [] => []
  | f :: fs =>
    ⟨f, position, sequence⟩ ::
      occurrences (position + 1) (if f.isNested then sequence + 1 else sequence) fs

/-- The filters of a chain with their places. -/
def places (fs : List Filter) : List Occurrence := occurrences 0 0 fs

theorem getElem?_occurrences (position sequence : Nat) (fs : List Filter) (i : Nat) :
    (occurrences position sequence fs)[i]? =
      fs[i]?.map fun f => ⟨f, position + i, sequence + (fs.take i).countP Filter.isNested⟩ := by
  induction fs generalizing position sequence i with
  | nil => simp [occurrences]
  | cons f fs ih =>
    cases i with
    | zero => simp [occurrences]
    | succ i =>
      simp only [occurrences, List.getElem?_cons_succ, ih, List.take_succ_cons, List.countP_cons]
      congr 1
      funext g
      cases f.isNested <;> simp <;> omega

theorem map_filter_occurrences (position sequence : Nat) (fs : List Filter) :
    (occurrences position sequence fs).map Occurrence.filter = fs := by
  induction fs generalizing position sequence with
  | nil => rfl
  | cons f fs ih => simp [occurrences, ih]

theorem count_cons (sequence : Nat) (f : Filter) (fs : List Filter) :
    (if f.isNested then sequence + 1 else sequence) + fs.countP Filter.isNested =
      sequence + (f :: fs).countP Filter.isNested := by
  rw [List.countP_cons]
  split <;> omega

theorem occurrences_append (position sequence : Nat) (fs gs : List Filter) :
    occurrences position sequence (fs ++ gs) = occurrences position sequence fs ++
      occurrences (position + fs.length) (sequence + fs.countP Filter.isNested) gs := by
  induction fs generalizing position sequence with
  | nil => rfl
  | cons f fs ih =>
    have hposition : position + 1 + fs.length = position + (f :: fs).length := by
      rw [List.length_cons]
      omega
    rw [List.cons_append, occurrences, occurrences, ih, count_cons, hposition, List.cons_append]

theorem eq_take_append_cons {α : Type} {xs : List α} {i : Nat} {x : α} (h : xs[i]? = some x) :
    xs = xs.take i ++ x :: xs.drop (i + 1) := by
  obtain ⟨hi, rfl⟩ := List.getElem?_eq_some_iff.mp h
  rw [List.getElem_cons_drop, List.take_append_drop]

section Places

variable {fs : List Filter} {xs ys : List Occurrence} {o : Occurrence}

theorem position_of_places {i : Nat} (h : (places fs)[i]? = some o) : o.position = i := by
  rw [places, getElem?_occurrences, Option.map_eq_some_iff] at h
  obtain ⟨f, -, rfl⟩ := h
  exact Nat.zero_add i

theorem position_lt (h : places fs = xs ++ ys) (ho : o ∈ xs) : o.position < xs.length := by
  obtain ⟨i, hi, rfl⟩ := List.getElem_of_mem ho
  have hp : (places fs)[i]? = some xs[i] := by
    rw [h, List.getElem?_append_left hi, List.getElem?_eq_getElem hi]
  rwa [position_of_places hp]

theorem le_position (h : places fs = xs ++ ys) (ho : o ∈ ys) : xs.length ≤ o.position := by
  obtain ⟨i, hi, rfl⟩ := List.getElem_of_mem ho
  have hp : (places fs)[xs.length + i]? = some ys[i] := by
    rw [h, List.getElem?_append_right (Nat.le_add_right _ _), Nat.add_sub_cancel_left,
      List.getElem?_eq_getElem hi]
  rw [position_of_places hp]
  exact Nat.le_add_right _ _

end Places

/-- The identifiers that statements use for nodes and relationships. -/
inductive Identifier where
  | root
  | relationship
  | far (sequence : Nat)
  deriving DecidableEq

def Identifier.text : Identifier → String
  | .root => Clause.rootIdentifier
  | .relationship => Clause.relationshipIdentifier
  | .far sequence => Composed.farIdentifier sequence

/-- What a clause matches: a node, or the relationship between the root node and another. -/
inductive Pattern where
  | node (identifier : Identifier) (label : String)
  | relationship (type : String) (direction : Direction) (far : Nat) (bound : Bool)
  deriving DecidableEq

namespace Pattern

def text : Pattern → Clause
  | .node identifier label => Clause.node identifier.text label
  | .relationship type direction far bound =>
    Clause.relationship type direction (Composed.farIdentifier far) bound

/-- The identifier of whatever the pattern is there to constrain. -/
def identifier : Pattern → Identifier
  | .node identifier _ => identifier
  | .relationship _ _ _ _ => .relationship

/-- The label of a node, or the type of a relationship. -/
def word : Pattern → String
  | .node _ label => label
  | .relationship type _ _ _ => type

end Pattern

/-- A filter where it stands in a clause, with the identifier its predicate uses. -/
structure Placed where
  filter : Filter
  position : Nat
  identifier : Identifier

namespace Placed

def fragment (p : Placed) : String :=
  p.filter.fragment p.identifier.text (p.filter.parameterName p.position)

def text (p : Placed) (first : Bool) : String :=
  p.filter.render p.identifier.text first p.position

/-- The predicates of a clause in order; only the first may open a condition. -/
def texts (first : Bool) : List Placed → String
  | [] => ""
  | p :: ps => p.text first ++ texts false ps

theorem texts_append (first : Bool) (ps : List Placed) (p : Placed) :
    texts first (ps ++ [p]) = texts first ps ++ p.text (first && ps.isEmpty) := by
  induction ps generalizing first with
  | nil => simp [texts]
  | cons q qs ih => simp [texts, ih, String.append_assoc]

end Placed

/-- A match clause with its predicates in order. -/
structure Group where
  pattern : Pattern
  placed : List Placed

namespace Group

def text (g : Group) : Clause :=
  g.pattern.text ++ Placed.texts (!g.pattern.text.hasWhere) g.placed

def add (g : Group) (p : Placed) : Group := { g with placed := g.placed ++ [p] }

theorem text_nil (pattern : Pattern) : (Group.mk pattern []).text = pattern.text := by
  simp [text, Placed.texts]

end Group

/-- The clauses of a statement: the match clauses under their keys, and the patterns that lead to
the labels. -/
structure Layout where
  nodes : Entries String Group
  links : Entries (String × String) Pattern
  identifiers : Entries String Nat

namespace Layout

def text (l : Layout) : String :=
  String.join (l.nodes.map fun e => e.2.text) ++ String.join (l.links.map fun e => e.2.text)

/-- The match clause under a key, or an empty one with that pattern. -/
def group (l : Layout) (key : String) (pattern : Pattern) : Group :=
  (Entries.find? l.nodes key).getD ⟨pattern, []⟩

def place (l : Layout) (key : String) (g : Group) (p : Placed) : Layout :=
  { l with nodes := Entries.put l.nodes key (g.add p) }

/-- Gives a label an identifier and a way to reach it, unless it has them. -/
def reach (l : Layout) (label type : String) (direction : Direction) (sequence : Nat) : Layout :=
  match Entries.find? l.identifiers label with
  | some _ => l
  | none =>
    { l with
      links := Entries.put l.links (label, type) (.relationship type direction sequence false)
      identifiers := Entries.put l.identifiers label sequence }

def sequence (l : Layout) (label : String) (default : Nat) : Nat :=
  (Entries.find? l.identifiers label).getD default

def add (root : String) (l : Layout) (o : Occurrence) : Layout :=
  match o.filter.subject with
  | .relationship _ type direction =>
    l.place type ⟨.relationship type direction o.sequence true, []⟩
      ⟨o.filter, o.position, .relationship⟩
  | .node _ label type direction =>
    let far := Identifier.far (l.sequence label o.sequence)
    (l.reach label type direction o.sequence).place label (l.group label (.node far label))
      ⟨o.filter, o.position, far⟩
  | .root | .unspecified =>
    l.place root (l.group root (.node .root root)) ⟨o.filter, o.position, .root⟩

def start (root : String) : Layout := ⟨[(root, ⟨.node .root root, []⟩)], [], []⟩

def addAll (root : String) (l : Layout) (os : List Occurrence) : Layout := os.foldl (add root) l

/-- The layout of a chain of filters. -/
def ofChain (root : String) (fs : List Filter) : Layout :=
  addAll root (start root) (places fs)

end Layout

end CypherLink
