import CypherLink.Text.Name
import CypherLink.Vocabulary

/-!
The order and the page of the root nodes, written between the match of the root nodes and whatever
is loaded around them.
-/

namespace CypherLink

open Name (quoted)

inductive SortDirection where
  | ascending | descending
  deriving DecidableEq

namespace SortDirection

def vocabulary : Vocabulary SortDirection where
  title := "Direction"
  members := [.ascending, .descending]
  name
    | .ascending => "ASC"
    | .descending => "DESC"
  symbol
    | .ascending => "ASC"
    | .descending => "DESC"

def suffix : SortDirection → String
  | .ascending => ""
  | .descending => " DESC"

end SortDirection

structure SortClause where
  direction : SortDirection
  properties : List String

def SortClause.render (c : SortClause) (identifier : String) : String :=
  ",".intercalate (c.properties.map fun property =>
    identifier ++ "." ++ quoted property ++ c.direction.suffix)

abbrev SortOrder := List SortClause

/-- A sort clause was to be added without a property. -/
structure NoProperty where

def NoProperty.message (_ : NoProperty) : String := "SortOrder.add() needs at least one property"

namespace SortOrder

def add (order : SortOrder) (properties : List String) (direction : SortDirection) :
    Except NoProperty SortOrder :=
  if properties.isEmpty then .error {} else .ok (order ++ [⟨direction, properties⟩])

def render (order : SortOrder) (identifier : String) : String :=
  if order.isEmpty then ""
  else " ORDER BY " ++ ",".intercalate (order.map fun c => c.render identifier)

theorem render_nil (identifier : String) : render [] identifier = "" := rfl

end SortOrder

/-- A page of root nodes, counted from zero. -/
structure Pagination where
  page : Int
  size : Int
  page_nonneg : 0 ≤ page
  size_pos : 0 < size

structure BadPagination where
  page : Int
  size : Int
  deriving DecidableEq

def BadPagination.message (e : BadPagination) : String :=
  "Invalid pagination: page=" ++ toString e.page ++ ", size=" ++ toString e.size

namespace Pagination

def make (page size : Int) : Except BadPagination Pagination :=
  if h : 0 ≤ page ∧ 0 < size then .ok ⟨page, size, h.1, h.2⟩ else .error ⟨page, size⟩

def text : String := " SKIP \x7b skip \x7d LIMIT \x7b limit \x7d"

def parameters (p : Pagination) : Entries String Value :=
  [("skip", .int (p.page * p.size)), ("limit", .int p.size)]

end Pagination

/-- The text and the parameters of a sort order and a page, either of which may be absent. -/
def paging (order : Option SortOrder) (page : Option Pagination) : String × Entries String Value :=
  let sorted := (order.map fun o => o.render "n").getD ""
  match page with
  | some p => (sorted ++ Pagination.text, p.parameters)
  | none => (sorted, [])

theorem paging_empty_order (page : Option Pagination) : paging (some []) page = paging none page := by
  cases page <;> rfl

end CypherLink
