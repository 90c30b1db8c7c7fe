/-
Pages.

A listing is given out page by page.  A request may name a page and how many items it shall have;
`PageRequest.resolve` says which page that is: there is no page before the first, and a page has
at least one and at most a hundred items.
-/
import AnalysisDesk.Job.Basic
import AnalysisDesk.Store.Query

namespace AnalysisDesk

/-- Which page of a listing is wanted. -/
structure PageRequest where
  page : Option Nat
  limit : Option Nat
deriving DecidableEq, Repr, Inhabited

/-- A page of a listing: its number, counted from one, and how many items a page has. -/
structure PageChoice where
  page : Nat
  limit : Nat
deriving DecidableEq, Repr, Inhabited

/-- The place of a page in a listing. -/
structure Pagination where
  page : Nat
  limit : Nat
  total : Nat
  totalPages : Nat
deriving DecidableEq, Repr, Inhabited

/-- A page with its place in the listing. -/
structure Page (α : Type) where
  items : List α
  pagination : Pagination
deriving DecidableEq, Repr

namespace PageRequest

/-- The most items of a page. -/
def mostItems : Nat := 100

/-- How many items a page of jobs has if the request does not say. -/
def jobItems : Nat := 10

/-- The same for issues. -/
def issueItems : Nat := 50

/-- The same for the latest jobs. -/
def latestItems : Nat := 5

/-- The page that is meant. -/
def resolve (request : PageRequest) (items : Nat) : PageChoice where
  page := max 1 (request.page.getD 1)
  limit := min mostItems (max 1 (request.limit.getD items))

def decoder : Decoder PageRequest :=
  Decode.Fields.decoder "PageRequest" <|
    PageRequest.mk <$> Decode.Fields.spare "page" .uint32 <*> Decode.Fields.spare "limit" .uint32

end PageRequest

namespace PageChoice

/-- How many items come before the page. -/
def offset (choice : PageChoice) : Nat := (choice.page - 1) * choice.limit

def window (choice : PageChoice) : Window := ⟨choice.limit, choice.offset⟩

/-- The place of the page among `total` items. -/
def pagination (choice : PageChoice) (total : Nat) : Pagination where
  page := choice.page
  limit := choice.limit
  total := total
  totalPages := (total + choice.limit - 1) / choice.limit

def toJson (choice : PageChoice) : Json :=
  .object [("page", .nat choice.page), ("limit", .nat choice.limit)]

end PageChoice

def Pagination.toJson (p : Pagination) : Json :=
  .object [("page", .nat p.page), ("limit", .nat p.limit), ("total", .nat p.total),
    ("total_pages", .nat p.totalPages)]

def Page.toJson {α : Type} (encode : α → Json) (p : Page α) : Json :=
  .object [("items", .arr (p.items.map encode)), ("pagination", p.pagination.toJson)]

/-! ### What is wanted of the findings -/

def IssueFilter.decoder : Decoder IssueFilter :=
  Decode.Fields.decoder "IssueFilter" <|
    IssueFilter.mk
      <$> Decode.Fields.spare "severity" Severity.decoder
      <*> Decode.Fields.spare "category" .string

def MetricFilter.decoder : Decoder MetricFilter :=
  Decode.Fields.decoder "MetricFilter" <|
    MetricFilter.mk
      <$> Decode.Fields.spare "metric_type" .string
      <*> Decode.Fields.spare "file_path" .string

end AnalysisDesk
