import BookingOffice.Listing.Condition
import BookingOffice.Listing.QueryText
import BookingOffice.Schema.FieldErrors

/-!
Parameters of list queries. `page`, `per_page`, `sort_by` and `sort_direction` are controls; every
other name is that of a field to filter by. Each pair of a query is read by itself, into a
`Setting`, and no name may be given twice. If any pair is faulty, every fault is reported.
-/

namespace BookingOffice

/-- The order of list results. -/
inductive Direction where
  | ascending
  | descending
  deriving DecidableEq, Repr

/-- What a list request asks for. -/
structure Parameters where
  /-- The filters, all of which must match. -/
  filters : List Filter := []
  /-- The field to sort by before the time of creation. -/
  sortBy : Option String := none
  /-- The direction of the whole order. -/
  direction : Direction := .ascending
  /-- The page, counted from one. -/
  page : Nat := 1
  /-- The number of entities on a page. -/
  perPage : Nat := 5
  deriving DecidableEq

/-- What one pair of a query sets. -/
inductive Setting where
  | page (n : Nat)
  | perPage (n : Nat)
  | sortBy (field : String)
  | direction (d : Direction)
  | filter (f : Filter)
  deriving DecidableEq

namespace Setting

/-- What is wrong with a pair of a query. -/
inductive Fault where
  | notPositive
  | tooMany
  | notSortable (field : String)
  | notDirection
  | notFilterable
  | badCondition (fault : Condition.Fault)
  | repeated
  deriving DecidableEq, Repr

/-- The most entities that a page may have. -/
def maxPerPage : Nat := 100

/-- The message for a faulty pair. -/
def Fault.message : Fault → String
  | .notPositive => "must be a positive integer"
  | .tooMany => s!"must not exceed {maxPerPage}"
  | .notSortable field => s!"field {field} is not sortable"
  | .notDirection => "must be asc or desc"
  | .notFilterable => "field is not filterable"
  | .badCondition fault => fault.message
  | .repeated => "parameter given more than once"

/-- Reads a positive number of 64 bits. -/
def readPositive (s : String) : Except Fault Nat :=
  match Text.readNat (2 ^ 64 - 1) s with
  | .ok n => if 0 < n then .ok n else .error .notPositive
  | .error _ => .error .notPositive

/-- Reads the size of a page. -/
def readPerPage (s : String) : Except Fault Nat := do
  let n ← readPositive s
  if maxPerPage < n then .error .tooMany else .ok n

/-- The first field of a name that queries may filter and sort by. -/
def filterable? (fields : List Field) (name : String) : Option Field :=
  fields.find? fun f => f.name == name && f.isFilterable

/-- Reads the name of the field to sort by. -/
def readSortBy (fields : List Field) (s : String) : Except Fault String :=
  match filterable? fields s with
  | some f => .ok f.name
  | none => .error (.notSortable s)

/-- Reads a direction. -/
def readDirection (s : String) : Except Fault Direction :=
  if s = "asc" then .ok .ascending
  else if s = "desc" then .ok .descending
  else .error .notDirection

/-- Reads a filter. -/
def readFilter (fields : List Field) (key s : String) : Attempt Fault Filter :=
  match filterable? fields key with
  | none => throw .notFilterable
  | some f =>
    (⟨f.name, ·⟩) <$>
      ExceptT.adapt .badCondition (Condition.read f.kind (f.filter.getD .exact) s)

/-- Reads one pair of a query. -/
def read (fields : List Field) (key value : String) : Attempt Fault Setting :=
  if key = "page" then .ofExcept ((readPositive value).map page)
  else if key = "per_page" then .ofExcept ((readPerPage value).map perPage)
  else if key = "sort_by" then .ofExcept ((readSortBy fields value).map sortBy)
  else if key = "sort_direction" then .ofExcept ((readDirection value).map direction)
  else filter <$> readFilter fields key value

end Setting

namespace Parameters

/-- The parameters of a page without filters. -/
def ofPage (page perPage : Nat) : Parameters := { page := page, perPage := perPage }

/-- Puts a setting into effect. -/
def withSetting (p : Parameters) : Setting → Parameters
  | .page n => { p with page := n }
  | .perPage n => { p with perPage := n }
  | .sortBy field => { p with sortBy := some field }
  | .direction d => { p with direction := d }
  | .filter f => { p with filters := p.filters ++ [f] }

/-- What the pairs of a query came to. -/
abbrev Findings := List (String × Except Setting.Fault Setting)

/-- Reads every pair whose name has not been seen before. -/
def findings (fields : List Field) :
    (seen : List String) → List (String × String) → Option Findings
  | _, [] => some []
  | seen, (key, value) :: rest =>
    if key ∈ seen then do
      let others ← findings fields seen rest
      return (key, .error .repeated) :: others
    else do
      let finding ← (Setting.read fields key value).outcome
      let others ← findings fields (key :: seen) rest
      return (key, finding) :: others

/-- The parameters that the sound pairs set. -/
def Findings.parameters (findings : Findings) : Parameters :=
  (findings.filterMap fun p => p.2.toOption).foldl withSetting {}

/-- The messages for the faulty pairs. -/
def Findings.errors (findings : Findings) : FieldErrors :=
  .ofList (findings.filterMap fun p =>
    match p.2 with
    | .error fault => some (p.1, fault.message)
    | .ok _ => none)

/-- Reads the pairs of a query on entities with the given fields. -/
def ofPairs (fields : List Field) (pairs : List (String × String)) :
    Attempt FieldErrors Parameters := do
  let findings ← ExceptT.lift (findings fields [] pairs)
  .ofExcept (findings.errors.orResult findings.parameters)

/-- Reads the text of a query. Without one the parameters are the default ones. -/
def ofQuery (fields : List Field) (query : Option String) : Attempt FieldErrors Parameters :=
  ofPairs fields (QueryText.pairs (query.getD ""))

/-- The number of entities on the pages before, as far as 64 bits go. -/
def offset (p : Parameters) : Nat := min ((p.page - 1) * p.perPage) (2 ^ 64 - 1)

end Parameters

/-- What a list response says about its page. -/
structure PageInfo where
  page : Nat
  perPage : Nat
  /-- The number of entities that match the filters. -/
  total : Nat
  /-- The number of pages that they fill. -/
  totalPages : Nat
  deriving DecidableEq, Repr

namespace PageInfo

/-- The page that was asked for, of `total` entities. It is named even if it is past the last. -/
def ofTotal (p : Parameters) (total : Nat) : PageInfo where
  page := p.page
  perPage := p.perPage
  total := total
  totalPages := if p.perPage = 0 then 0 else (total + p.perPage - 1) / p.perPage

/-- The page in JSON. -/
def toJson (info : PageInfo) : Json :=
  .ofMembers [("page", .nat info.page), ("per_page", .nat info.perPage), ("total", .nat info.total),
    ("total_pages", .nat info.totalPages)]

end PageInfo

end BookingOffice
