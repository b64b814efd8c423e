import BookingOffice.Catalogue
import BookingOffice.Proofs.Entity.RoundTrip
import BookingOffice.Store.Layout

/-!
The schemas of the office against the layout of its storage. Both are declared by hand and apart
from each other; here they are compared.

* `Schema.Fits`: a schema describes the table that keeps its rows, and what it refers to is
  described by schemas as well;
* `Catalogue.fits`: every schema of the office fits its layout;
* `Catalogue.eq_of_table`: no two schemas share a table.
-/

namespace BookingOffice

/-- The names of the columns that every table has. -/
def reservedColumns : List String := ["uuid", "created_at", "updated_at", "deleted_at"]

namespace Schema

/-- The names of the fields in which no two live rows may have the same value. -/
def uniqueNames (s : Schema) : List String := (s.fields.filter (·.unique)).map (·.name)

/-- The table that a schema describes. -/
def tableOf (s : Schema) : Table where
  name := s.table
  columns := s.fields.map fun f => ⟨f.name, f.kind, !f.required⟩
  uniqueLive := s.uniqueNames

/-- Whether a schema describes the table that keeps its rows in a layout. -/
structure Fits (s : Schema) (l : Layout) : Prop where
  table : l.table? s.table = some s.tableOf
  names : s.fieldNames.Nodup
  notReserved : ∀ f ∈ s.fields, f.name ∉ reservedColumns
  /-- A field that may lack a value holds no times. -/
  times : ∀ f ∈ s.fields, f.RequiresTime
  /-- What has to differ is a text. -/
  unique : ∀ f ∈ s.fields, f.unique = true → f.kind = .text ∧ f.required = true
  references : ∀ f ∈ s.fields, ∀ o, f.references = some o → ∃ t ∈ Catalogue.schemas, t.outline = o
  members : ∀ a ∈ s.associations, (∃ t ∈ Catalogue.schemas, t.outline = a.member) ∧
    l.linkTable? a.table = some ⟨a.table, s.table, a.member.table⟩

end Schema

namespace Catalogue

variable {s t : Schema}

/-- Every schema of the office fits its layout. -/
theorem fits (hs : s ∈ schemas) : s.Fits .office where
  table := (by decide : ∀ s ∈ schemas, Layout.office.table? s.table = some s.tableOf) s hs
  names := (by decide : ∀ s ∈ schemas, s.fieldNames.Nodup) s hs
  notReserved := (by decide : ∀ s ∈ schemas, ∀ f ∈ s.fields, f.name ∉ reservedColumns) s hs
  times := (by decide : ∀ s ∈ schemas, ∀ f ∈ s.fields, f.kind = .timestamp → f.required = true) s hs
  unique := (by decide : ∀ s ∈ schemas, ∀ f ∈ s.fields, f.unique = true →
    f.kind = .text ∧ f.required = true) s hs
  references := by
    have h : ∀ s ∈ schemas, ∀ f ∈ s.fields, ∀ o ∈ f.references, ∃ t ∈ schemas, t.outline = o := by
      decide
    intro f hf o ho
    exact h s hs f hf o ho
  members := (by decide : ∀ s ∈ schemas, ∀ a ∈ s.associations,
    (∃ t ∈ schemas, t.outline = a.member) ∧
      Layout.office.linkTable? a.table = some ⟨a.table, s.table, a.member.table⟩) s hs

/-- No two schemas share a table. -/
lemma eq_of_table (hs : s ∈ schemas) (ht : t ∈ schemas) (h : s.table = t.table) : s = t :=
  (by decide : ∀ s ∈ schemas, ∀ t ∈ schemas, s.table = t.table → s = t) s hs t ht h

end Catalogue

end BookingOffice
