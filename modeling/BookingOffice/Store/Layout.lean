import BookingOffice.Schema.Basic

/-!
The layout of storage: its tables with their columns and constraints, and the tables of links
between them. It is declared on its own, beside the schemas of the entities, and it is what storage
enforces.
-/

namespace BookingOffice

/-- A column of a table. -/
structure Column where
  name : String
  /-- What the column is made for. -/
  kind : Kind
  /-- Whether it may hold nothing. -/
  nullable : Bool := false
  deriving DecidableEq, Repr

/-- A table of rows, which besides its columns have an identifier, which no two rows share, and
three times. -/
structure Table where
  name : String
  columns : List Column
  /-- The columns in which no two live rows may hold equal values. -/
  uniqueLive : List String := []
  /-- The columns in which no two rows may hold equal values. -/
  uniqueAlways : List String := []
  /-- Whether changes have no effect. -/
  frozen : Bool := false
  deriving DecidableEq, Repr

/-- A table of links from the rows of one table to those of another. It holds a pair once. -/
structure LinkTable where
  name : String
  ownerTable : String
  memberTable : String
  deriving DecidableEq, Repr

/-- The tables of a database. -/
structure Layout where
  tables : List Table
  linkTables : List LinkTable
  deriving DecidableEq, Repr

namespace Layout

/-- The table with a name. -/
def table? (l : Layout) (name : String) : Option Table := l.tables.find? (·.name == name)

/-- The table of links with a name. -/
def linkTable? (l : Layout) (name : String) : Option LinkTable :=
  l.linkTables.find? (·.name == name)

/-- Applies a function to the tables with a name. -/
def modify (l : Layout) (name : String) (f : Table → Table) : Layout :=
  { l with tables := l.tables.map fun t => if t.name = name then f t else t }

/-- The layout in which a column holds no value twice, not even in deleted rows. -/
def constrain (l : Layout) (table column : String) : Layout :=
  l.modify table fun t => { t with uniqueAlways := t.uniqueAlways ++ [column] }

/-- The layout in which a table cannot be changed. -/
def freeze (l : Layout) (table : String) : Layout :=
  l.modify table fun t => { t with frozen := true }

/-- The layout of the office. -/
def office : Layout where
  tables := [
    { name := "countries", columns := [⟨"name", .text, false⟩, ⟨"code", .text, false⟩],
      uniqueLive := ["name", "code"] },
    { name := "cities", columns := [⟨"name", .text, false⟩, ⟨"country_uuid", .uuid, false⟩] },
    { name := "document_types", columns := [⟨"name", .text, false⟩], uniqueLive := ["name"] },
    { name := "passenger_types",
      columns := [⟨"name", .text, false⟩, ⟨"description", .text, true⟩], uniqueLive := ["name"] },
    { name := "order_status_types", columns := [⟨"name", .text, false⟩], uniqueLive := ["name"] },
    { name := "regularity_types", columns := [⟨"name", .text, false⟩], uniqueLive := ["name"] },
    { name := "vehicles",
      columns := [⟨"model", .text, false⟩, ⟨"registration_number", .text, false⟩,
        ⟨"capacity", .integer, false⟩],
      uniqueLive := ["registration_number"] },
    { name := "drivers",
      columns := [⟨"first_name", .text, false⟩, ⟨"last_name", .text, false⟩,
        ⟨"license_number", .text, false⟩],
      uniqueLive := ["license_number"] },
    { name := "prices",
      columns := [⟨"passenger_type_uuid", .uuid, false⟩, ⟨"price", .real, false⟩] },
    { name := "routes",
      columns := [⟨"name", .text, false⟩, ⟨"origin_city_uuid", .uuid, false⟩,
        ⟨"destination_city_uuid", .uuid, false⟩, ⟨"distance_km", .real, false⟩] },
    { name := "trips",
      columns := [⟨"route_uuid", .uuid, false⟩, ⟨"vehicle_uuid", .uuid, false⟩,
        ⟨"driver_uuid", .uuid, false⟩, ⟨"regularity_type_uuid", .uuid, false⟩,
        ⟨"departure_at", .timestamp, false⟩, ⟨"arrival_at", .timestamp, false⟩] },
    { name := "passengers",
      columns := [⟨"first_name", .text, false⟩, ⟨"last_name", .text, false⟩,
        ⟨"document_type_uuid", .uuid, false⟩, ⟨"document_number", .text, false⟩,
        ⟨"passenger_type_uuid", .uuid, false⟩],
      uniqueLive := ["document_number"] },
    { name := "orders",
      columns := [⟨"trip_uuid", .uuid, false⟩, ⟨"passenger_uuid", .uuid, false⟩,
        ⟨"order_status_type_uuid", .uuid, false⟩, ⟨"seat_number", .integer, false⟩,
        ⟨"total", .real, false⟩] },
    { name := "payments",
      columns := [⟨"amount", .real, false⟩, ⟨"method", .text, false⟩,
        ⟨"paid_at", .timestamp, false⟩] }]
  linkTables := [
    { name := "driver_vehicles", ownerTable := "drivers", memberTable := "vehicles" },
    { name := "route_prices", ownerTable := "routes", memberTable := "prices" },
    { name := "payment_orders", ownerTable := "payments", memberTable := "orders" }]

end Layout

end BookingOffice
