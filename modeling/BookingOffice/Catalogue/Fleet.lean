import BookingOffice.Schema.Basic

/-! Vehicles and the persons who drive them. -/

namespace BookingOffice.Catalogue

def vehicle : Schema where
  name := "vehicle"
  plural := "vehicles"
  title := "Vehicle"
  table := "vehicles"
  fields := [
    { name := "model", kind := .text, filter := some .contains, rules := [.length 1 64] },
    { name := "registration_number", kind := .text, filter := some .exact,
      rules := [.length 2 16], unique := true },
    { name := "capacity", kind := .integer, filter := some .range, rules := [.positive] }]

/-- The name of a person. -/
def personName (name : String) : Field :=
  { name := name, kind := .text, filter := some .contains, rules := [.letters, .length 1 64] }

/-- The vehicles that a driver may drive. -/
def driverVehicles : Association where
  name := "vehicles"
  table := "driver_vehicles"
  ownerColumn := "driver_uuid"
  memberColumn := "vehicle_uuid"
  member := vehicle.outline

def driver : Schema where
  name := "driver"
  plural := "drivers"
  title := "Driver"
  table := "drivers"
  fields := [
    personName "first_name",
    personName "last_name",
    { name := "license_number", kind := .text, filter := some .exact, rules := [.length 4 20],
      unique := true }]
  associations := [driverVehicles]

end BookingOffice.Catalogue
