import BookingOffice.Catalogue.Bookings

/-! The types of entities that the office keeps. -/

namespace BookingOffice.Catalogue

/-- All types of entities, those that others refer to first. -/
def schemas : List Schema :=
  [country, city, documentType, passengerType, orderStatusType, regularityType, vehicle, driver,
    price, route, trip, passenger, order, payment]

/-- The type of entities with a given name. -/
def schema? (name : String) : Option Schema := schemas.find? (·.name == name)

end BookingOffice.Catalogue
