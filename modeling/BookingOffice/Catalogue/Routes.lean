import BookingOffice.Catalogue.Classification
import BookingOffice.Catalogue.Geography

/-! Prices, and the routes that they are asked for. -/

namespace BookingOffice.Catalogue

def price : Schema where
  name := "price"
  plural := "prices"
  title := "Price"
  table := "prices"
  fields := [
    { name := "passenger_type_uuid", kind := .uuid, filter := some .exact,
      references := some passengerType.outline },
    { name := "price", kind := .real, filter := some .range, rules := [.nonNegative] }]

/-- The prices of a route. -/
def routePrices : Association where
  name := "prices"
  table := "route_prices"
  ownerColumn := "route_uuid"
  memberColumn := "price_uuid"
  member := price.outline

def route : Schema where
  name := "route"
  plural := "routes"
  title := "Route"
  table := "routes"
  fields := [
    { name := "name", kind := .text, filter := some .contains, rules := [.length 1 128] },
    { name := "origin_city_uuid", kind := .uuid, filter := some .exact,
      references := some city.outline },
    { name := "destination_city_uuid", kind := .uuid, filter := some .exact,
      references := some city.outline },
    { name := "distance_km", kind := .real, filter := some .range, rules := [.positive] }]
  associations := [routePrices]

end BookingOffice.Catalogue
