import BookingOffice.Catalogue.Fleet
import BookingOffice.Catalogue.Routes

/-! Trips, the passengers who order seats on them, and the payments for orders. -/

namespace BookingOffice.Catalogue

def trip : Schema where
  name := "trip"
  plural := "trips"
  title := "Trip"
  table := "trips"
  fields := [
    { name := "route_uuid", kind := .uuid, filter := some .exact,
      references := some route.outline },
    { name := "vehicle_uuid", kind := .uuid, filter := some .exact,
      references := some vehicle.outline },
    { name := "driver_uuid", kind := .uuid, filter := some .exact,
      references := some driver.outline },
    { name := "regularity_type_uuid", kind := .uuid, filter := some .exact,
      references := some regularityType.outline },
    { name := "departure_at", kind := .timestamp, filter := some .range },
    { name := "arrival_at", kind := .timestamp, filter := some .range }]

def passenger : Schema where
  name := "passenger"
  plural := "passengers"
  title := "Passenger"
  table := "passengers"
  fields := [
    personName "first_name",
    personName "last_name",
    { name := "document_type_uuid", kind := .uuid, filter := some .exact,
      references := some documentType.outline },
    { name := "document_number", kind := .text, filter := some .exact,
      rules := [.digits, .length 6 12], unique := true },
    { name := "passenger_type_uuid", kind := .uuid, filter := some .exact,
      references := some passengerType.outline }]

def order : Schema where
  name := "order"
  plural := "orders"
  title := "Order"
  table := "orders"
  fields := [
    { name := "trip_uuid", kind := .uuid, filter := some .exact, references := some trip.outline },
    { name := "passenger_uuid", kind := .uuid, filter := some .exact,
      references := some passenger.outline },
    { name := "order_status_type_uuid", kind := .uuid, filter := some .exact,
      references := some orderStatusType.outline },
    { name := "seat_number", kind := .integer, filter := some .range, rules := [.positive] },
    { name := "total", kind := .real, filter := some .range, rules := [.nonNegative] }]

/-- The orders that a payment is for. -/
def paymentOrders : Association where
  name := "orders"
  table := "payment_orders"
  ownerColumn := "payment_uuid"
  memberColumn := "order_uuid"
  member := order.outline

def payment : Schema where
  name := "payment"
  plural := "payments"
  title := "Payment"
  table := "payments"
  fields := [
    { name := "amount", kind := .real, filter := some .range, rules := [.positive] },
    { name := "method", kind := .text, filter := some .exact, rules := [.length 2 32] },
    { name := "paid_at", kind := .timestamp, filter := some .range }]
  associations := [paymentOrders]

end BookingOffice.Catalogue
