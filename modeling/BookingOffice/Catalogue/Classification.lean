import BookingOffice.Schema.Basic

/-! Types that classify passengers, their documents, trips and orders. -/

namespace BookingOffice.Catalogue

/-- The name of a type, which no other live type of its table has. -/
def typeName : Field :=
  { name := "name", kind := .text, filter := some .contains, rules := [.length 2 64],
    unique := true }

def documentType : Schema where
  name := "document_type"
  plural := "document_types"
  title := "Document type"
  table := "document_types"
  fields := [typeName]

def passengerType : Schema where
  name := "passenger_type"
  plural := "passenger_types"
  title := "Passenger type"
  table := "passenger_types"
  fields := [
    typeName,
    { name := "description", kind := .text, required := false, rules := [.length 0 255] }]

def orderStatusType : Schema where
  name := "order_status_type"
  plural := "order_status_types"
  title := "Order status type"
  table := "order_status_types"
  fields := [typeName]

def regularityType : Schema where
  name := "regularity_type"
  plural := "regularity_types"
  title := "Regularity type"
  table := "regularity_types"
  fields := [typeName]

end BookingOffice.Catalogue
