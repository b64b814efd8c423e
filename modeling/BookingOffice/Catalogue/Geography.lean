import BookingOffice.Schema.Basic

/-! Countries and their cities. -/

namespace BookingOffice.Catalogue

def country : Schema where
  name := "country"
  plural := "countries"
  title := "Country"
  table := "countries"
  fields := [
    { name := "name", kind := .text, filter := some .contains, rules := [.letters, .length 2 64],
      unique := true },
    { name := "code", kind := .text, filter := some .exact, rules := [.letters, .length 2 3],
      unique := true }]

def city : Schema where
  name := "city"
  plural := "cities"
  title := "City"
  table := "cities"
  fields := [
    { name := "name", kind := .text, filter := some .contains, rules := [.letters, .length 1 64] },
    { name := "country_uuid", kind := .uuid, filter := some .exact,
      references := some country.outline }]

end BookingOffice.Catalogue
