/-! Finding a text in another. -/

namespace BookingOffice.Text

/-- Whether characters occur in a row among others. -/
def occursIn (needle : List Char) : List Char → Bool
  | [] => needle.isEmpty
  | c :: rest => needle.isPrefixOf (c :: rest) || occursIn needle rest

theorem occursIn_iff {needle hay : List Char} : occursIn needle hay ↔ needle <:+: hay := by
  induction hay with
  | nil => simp [occursIn]
  | cons c rest ih => simp [occursIn, ih, List.infix_cons_iff]

end BookingOffice.Text
