import BookingOffice.Settings.Variable

/-! How the server is set up: where it listens, and the token that it asks its clients for. -/

namespace BookingOffice

/-- The settings of the server. -/
structure ServerSettings where
  port : Nat := 3000
  /-- Whether to listen on all addresses and not on the local one only. -/
  bindAll : Bool := false
  /-- The token that clients must present, if they must. -/
  apiToken : Option String := none
  deriving DecidableEq

namespace ServerSettings

/-- Reads the settings from variables that start with a given text. -/
def ofEnvironment (env : Environment) (start : String) : Except String ServerSettings := do
  let token ← (env.optional Environment.text start "API_TOKEN").mapError (·.message)
  if token = some "" then throw s!"{start}_API_TOKEN cannot be empty"
  let port ← (env.optional Environment.nat16 start "PORT").mapError (·.message)
  let bindAll ← (env.optional Environment.bool start "BIND_ALL").mapError (·.message)
  return { port := port.getD 3000, bindAll := bindAll.getD false, apiToken := token }

/-- The address to listen on. -/
def address (s : ServerSettings) : IpAddress :=
  if s.bindAll then .v4 [0, 0, 0, 0] else .v4 [127, 0, 0, 1]

/-- The address and the port to listen on. -/
def socketText (s : ServerSettings) : String := s!"{s.address.toText}:{s.port}"

/-- The settings in diagnostics, without the token. -/
def debugText (s : ServerSettings) : String :=
  s!"Config \x7b port: {s.port}, bind_all: {s.bindAll} \x7d"

end ServerSettings

end BookingOffice
