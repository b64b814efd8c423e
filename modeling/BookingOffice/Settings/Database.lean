import BookingOffice.Settings.Variable
import BookingOffice.Text.Escaped

/-! How the database server is reached, and how patiently. -/

namespace BookingOffice

/-- The settings of the connections to the database server. -/
structure DatabaseSettings where
  host : String
  port : Nat
  database : String
  username : String
  password : String
  minConnections : Option Nat
  maxConnections : Option Nat
  /-- How often to try again while the server is unavailable. -/
  maxRetries : Nat := 60
  deriving DecidableEq

namespace DatabaseSettings

/-- Reads the settings from variables that start with a given text. The first fault counts. -/
def ofEnvironment (env : Environment) (start : String) :
    Except Environment.Fault DatabaseSettings := do
  let host ← env.required Environment.text start "HOST"
  let port ← env.required Environment.nat16 start "PORT"
  let database ← env.required Environment.text start "DATABASE"
  let username ← env.required Environment.text start "USERNAME"
  let password ← env.required Environment.text start "PASSWORD"
  let minConnections ← env.optional Environment.nat32 start "MIN_CONNECTIONS"
  let maxConnections ← env.optional Environment.nat32 start "MAX_CONNECTIONS"
  let maxRetries ← env.optional Environment.nat16 start "MAX_RETRIES"
  return {
    host, port, database, username, password, minConnections, maxConnections,
    maxRetries := maxRetries.getD 60 }

/-- Whether the settings leave room for a connection. -/
def hasRoom (s : DatabaseSettings) : Bool := s.maxConnections ≠ some 0

/-- The file of the socket on this machine, if the host is a directory and not a name. -/
def socketPath? (s : DatabaseSettings) : Option String :=
  if s.host.startsWith "/" then some s!"{s.host}/.s.PGSQL.{s.port}" else none

/-- An optional number in diagnostics. -/
def optionText : Option Nat → String
  | some n => s!"Some({n})"
  | none => "None"

/-- The settings in diagnostics, without the password. -/
def debugText (s : DatabaseSettings) : String :=
  s!"PostgresOptions \x7b host: {Text.quoted s.host}, port: {s.port}, " ++
    s!"database: {Text.quoted s.database}, username: {Text.quoted s.username}, " ++
    s!"min_connections: {optionText s.minConnections}, " ++
    s!"max_connections: {optionText s.maxConnections}, max_retries: {s.maxRetries} \x7d"

end DatabaseSettings

end BookingOffice
