import BookingOffice.Office.Basic
import BookingOffice.Settings.Database
import BookingOffice.Settings.Server
import BookingOffice.Store.Incident

/-!
Starting and stopping the service. The schema of the database is made, then the server listens until
it is told to shut down. Whatever happens, the database is closed in the end.
-/

namespace BookingOffice

namespace Service

/-- Why the server does not listen. -/
inductive ListenFault where
  | addressInUse
  deriving DecidableEq, Repr

/-- Why the service ended before it was told to. -/
inductive Fault where
  | storage (failure : Failure)
  | listen (fault : ListenFault)
  deriving DecidableEq

/-- A fault in diagnostics. -/
def Fault.debugText : Fault → String
  | .storage failure => failure.debugText
  | .listen .addressInUse =>
    "Os \x7b code: 98, kind: AddrInUse, message: \"Address already in use\" \x7d"

/-- How the service ended. -/
structure Ending where
  result : Except Fault Unit
  log : List LogLine
  office : Office

/-- What is logged when the schema has been made. -/
def readyLog (settings : ServerSettings) : List LogLine :=
  ⟨.info, "Database schema initialized"⟩ ::
    (if settings.apiToken.isNone then
      [⟨.warn, "No API token configured; the API is open to everyone"⟩]
    else [])

/-- Serves until it is told to shut down, if it can listen. -/
def run (settings : ServerSettings) (listening : Except ListenFault Unit) (office : Office) :
    Except Fault Unit × List LogLine :=
  if !office.isOpen then (.error (.storage Office.closedFailure), [])
  else
    match listening with
    | .error fault => (.error (.listen fault), readyLog settings)
    | .ok () =>
      (.ok (), readyLog settings ++
        [⟨.info, s!"Listening on {settings.socketText}"⟩, ⟨.info, "Shutting down"⟩])

/-- Serves, and closes the database. -/
def serve (settings : ServerSettings) (listening : Except ListenFault Unit) (office : Office) :
    Ending :=
  let (result, log) := run settings listening office
  { result := result, log := log, office := office.close }

/-! ### The command -/

/-- How the command ended. -/
structure Exit where
  code : Nat
  /-- What it reports when it fails. -/
  failed : Option String
  log : List LogLine

/-- The end of a command that fails. -/
def failure (report : String) (log : List LogLine) : Exit := ⟨101, some report, log⟩

/-- The longest path of a socket, in bytes. -/
def maxSocketPath : Nat := 107

/-- What happens when a process that reaches no other one connects to a database server. A socket in
the file system is not there; a host that refuses connections is taken to be starting up, until
patience ends. -/
def isolated (settings : DatabaseSettings) : Incident :=
  match settings.socketPath? with
  | none => .poolTimedOut
  | some path =>
    if maxSocketPath < path.utf8ByteSize then .io "path must be shorter than SUN_LEN"
    else .io "No such file or directory (os error 2)"

/-- Runs the command with the variables of a process. The database may be out of reach. -/
def command (env : Environment) (connect : DatabaseSettings → Except Incident Office)
    (listening : Except ListenFault Unit) : Exit :=
  match ServerSettings.ofEnvironment env "TRANSIT" with
  | .error message => failure s!"Invalid server configuration: {Text.quoted message}" []
  | .ok server =>
    let log : List LogLine := [⟨.info, s!"Starting with {server.debugText}"⟩]
    match DatabaseSettings.ofEnvironment env "PGSQL_PROD" with
    | .error fault => failure s!"Invalid database configuration: {Text.quoted fault.message}" log
    | .ok database =>
      let log := log ++ [⟨.info, s!"Connecting to PostgreSQL at {database.host}:{database.port}"⟩]
      if !database.hasRoom then failure "capacity must be non-zero" log
      else
        match connect database with
        | .error incident =>
          failure s!"Server failed: {(incident.toFailure .postgres).debugText}" log
        | .ok office =>
          let ending := serve server listening office
          match ending.result with
          | .ok () => ⟨0, none, log ++ ending.log⟩
          | .error fault => failure s!"Server failed: {fault.debugText}" (log ++ ending.log)

end Service

end BookingOffice
