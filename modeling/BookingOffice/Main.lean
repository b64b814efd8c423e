import BookingOffice.Service.Serve

/-! The command. It prints its log and what it fails with. -/

namespace BookingOffice

/-- The variables that the command reads. -/
def variableNames : List String :=
  ["API_TOKEN", "PORT", "BIND_ALL"].map (Environment.nameOf "TRANSIT") ++
    ["HOST", "PORT", "DATABASE", "USERNAME", "PASSWORD", "MIN_CONNECTIONS", "MAX_CONNECTIONS",
      "MAX_RETRIES"].map (Environment.nameOf "PGSQL_PROD")

/-- The variables of this process that the command reads. -/
def readVariables : IO Environment := do
  let mut env := []
  for name in variableNames do
    if let some value ← IO.getEnv name then
      env := env ++ [(name, Text.Utf8.encode value)]
  return env

end BookingOffice

open BookingOffice in
def main : IO UInt32 := do
  let exit := Service.command (← readVariables) (fun s => .error (Service.isolated s)) (.ok ())
  for line in exit.log do
    IO.eprintln line.text
  if let some report := exit.failed then
    IO.eprintln report
  return UInt32.ofNat exit.code
