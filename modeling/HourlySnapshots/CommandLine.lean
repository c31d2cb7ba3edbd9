import HourlySnapshots.DatabaseAddress
import HourlySnapshots.Settings
import HourlySnapshots.Web.Network

/-!
# Starting the programs

There are two programs: one triggers a single cycle, the other serves the web interface. Both check
what they are started with in a fixed order before they connect to the database.
-/

namespace HourlySnapshots

/-- The programs. -/
inductive Program where
  | triggerOnce
  | service
deriving DecidableEq

/-- Why a program does not come to connect to the database. -/
inductive StartError where
  | settings (error : SettingsError)
  /-- The argument is no whole number. -/
  | badTime (given : String)
  /-- There is no instant with this number. -/
  | timeOutOfRange (secs : Int)
  /-- An origin that no header can hold. -/
  | badOrigin (origin : String)
  | database (fault : DatabaseFault)

namespace StartError

/-- What is wrong, in short. -/
def summary : StartError → String
  | settings e => e.summary
  | badTime given => "timestamp must be epoch seconds, got " ++ given
  | timeOutOfRange secs => "timestamp out of range: " ++ String.ofList (Text.signedDigits secs)
  | badOrigin origin =>
    "invalid FRONTEND_ORIGINS entry " ++ origin ++ ": failed to parse header value"
  | database fault => fault.message

/-- The line that a program ends with. -/
def line (e : StartError) : String := "Error: " ++ e.summary

end StartError

/-- What a program is about to do once it has a database. -/
structure Launch where
  settings : Settings
  /-- The instant to collect for, if one was given. -/
  time : Option Instant

namespace Launch

/-- The instant in the first argument of the program that triggers a cycle. -/
def timeOf (arguments : List String) : Except StartError (Option Instant) :=
  match arguments with
  | [] => .ok none
  | given :: _ =>
    match Text.readSigned? (Nat.pow 2 63) (Text.trim given.toList) with
    | none => .error (.badTime given)
    | some secs =>
      match Instant.ofParts? secs 0 with
      | some t => .ok (some t)
      | none => .error (.timeOutOfRange secs)

/-- Checks that origins can be sent as headers. -/
def checkOrigins (origins : List String) : Except StartError Unit :=
  match origins.find? fun origin => !isHeaderText origin with
  | some origin => .error (.badOrigin origin)
  | none => .ok ()

/-- What a program checks before it connects to the database. -/
def prepare (program : Program) (arguments : List String) (env : Environment) :
    Except StartError Launch := do
  let settings ← (Settings.ofEnvironment env).mapError .settings
  let time ← match program with
    | .triggerOnce => timeOf arguments
    | .service => do
      checkOrigins settings.frontendOrigins
      pure none
  (DatabaseAddress.check settings.databaseUrl).mapError .database
  return ⟨settings, time⟩

end Launch

end HourlySnapshots
