import HourlySnapshots.Text.Quoted
import HourlySnapshots.Web.Url

/-!
# The address of the database

The address names the database, and who asks; parameters in its query say how to connect to it. A
parameter whose value makes no sense keeps a program from connecting, as does a name that is no
text. A parameter that is not known is passed over.
-/

namespace HourlySnapshots

/-- Why an address does not say how to connect. -/
inductive DatabaseFault where
  | address (fault : UrlFault)
  /-- A part of the address is no text. -/
  | text (fault : Text.Utf8Fault)
  /-- There is no mode of encryption with this name. -/
  | encryption (given : String)
  | number (fault : Text.NumberFault)
  | numericHost
deriving DecidableEq

namespace DatabaseFault

def message : DatabaseFault → String
  | address fault => "error with configuration: " ++ fault.message
  | text fault => "error with configuration: " ++ fault.message
  | encryption given =>
    "error with configuration: error with configuration: unknown value " ++ Text.quoted given ++
      " for `ssl_mode`"
  | number fault => "error with configuration: " ++ fault.message
  | numericHost => "error with configuration: invalid IP address syntax"

end DatabaseFault

namespace DatabaseAddress

/-- The modes of encryption. -/
def encryptionModes : List String :=
  ["disable", "allow", "prefer", "require", "verify-ca", "verify-full"]

/-- A whole number below a limit. -/
def checkNumber (limit : Nat) (value : String) : Except DatabaseFault Unit :=
  match Text.readBounded limit value.toList with
  | .ok _ => .ok ()
  | .error fault => .error (.number fault)

/-- Checks the value of a parameter. -/
def checkParameter (name value : String) : Except DatabaseFault Unit :=
  match name with
  | "sslmode" | "ssl-mode" =>
    if encryptionModes.any fun mode => mode.toList = value.toList.map Char.toLower then .ok ()
    else .error (.encryption value)
  | "statement-cache-capacity" => checkNumber (Nat.pow 2 64) value
  | "port" => checkNumber 65536 value
  | "hostaddr" =>
    if Url.isDotted value.toList || Url.isIpv6 value.toList then .ok () else .error .numericHost
  | _ => .ok ()

/-- Checks that a part of an address is a text once its escapes are resolved. -/
def checkText (part : List Char) : Except DatabaseFault Unit :=
  match Text.utf8Fault? (Text.Percent.decodeBytes part) with
  | some fault => .error (.text fault)
  | none => .ok ()

/-- Whether a host is the path of a local socket. -/
def isSocket (host : List Char) : Bool :=
  (Text.Percent.decodeBytes host).head? == some '/'.toUInt8

/-- Checks an address: its parts from left to right, and its parameters in order. -/
def check (text : String) : Except DatabaseFault Unit := do
  let url ← (Url.read text).mapError .address
  if isSocket url.host.toList then checkText url.host.toList
  checkText url.user.toList
  checkText url.password.toList
  checkText (url.path.toList.dropWhile (· = '/'))
  (Text.Percent.formPairs (url.query.getD "").toList).forM fun (name, value) =>
    checkParameter name value

end DatabaseAddress

end HourlySnapshots
