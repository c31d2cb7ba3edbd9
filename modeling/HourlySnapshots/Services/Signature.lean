import HourlySnapshots.Collection.Error
import HourlySnapshots.Digest.Hmac
import HourlySnapshots.Text.Base64
import HourlySnapshots.Text.Blank
import HourlySnapshots.Text.Digits
import HourlySnapshots.Text.Hex
import HourlySnapshots.Text.Uppercase
import HourlySnapshots.Text.Utf8

/-!
# Request signatures

Two services want their requests signed with a keyed hash over the method, the path, the time and
the body. The portfolio service gives its key in base64 and wants base64; the custody service takes
the key as it is and wants hexadecimal digits.
-/

namespace HourlySnapshots.Signature

/-- The part of a path that the portfolio service leaves out of its signatures. -/
def apiRoot : String := "/api/v1"

/-- A path without the part that is left out, at most once. -/
def withoutRoot (path : String) : String :=
  if apiRoot.toList.isPrefixOf path.toList then
    String.ofList (path.toList.drop apiRoot.length)
  else path

/-- A time in a signature. -/
def timeText (time : Int) : String := String.ofList (Text.signedDigits time)

/-- A method in upper case. -/
def methodText (verb : String) : String := String.ofList (Text.upper verb.toList)

/-- The signature of a request to the portfolio service, whose time is in seconds. -/
def forPortfolios (secret verb path : String) (time : Int) (body : String) :
    Except ServiceError String :=
  match Text.Base64.decode (Text.utf8 (Text.trimmed secret)) with
  | .error fault => .error (.auth s!"api secret is not valid base64: {fault.message}")
  | .ok key =>
    let message := methodText verb ++ withoutRoot path ++ timeText time ++ body
    .ok (String.ofList (Text.Base64.encode (Digest.hmacSha256 key (Text.utf8 message))))

/-- The signature of a request to the custody service, whose time is in milliseconds. -/
def forCustody (secret : String) (time : Int) (verb path body : String) : String :=
  let message := timeText time ++ methodText verb ++ path ++ body
  String.ofList (Text.hexOfBytes (Digest.hmacSha256 (Text.utf8 secret) (Text.utf8 message)))

end HourlySnapshots.Signature
