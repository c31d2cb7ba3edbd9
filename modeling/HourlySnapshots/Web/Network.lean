import HourlySnapshots.Collection.Error
import HourlySnapshots.Json.Reader
import HourlySnapshots.Web.Url

/-!
# Asking services over the web

A network takes requests to replies. What a reply means is decided here, once for all services: a
document, or the error of the call.
-/

namespace HourlySnapshots

/-- What comes of a request. -/
inductive WebReply where
  | answered (status : Nat) (body : List UInt8)
  | timedOut
  | unreachable

/-- Names and values of headers. -/
abbrev Headers := List (String × String)

/-- A network as services reach it. -/
structure Network (σ : Type) where
  get : Url → Headers → σ → WebReply × σ

/-- Whether a text can be sent as the value of a header: it has no control characters. -/
def isHeaderText (value : String) : Bool :=
  value.toList.all fun c => (0x20 ≤ c.toNat && c.toNat != 0x7F) || c == '\t'

/-- An address without the slashes at its end. -/
def withoutTrailingSlashes (base : String) : String :=
  String.ofList (base.toList.reverse.dropWhile (· = '/')).reverse

namespace WebReply

/-- How much of the body of an error is kept. -/
def snippetLength : Nat := 200

/-- What is said of a body that is no document. -/
def undecodable : String := "error decoding response body"

/-- What is said of a request that took too long. -/
def slow : String := "operation timed out"

/-- What is said of a request that could not be sent. -/
def unsent : String := "error sending request"

/-- The document in a reply. -/
def document : WebReply → Except ServiceError Json
  | answered status body =>
    if 200 ≤ status ∧ status < 300 then
      match (Text.ofUtf8? body).bind Json.read? with
      | some value => .ok value
      | none => .error (.malformed undecodable)
    else
      .error (.ofStatus status (String.ofList ((Text.lossy body).take snippetLength)))
  | timedOut => .error (.timeout slow)
  | unreachable => .error (.connection unsent)

end WebReply

namespace Network

variable {σ : Type}

/-- The network that reaches nothing. -/
def none : Network σ := ⟨fun _ _ s => (.unreachable, s)⟩

/--
Asks for the document at an address. What cannot be sent at all, for its address or its headers,
counts as not reaching the service.
-/
def getJson (n : Network σ) (address : String) (headers : Headers) (s : σ) :
    Except ServiceError Json × σ :=
  match Url.read address with
  | .error fault => (.error (.connection fault.message), s)
  | .ok url =>
    if (url.scheme = "http" ∨ url.scheme = "https") ∧
        headers.all (fun (_, v) => isHeaderText v) then
      let (reply, s) := n.get url headers s
      (reply.document, s)
    else (.error (.connection WebReply.unsent), s)

end Network

end HourlySnapshots
