import HourlySnapshots.Assembly
import HourlySnapshots.Rehearsal.Stores

/-!
# Recorded sites

A site plays recorded replies to the requests of a rehearsal, by the target of the request, and
notes what it was asked. A site without a host cannot be reached.
-/

namespace HourlySnapshots

/-- What a site does about a request. -/
inductive RecordedReply where
  | answers (status : Nat) (body : List UInt8)
  /-- The request is never answered. -/
  | silent

/-- A request as a site saw it. -/
structure SeenRequest where
  target : String
  /-- The key in its headers. -/
  key : Option String
  /-- Whether it has a signature and a time. -/
  signed : Bool
deriving DecidableEq

/-- A site with the replies it has left. -/
structure RecordedSite where
  /-- The name that requests reach it by. -/
  host : Option String
  /-- Replies by target; the last one of each is played again and again. -/
  replies : List (String × List RecordedReply)
  /-- What it was asked, in order. -/
  seen : List SeenRequest

namespace RecordedSite

/-- The reply to a target that has none. -/
def unknownTarget : RecordedReply := .answers 404 (Text.utf8 "not found")

/-- The request that an address and headers make. -/
def requestOf (url : Url) (headers : Headers) : SeenRequest :=
  let has := fun name => (headers.lookup name).isSome
  { target := url.target
    key := (headers.lookup "Api-Key").or (headers.lookup "X-CEFFU-APIKEY")
    signed := (has "Api-Signature" && has "Api-Timestamp") ||
      (has "X-CEFFU-SIGNATURE" && has "X-CEFFU-TIMESTAMP") }

/-- Takes the next reply to a target. -/
def take (target : String) :
    List (String × List RecordedReply) → RecordedReply × List (String × List RecordedReply)
  | [] => (unknownTarget, [])
  | (other, replies) :: rest =>
    if other = target then
      match replies with
      | [] => (unknownTarget, (other, []) :: rest)
      | [reply] => (reply, (other, [reply]) :: rest)
      | reply :: left => (reply, (other, left) :: rest)
    else
      let (reply, rest) := take target rest
      (reply, (other, replies) :: rest)

/-- What comes of a request. -/
def get (url : Url) (headers : Headers) (s : RecordedSite) : WebReply × RecordedSite :=
  if s.host = some url.host then
    let (reply, replies) := take url.target s.replies
    let s := { s with replies := replies, seen := s.seen ++ [requestOf url headers] }
    match reply with
    | .answers status body => (.answered status body, s)
    | .silent => (.timedOut, s)
  else (.unreachable, s)

end RecordedSite

/-- The state of a service that runs over a recorded site. -/
structure LocalWorld where
  stores : Stores
  site : RecordedSite
  prices : PriceCache
  /-- How often the clock that never stops was read. -/
  ticks : Nat
  now : Instant

namespace LocalWorld

/-- The surroundings that the collectors of a local world work with. -/
def surroundings : Surroundings LocalWorld where
  network _ := ⟨fun url headers w =>
    let (reply, site) := w.site.get url headers
    (reply, { w with site := site })⟩
  storage := Stores.storage LocalWorld.stores fun stores w => { w with stores := stores }
  clock w := (w.now, w)
  cache := LocalWorld.prices
  setCache cache w := { w with prices := cache }
  uptime w := (w.ticks, { w with ticks := w.ticks + 1 })

/-- A world before the first request. -/
def begin (site : RecordedSite) (now : Instant) : LocalWorld := ⟨.single, site, [], 0, now⟩

end LocalWorld

end HourlySnapshots
