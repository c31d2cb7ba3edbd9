import HourlySnapshots.Text.Digits
import HourlySnapshots.Text.Percent
import HourlySnapshots.Web.DomainName

/-!
# Addresses

Reading absolute addresses: the scheme, who asks, the host and the number after it, the path and the
query. In the schemes of the web a host is required. There and for files it is a domain name or
numeric, and a backslash counts as a slash.
-/

namespace HourlySnapshots

/-- Why a text is no address. -/
inductive UrlFault where
  | relative
  | emptyHost
  | portNumber
  | ipv4
  | ipv6
  | domain
  | hostCharacter
deriving DecidableEq

namespace UrlFault

def message : UrlFault → String
  | relative => "relative URL without a base"
  | emptyHost => "empty host"
  | portNumber => "invalid port number"
  | ipv4 => "invalid IPv4 address"
  | ipv6 => "invalid IPv6 address"
  | domain => "invalid international domain name"
  | hostCharacter => "invalid domain character"

end UrlFault

/-- How the addresses of a scheme are read. -/
inductive UrlKind where
  /-- A scheme of the web. -/
  | web
  | file
  | other
deriving DecidableEq

/-- An absolute address. -/
structure Url where
  scheme : String
  /-- The name before the host and the password after it, as they were written. -/
  user : String
  password : String
  /-- The host: the plain spelling of a domain name, and else as it was written. -/
  host : String
  /-- The number after the host, unless it is that of the scheme. -/
  portNumber : Option Nat
  /-- The path and the query as they are sent. -/
  path : String
  query : Option String
deriving DecidableEq

namespace Url

/-- What is asked of the host: the path and the query. -/
def target (u : Url) : String := u.path ++ u.query.elim "" fun query => "?" ++ query

/-! ## Schemes -/

/-- The schemes of the web, with the numbers that may be left out after the host. -/
def webSchemes : List (String × Nat) :=
  [("http", 80), ("https", 443), ("ws", 80), ("wss", 443), ("ftp", 21)]

/-- How the addresses of a scheme in lower case are read. -/
def kindOf (scheme : String) : UrlKind :=
  if (webSchemes.lookup scheme).isSome then .web
  else if scheme = "file" then .file
  else .other

/-- Characters after the first one of a scheme. -/
def isSchemeChar (c : Char) : Bool := c.isAlphanum || c == '+' || c == '-' || c == '.'

/-- The scheme in lower case and what follows its colon. -/
def readScheme? (cs : List Char) : Option (String × List Char) :=
  match cs, cs.dropWhile isSchemeChar with
  | first :: _, ':' :: rest =>
    if first.isAlpha then
      some (String.ofList ((cs.takeWhile isSchemeChar).map Char.toLower), rest)
    else none
  | _, _ => none

/-- Whether a character divides the parts of a path. -/
def isSlash (kind : UrlKind) (c : Char) : Bool := c == '/' || (kind != .other && c == '\\')

/-! ## Hosts -/

/-- A decimal number up to 255 without leading zeros. -/
def isPlainByte (cs : List Char) : Bool :=
  (cs.head? != some '0' || cs.length == 1) && ((Text.readDigits? cs).any fun n => decide (n ≤ 255))

/-- Four decimal numbers with dots between them. -/
def isDotted (cs : List Char) : Bool :=
  let parts := cs.splitOn '.'
  parts.length == 4 && parts.all isPlainByte

/-- Up to four hexadecimal digits. -/
def isHexGroup (cs : List Char) : Bool :=
  !cs.isEmpty && decide (cs.length ≤ 4) && cs.all fun c => (Text.hexValue? c).isSome

/-- The parts of an address without the empty one that a double colon leaves at its start. -/
def withoutLeadingGap? : List (List Char) → Option (List (List Char))
  | [] :: [] :: rest => some ([] :: rest)
  | [] :: _ => none
  | parts => some parts

/--
Whether a text between brackets is an address: eight groups, of which two may be written with dots
at the end, and of which a run may be left out once.
-/
def isIpv6 (cs : List Char) : Bool :=
  match (withoutLeadingGap? (cs.splitOn ':')).bind fun parts =>
      withoutLeadingGap? parts.reverse with
  | none => false
  | some reversed =>
    let gaps := reversed.count []
    let groups := reversed.filter fun part => !part.isEmpty
    let (dotted, plain) := match groups with
      | last :: rest => if last.contains '.' then (some last, rest) else (none, groups)
      | [] => (none, [])
    let size := plain.length + (if dotted.isSome then 2 else 0)
    -- dots may stand only in the very last part
    let dottedLast := dotted.isNone || reversed.head? == dotted
    plain.all isHexGroup && dotted.all isDotted && dottedLast &&
      ((gaps == 0 && size == 8) || (gaps == 1 && decide (size ≤ 7)))

/-- The value of one part of a numeric host: hexadecimal, octal or decimal. -/
def ipv4Part? (cs : List Char) : Option Nat :=
  match cs with
  | [] => none
  | '0' :: x :: digits =>
    if x == 'x' || x == 'X' then Text.readHex? digits
    else if (x :: digits).all fun c => '0' ≤ c && c ≤ '7' then
      some (Nat.ofDigitChars 8 (x :: digits) 0)
    else none
  | _ => Text.readDigits? cs

/-- Whether a host ends in a number, so that it has to be numeric as a whole. -/
def endsInNumber (cs : List Char) : Bool :=
  let last := match (cs.splitOn '.').reverse with
    | [] :: part :: _ => part
    | part :: _ => part
    | [] => []
  (!last.isEmpty && last.all Char.isDigit) ||
    (match last with
      | '0' :: x :: digits => (x == 'x' || x == 'X') && (Text.readHex? digits).isSome
      | _ => false)

/-- Whether a numeric host has up to four parts that fit its four bytes. -/
def isIpv4 (cs : List Char) : Bool :=
  let parts := match (cs.splitOn '.').reverse with
    | [] :: part :: rest => (part :: rest).reverse
    | parts => parts.reverse
  match parts.mapM ipv4Part? with
  | none => false
  | some numbers =>
    decide (numbers.length ≤ 4) && numbers.dropLast.all (fun n => decide (n ≤ 255)) &&
      decide (numbers.getLast?.getD 0 < Nat.pow 256 (5 - numbers.length))

/-- Characters that no host may hold. -/
def isForbiddenInHost (c : Char) : Bool :=
  c.toNat == 0 || "\t\n\r #/:<>?@[\\]^|".toList.contains c

/-- Reads a host: an address between brackets, a domain name, a numeric host or any other name. -/
def readHost (kind : UrlKind) (cs : List Char) : Except UrlFault (List Char) :=
  if cs.head? = some '[' then
    if 1 < cs.length ∧ cs.getLast? = some ']' ∧ isIpv6 (cs.drop 1).dropLast then .ok cs
    else .error .ipv6
  else if kind = .other then
    if cs.any isForbiddenInHost then .error .hostCharacter else .ok cs
  else
    match DomainName.read? (Text.Percent.decode cs) with
    | none => .error .domain
    | some name =>
      if name.isEmpty then .error .emptyHost
      else if endsInNumber name && !isIpv4 name then .error .ipv4
      else .ok name

/-! ## What follows the scheme -/

/-- Whether a character ends the part of an address that names the host. -/
def endsAuthority (kind : UrlKind) (c : Char) : Bool := isSlash kind c || c == '?' || c == '#'

/-- The host text up to a colon outside of brackets, and what follows it. -/
def splitHost (kind : UrlKind) : (bracketed : Bool) → List Char → List Char × List Char
  | _, [] => ([], [])
  | bracketed, c :: rest =>
    if (c == ':' && !bracketed) || endsAuthority kind c then ([], c :: rest)
    else
      let inside := if c == '[' then true else if c == ']' then false else bracketed
      let (host, after) := splitHost kind inside rest
      (c :: host, after)

/-- What stands before the last `@`, if there is one before the host ends, and what follows it. -/
def splitUser (kind : UrlKind) (cs : List Char) : Option (List Char) × List Char :=
  let authority := cs.takeWhile fun c => !endsAuthority kind c
  if authority.contains '@' then
    let afterLast := (authority.reverse.takeWhile (· ≠ '@')).length
    let length := authority.length - afterLast
    (some (authority.take (length - 1)), cs.drop length)
  else (none, cs)

/-- The number after a host, if there is one, and what follows it. It may end at a backslash. -/
def readPortNumber (cs : List Char) : Except UrlFault (Option Nat × List Char) :=
  match cs with
  | ':' :: rest =>
    let digits := rest.takeWhile Char.isDigit
    let after := rest.dropWhile Char.isDigit
    if Nat.ofDigitChars 10 digits 0 < 65536 ∧ after.head?.all (endsAuthority .web) then
      .ok (Text.readDigits? digits, after)
    else .error .portNumber
  | _ => .ok (none, cs)

/-- The part of an address that names the host. -/
structure Authority where
  user : List Char
  password : List Char
  host : List Char
  portNumber : Option Nat

/-- An address without an authority. -/
def Authority.none : Authority := ⟨[], [], [], .none⟩

/-- Reads the authority of an address; returns it and what follows it. -/
def readAuthority (kind : UrlKind) (cs : List Char) :
    Except UrlFault (Authority × List Char) := do
  let (login, named) := splitUser kind cs
  if login = some [] ∧ named.head?.any (endsAuthority kind) then .error .emptyHost
  let (user, password) := Text.Percent.splitAtFirst ':' (login.getD [])
  let (hostText, after) := splitHost kind false named
  if kind = .web ∧ hostText.isEmpty then .error .emptyHost
  let host ← readHost kind hostText
  if host.isEmpty ∧ after.head? = some ':' then .error .emptyHost
  let (number, rest) ← readPortNumber after
  if host.isEmpty ∧ !(user.isEmpty && password.isEmpty) then .error .emptyHost
  return (⟨user, password, host, number⟩, rest)

/-- Whether a text is a letter for a disk with its mark. -/
def isDisk : List Char → Bool
  | [letter, mark] => letter.isAlpha && (mark == ':' || mark == '|')
  | _ => false

/-- Reads the host of a file; returns it and the path. Most files have none. -/
def readFileHost (cs : List Char) : Except UrlFault (Authority × List Char) :=
  match cs with
  | a :: b :: rest =>
    let host := rest.takeWhile fun c => !endsAuthority .file c
    if !(isSlash .file a && isSlash .file b) then .ok (.none, cs)
    else if host.isEmpty || isDisk host then .ok (.none, rest)
    else do
      let name ← readHost .file host
      return (⟨[], [], name, .none⟩, rest.drop host.length)
  | _ => .ok (.none, cs)

/-! ## Paths and queries -/

/-- Characters that a path leaves as they are. -/
def isPathPlain (c : Char) : Bool :=
  0x20 < c.toNat && c.toNat < 0x7F && !"\"<>`#?\x7b\x7d".toList.contains c

/-- Characters that a path without a slash in front leaves as they are. -/
def isOpaquePlain (c : Char) : Bool := 0x20 ≤ c.toNat && c.toNat < 0x7F

/-- Characters that a query leaves as they are. -/
def isQueryPlain (kind : UrlKind) (c : Char) : Bool :=
  0x20 < c.toNat && c.toNat < 0x7F && !"\"#<>".toList.contains c && (kind == .other || c != '\'')

/-- A segment with the dots that may be written as escapes. -/
def withDots : List Char → List Char
  | '%' :: '2' :: 'e' :: rest | '%' :: '2' :: 'E' :: rest => '.' :: withDots rest
  | c :: rest => c :: withDots rest
  | [] => []

/-- The segments without the last one, which comes first here; one that looks like a disk stays. -/
def leave : List (List Char) → List (List Char)
  | [] => []
  | last :: before => if isDisk last then last :: before else before

/-- The segments of a path, the last one first, with the dot segments followed. -/
def followDots (kind : UrlKind) : (kept : List (List Char)) → List (List Char) → List (List Char)
  | kept, [] => kept
  | kept, segment :: rest =>
    let close := fun (k : List (List Char)) => if rest.isEmpty then [] :: k else k
    if withDots segment = ['.', '.'] then followDots kind (close (leave kept)) rest
    else if withDots segment = ['.'] then followDots kind (close kept) rest
    else
      let isRoot := kind = .file ∧ kept.isEmpty ∧ isDisk segment
      followDots kind ((if isRoot then segment.take 1 ++ [':'] else segment) :: kept) rest

/-- A path as it is sent. Outside of the web it may be empty, or have no slash in front. -/
def normalPath (kind : UrlKind) (cs : List Char) : List Char :=
  let segments := match cs with
    | first :: rest => if isSlash kind first then rest.splitOnP (isSlash kind)
        else cs.splitOnP (isSlash kind)
    | [] => [[]]
  if kind = .other ∧ cs.isEmpty then []
  else
    let encoded := segments.map (Text.Percent.encodeWith isPathPlain)
    (followDots kind [] encoded).reverse.flatMap fun segment => '/' :: segment

/-! ## Addresses -/

/-- A text without control characters and spaces around it, and without tabs and line ends. -/
def cleaned (cs : List Char) : List Char :=
  let isEdge := fun (c : Char) => c.toNat ≤ 0x20
  let inner := ((cs.dropWhile isEdge).reverse.dropWhile isEdge).reverse
  inner.filter fun c => c != '\t' && c != '\n' && c != '\r'

/-- The address with a scheme and an authority that a path and a query follow. -/
def complete (scheme : String) (authority : Authority) (rest : List Char) : Url :=
  let kind := kindOf scheme
  let named := rest.takeWhile (· ≠ '#')
  let path := named.takeWhile (· ≠ '?')
  let isOpaque :=
    kind == .other && authority.host.isEmpty && !path.isEmpty && path.head? != some '/'
  { scheme := scheme
    user := String.ofList authority.user
    password := String.ofList authority.password
    host := String.ofList authority.host
    portNumber := authority.portNumber.filter fun n => webSchemes.lookup scheme ≠ some n
    path := String.ofList
      (if isOpaque then Text.Percent.encodeWith isOpaquePlain path else normalPath kind path)
    query := match named.dropWhile (· ≠ '?') with
      | '?' :: query =>
        some (String.ofList (Text.Percent.encodeWith (isQueryPlain kind) query))
      | _ => none }

/-- The address that a text is, or why it is none. -/
def read (text : String) : Except UrlFault Url := do
  match readScheme? (cleaned text.toList) with
  | none => .error .relative
  | some (scheme, rest) =>
    let kind := kindOf scheme
    let (authority, after) ← match kind, rest with
      | .web, _ => readAuthority .web (rest.dropWhile (isSlash .web))
      | .file, _ => readFileHost rest
      | .other, '/' :: '/' :: named => readAuthority .other named
      | .other, _ => .ok (.none, rest)
    return complete scheme authority after

end Url

end HourlySnapshots
