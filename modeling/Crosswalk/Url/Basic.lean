import Crosswalk.Text.Basic
import Crosswalk.Url.Host
import Crosswalk.Url.Percent

/-!
Addresses of the schemes `http` and `https` in their normal form.
-/

/-! ### Paths

Slashes of either kind separate the segments of a path. A segment of one dot says nothing, and one
of two dots takes back the segment before it. -/

namespace Crosswalk.Url.Path

/-- Whether a character is escaped everywhere: a control character. -/
def isControl (c : Char) : Bool := c.toNat < 0x20 || c.toNat == 0x7F

def isEscapedInFragment (c : Char) : Bool :=
  isControl c || c == ' ' || c == '"' || c == '<' || c == '>' || c.toNat == 0x60

def isEscaped (c : Char) : Bool :=
  isEscapedInFragment c || c == '#' || c == '?' || c == '\x7b' || c == '\x7d'

def isSlash (c : Char) : Bool := c == '/' || c == '\\'

/-- The dots that a segment writes, each as itself or as a triplet, or nothing when it writes more
than dots. -/
def dots? : List Char → Option Nat
  | [] => some 0
  | '.' :: rest => (dots? rest).map (· + 1)
  | '%' :: '2' :: e :: rest => if e == 'e' || e == 'E' then (dots? rest).map (· + 1) else none
  | _ => none

/-- Whether a segment names a drive, which two dots do not take back. -/
def isDrive : List Char → Bool
  | [letter, mark] => letter.isAlpha && (mark == ':' || mark == '|')
  | _ => false

/-- The segments that are left when two dots take back the last one. -/
def takeBack (done : List (List Char)) : List (List Char) :=
  match done.getLast? with
  | some last => if isDrive last then done else done.dropLast
  | none => []

/-- Writes segments, each of `done` with a slash behind it. -/
def write (done : List (List Char)) (last : List Char) : List Char :=
  '/' :: done.flatMap (fun segment => segment ++ ['/']) ++ last

/-- Writes the segments of a path after those that are done. -/
def normalizeFrom (done : List (List Char)) : List (List Char) → List Char
  | [] => write done []
  | [last] =>
    match dots? last with
    | some 1 => write done []
    | some 2 => write (takeBack done) []
    | _ => write done last
  | segment :: rest =>
    match dots? segment with
    | some 1 => normalizeFrom done rest
    | some 2 => normalizeFrom (takeBack done) rest
    | _ => normalizeFrom (done ++ [segment]) rest

def normalize (s : List Char) : List Char :=
  let s :=
    match s with
    | c :: rest => if isSlash c then rest else s
    | [] => []
  normalizeFrom [] ((Text.pieces isSlash s).map (Percent.escape isEscaped))

end Crosswalk.Url.Path

/-! ### Addresses -/

namespace Crosswalk

/-- The scheme of an address. -/
inductive Url.Scheme where
  | http
  | https
deriving DecidableEq, Inhabited

/-- An address, each part in its normal form. -/
structure Url where
  scheme : Url.Scheme
  userInfo : List Char
  host : Url.Host
  endpoint : Option Nat
  path : List Char
  query : Option (List Char)
  fragment : Option (List Char)
deriving DecidableEq, Inhabited

namespace Url

def Scheme.name : Scheme → List Char
  | .http => "http".toList
  | .https => "https".toList

/-- The endpoint number that is meant when none is given. -/
def Scheme.endpoint : Scheme → Nat
  | .http => 80
  | .https => 443

/-- Whether a character is escaped in a user name or password. -/
def isEscapedInUserInfo (c : Char) : Bool :=
  Path.isEscaped c || "/:;=@[\\]^|".toList.contains c

def isEscapedInQuery (c : Char) : Bool :=
  Path.isControl c || "\"#<>' ".toList.contains c

/-- Whether a character is passed over wherever it stands. -/
def isPassedOver (c : Char) : Bool := c == '\t' || c == '\n' || c == '\r'

/-- A text without the characters that are passed over. -/
def withoutBreaks (s : List Char) : List Char := s.filter (!isPassedOver ·)

/-- A text without the control characters and spaces at its ends. -/
def trimControls (s : List Char) : List Char :=
  let isTrimmed (c : Char) : Bool := c.toNat ≤ 0x20
  ((s.dropWhile isTrimmed).reverse.dropWhile isTrimmed).reverse

/-- The scheme of an address and what follows its colon. -/
def splitScheme? (s : List Char) : Option (Scheme × List Char) :=
  (Text.cutAt ':' s).bind fun (name, rest) =>
    match String.ofList (name.map Char.toLower) with
    | "http" => some (.http, rest)
    | "https" => some (.https, rest)
    | _ => none

/-- Whether a character ends the part of an address that names user, host and endpoint. -/
def endsAuthority (c : Char) : Bool := Path.isSlash c || c == '?' || c == '#'

/-- The normal form of a user name and a password, with the at sign behind them. -/
def normalizeUserInfo (s : List Char) : List Char :=
  let written :=
    match Text.cutAt ':' s with
    | some (user, password) =>
      Percent.escape isEscapedInUserInfo user ++
        if password.isEmpty then [] else ':' :: Percent.escape isEscapedInUserInfo password
    | none => Percent.escape isEscapedInUserInfo s
  if written.isEmpty then [] else written ++ ['@']

/-- Splits off the host, which ends at a colon outside of square brackets. -/
def splitHost : Bool → List Char → List Char × List Char
  | _, [] => ([], [])
  | inside, c :: rest =>
    if c == ':' && !inside then ([], c :: rest)
    else
      let (host, after) := splitHost (if c == '[' then true else if c == ']' then false else inside)
        rest
      (c :: host, after)

/-- Reads the endpoint number behind the colon after a host; that of the scheme is none. -/
def readEndpoint (scheme : Scheme) (s : List Char) : Except Error (Option Nat) :=
  match s with
  | ':' :: [] => .ok none
  | ':' :: digits =>
    match Text.natural? digits with
    | some endpoint =>
      if endpoint ≥ 0x10000 then .error .invalidEndpoint
      else .ok (if endpoint = scheme.endpoint then none else some endpoint)
    | none => .error .invalidEndpoint
  | _ => .ok none

/-- The query and the fragment of what follows a path. -/
def splitTail (s : List Char) : Option (List Char) × Option (List Char) :=
  let (front, fragment) :=
    match Text.cutAt '#' s with
    | some (front, fragment) => (front, some fragment)
    | none => (s, none)
  let query :=
    match front with
    | '?' :: query => some query
    | _ => none
  (query.map (Percent.escape isEscapedInQuery),
    fragment.map (Percent.escape Path.isEscapedInFragment))

def read (s : List Char) : Except Error Url := do
  let s := withoutBreaks (trimControls s)
  match splitScheme? s with
  | none => .error .noScheme
  | some (scheme, rest) =>
    let rest := rest.dropWhile Path.isSlash
    let authority := rest.takeWhile fun c => !endsAuthority c
    let rest := rest.drop authority.length
    let (userInfo, hostAndEndpoint) := (Text.cutAtLast '@' authority).getD ([], authority)
    let (hostText, endpointText) := splitHost false hostAndEndpoint
    let host ← Host.read hostText
    let endpoint ← readEndpoint scheme endpointText
    let path := rest.takeWhile fun c => c != '?' && c != '#'
    let (query, fragment) := splitTail (rest.drop path.length)
    .ok
      { scheme := scheme, userInfo := normalizeUserInfo userInfo, host := host
        endpoint := endpoint
        path := Path.normalize path, query := query, fragment := fragment }

def setQuery (url : Url) (query : List Char) : Url :=
  { url with query := some (Percent.escape isEscapedInQuery (withoutBreaks query)) }

/-- A part of an address behind its mark, if it is there. -/
def markedPart (mark : Char) : Option (List Char) → List Char
  | some s => mark :: s
  | none => []

def write (url : Url) : List Char :=
  url.scheme.name ++ "://".toList ++ url.userInfo ++ url.host.write ++
    markedPart ':' (url.endpoint.map Text.ofNat) ++ url.path ++ markedPart '?' url.query ++
    markedPart '#' url.fragment

end Url

end Crosswalk
