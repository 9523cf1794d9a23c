import DebugAdapter.Net.HostName
import DebugAdapter.Paths.Components
import DebugAdapter.Text.Utf8

/-!
# File URLs

Absolute paths written as `file:` URLs, and the local path that a URL leads
to. Writing escapes what has a meaning in URLs. Reading follows the URL
standard: blanks around the URL and breaks in it do not count, a scheme
decides how slashes and hosts are read, dot segments are resolved. Only the
host and the path matter: the host has to be the local one, whatever the
scheme.
-/

namespace DebugAdapter.Paths

-- ---------------------------------------------------------------------------
-- Escapes
-- ---------------------------------------------------------------------------

/-- A byte that is escaped in a path segment. -/
def isEscaped (b : UInt8) : Bool :=
  b < 0x20 || b ≥ 0x7f || (" \"<>`#?\x7b\x7d/%\\".toList.any fun c => c.toNat = b.toNat)

def upperHex (n : Nat) : Char := (Nat.digitChar n).toUpper

def escapeByte (b : UInt8) : List Char :=
  if isEscaped b then ['%', upperHex (b.toNat / 16), upperHex (b.toNat % 16)]
  else [Char.ofNat b.toNat]

def escapeSegment (segment : List Char) : List Char :=
  (Text.encode (String.ofList segment)).flatMap escapeByte

def hexValue? (b : UInt8) : Option UInt8 :=
  if 0x30 ≤ b && b ≤ 0x39 then some (b - 0x30)
  else if 0x41 ≤ b && b ≤ 0x46 then some (b - 0x37)
  else if 0x61 ≤ b && b ≤ 0x66 then some (b - 0x57)
  else none

/-- Resolves escapes; a percent sign without two digits stands for itself. -/
def unescape : Text.Bytes → Text.Bytes
  | 0x25 :: a :: b :: rest =>
    match hexValue? a, hexValue? b with
    | some h, some l => (h * 16 + l) :: unescape rest
    | _, _ => 0x25 :: unescape (a :: b :: rest)
  | b :: rest => b :: unescape rest
  | [] => []

-- ---------------------------------------------------------------------------
-- Writing
-- ---------------------------------------------------------------------------

def urlPath (path : List Char) : List Char :=
  match components path with
  | [] => ['/']
  | cs => cs.flatMap fun c => '/' :: escapeSegment c

/-- The `file:` URL of an absolute path, none for other paths. -/
def toFileUrl? (path : String) : Option String :=
  if isAbsolute path.toList then some ("file://" ++ String.ofList (urlPath path.toList)) else none

-- ---------------------------------------------------------------------------
-- Reading: scheme and host
-- ---------------------------------------------------------------------------

/-- Three ways in which the part after the scheme is read. -/
inductive SchemeKind where
  | file
  /-- A scheme of the web: a host is required, a backslash is a slash. -/
  | web
  | other
  deriving DecidableEq

def SchemeKind.of (scheme : List Char) : SchemeKind :=
  let s := String.ofList scheme
  if s = "file" then .file
  else if ["http", "https", "ws", "wss", "ftp"].contains s then .web
  else .other

def isAsciiLetter (c : Char) : Bool := c.isAlpha

def trimmed (url : List Char) : List Char :=
  let low (c : Char) : Bool := c.toNat ≤ 0x20
  ((url.dropWhile low).reverse.dropWhile low).reverse

/-- Tabs and line ends, which do not count in a URL. -/
def isBreak (c : Char) : Bool := c = '\t' || c = '\n' || c = '\r'

/-- The end of a text that has so many characters besides the breaks in it. -/
def suffixOf (count : Nat) (cs : List Char) : List Char :=
  let rec go (excess : Nat) : List Char → List Char
    | [] => []
    | c :: rest =>
      match excess with
      | 0 => c :: rest
      | excess + 1 => go (if isBreak c then excess + 1 else excess) rest
  go (cs.countP (!isBreak ·) - count) cs

def splitScheme? (url : List Char) : Option (List Char × List Char) :=
  let schemeChar (c : Char) : Bool := c.isAlphanum || c = '+' || c = '-' || c = '.'
  let scheme := url.takeWhile schemeChar
  match scheme.head?, url.dropWhile schemeChar with
  | some c, ':' :: rest => if isAsciiLetter c then some (scheme.map Char.toLower, rest) else none
  | _, _ => none

def isSlash (kind : SchemeKind) (c : Char) : Bool := c = '/' || (c = '\\' && kind ≠ .other)

/-- A character that ends the host of a URL. -/
def endsAuthority (kind : SchemeKind) (c : Char) : Bool := isSlash kind c || c = '?' || c = '#'

inductive Host where
  | absent
  | localhost
  | remote
  deriving DecidableEq

def unescapedHost (host : List Char) : List Char :=
  Text.charsLossy (unescape (Text.encode (String.ofList host)))

def localName : List Char := "localhost".toList

def Host.of? (kind : SchemeKind) (host : List Char) : Option Host :=
  if host = [] then some .absent
  else if kind = .other then some (if host = localName then .localhost else .remote)
  else if host.head? = some '[' then if HostName.isLongAddress host then some .remote else none
  else (HostName.normal? (unescapedHost host)).map fun name =>
    if name = localName then .localhost else .remote

/-- A letter and a colon or bar, as drives are named. -/
def isDriveLetter : List Char → Bool
  | [c, d] => isAsciiLetter c && (d = ':' || d = '|')
  | _ => false

def isNormalDriveLetter : List Char → Bool
  | [c, ':'] => isAsciiLetter c
  | _ => false

-- ---------------------------------------------------------------------------
-- Reading: path
-- ---------------------------------------------------------------------------

/-- The segment with escaped dots resolved, in either case of the escape. -/
def resolveDots : List Char → List Char
  | '%' :: '2' :: e :: rest =>
    if e = 'e' || e = 'E' then '.' :: resolveDots rest else '%' :: '2' :: e :: rest
  | '.' :: rest => '.' :: resolveDots rest
  | cs => cs

def endsWithSlash (path : List Char) : Bool := path.getLast? = some '/'

def splitLastSlash (path : List Char) : List Char × List Char :=
  let tail := (path.reverse.takeWhile (· ≠ '/')).reverse
  (path.take (path.length - tail.length), tail)

/-- May the slash at the end go without taking the root or a drive with it? -/
def lastSlashRemovable (path : List Char) : Bool :=
  let (head, tail) := splitLastSlash path.dropLast
  head ≠ [] && !isDriveLetter tail

/-- Takes the last segment off, unless it is the drive of a file. -/
def shorten (kind : SchemeKind) (path : List Char) : List Char :=
  let (head, tail) := splitLastSlash path
  if kind = .file && isNormalDriveLetter tail then path else head

def stepUp (kind : SchemeKind) (path : List Char) : List Char :=
  shorten kind (if endsWithSlash path && lastSlashRemovable path then path.dropLast else path)

/-- A path that is being read, and the host of its URL. -/
structure Reading where
  host : Host
  path : List Char

def Reading.add (kind : SchemeKind) (r : Reading) (segment : List Char) (slash : Bool) : Reading :=
  let close (path : List Char) : List Char := if slash then path ++ ['/'] else path
  if resolveDots segment = ['.', '.'] then
    let path := stepUp kind r.path
    { r with path := if slash && !endsWithSlash path then path ++ ['/'] else path }
  else if resolveDots segment = ['.'] then
    { r with path := if endsWithSlash r.path then r.path else r.path ++ ['/'] }
  else if kind = .file && r.path.length = 1 && isDriveLetter segment then
    -- a drive is on this machine, whatever host was named
    ⟨.absent, close (r.path ++ segment.take 1 ++ [':'])⟩
  else { r with path := close (r.path ++ segment) }

structure OpenSegment where
  /-- Its characters up to the last break. -/
  settled : List Char
  /-- Its characters since, last first. -/
  recent : List Char

namespace OpenSegment

def empty : OpenSegment := ⟨[], []⟩

def chars (s : OpenSegment) : List Char := s.settled ++ s.recent.reverse

def settle (s : OpenSegment) : OpenSegment := ⟨s.chars, []⟩

end OpenSegment

/-- Goes on with a character of a segment. After a drive with a break at its
end a slash is put in; what follows belongs to one segment with that slash. -/
def Reading.push (kind : SchemeKind) (r : Reading) (s : OpenSegment) (c : Char) :
    Reading × OpenSegment :=
  if kind = .file && isNormalDriveLetter ((r.path ++ s.settled).drop 1) then
    let chars := s.chars ++ ['/']
    ({ r with path := r.path ++ chars.take 1 }, ⟨chars.drop 1, [c]⟩)
  else (r, { s with recent := c :: s.recent })

def Reading.walk (kind : SchemeKind) (r : Reading) (s : OpenSegment) : List Char → Reading
  | [] => r.add kind s.chars false
  | c :: rest =>
    if isBreak c then r.walk kind s.settle rest
    else if isSlash kind c then (r.add kind s.chars true).walk kind .empty rest
    else if c = '?' || c = '#' then r.add kind s.chars false
    else
      let (r, s) := r.push kind s c
      r.walk kind s rest

/-- Where the path of a URL is read from: its host, what the path starts with,
and what is left of the URL without the breaks in it. -/
structure PathStart where
  kind : SchemeKind
  host : Host
  start : List Char
  rest : List Char

/-- Reads the path of a URL with breaks in it; a file's path has one slash in front. -/
def PathStart.read (p : PathStart) (url : List Char) : Reading :=
  let r := Reading.walk p.kind ⟨p.host, p.start⟩ .empty (suffixOf p.rest.length url)
  if p.kind = .file then { r with path := '/' :: r.path.dropWhile (· = '/') } else r

-- ---------------------------------------------------------------------------
-- Reading: whole URLs
-- ---------------------------------------------------------------------------

/-- The input without one slash in front. -/
def dropSlash (kind : SchemeKind) : List Char → List Char
  | c :: rest => if isSlash kind c then rest else c :: rest
  | [] => []

def readFileHost? (input : List Char) : Option PathStart := do
  let name := input.takeWhile (!endsAuthority .file ·)
  let rest := input.dropWhile (!endsAuthority .file ·)
  if isDriveLetter name then return ⟨.file, .absent, ['/'], input⟩
  else match ← Host.of? .file name with
    | .remote => return ⟨.file, .remote, ['/'], dropSlash .file rest⟩
    | _ => return ⟨.file, .absent, ['/'], rest⟩

def readFile? (input : List Char) : Option PathStart :=
  match input.takeWhile (isSlash .file), input with
  | _ :: _ :: _, _ :: _ :: rest => readFileHost? rest
  | _ :: _, _ => some ⟨.file, .absent, [], input⟩
  | [], _ => some ⟨.file, .absent, ['/'], input⟩

/-- What follows the user information of an authority, and whether there was
a name or a password; none if the host after an empty one is missing. -/
def skipUserInfo? (kind : SchemeKind) (input : List Char) : Option (Bool × List Char) :=
  let authority := input.takeWhile (!endsAuthority kind ·)
  let rest := input.dropWhile (!endsAuthority kind ·)
  if authority.contains '@' then
    let host := (authority.reverse.takeWhile (· ≠ '@')).reverse
    let user := authority.take (authority.length - host.length - 1)
    if user = [] && host = [] && rest ≠ [] then none
    else some (user ≠ [] && user ≠ [':'], host ++ rest)
  else some (false, input)

def splitHost (kind : SchemeKind) : (inBrackets : Bool) → List Char → List Char × List Char
  | _, [] => ([], [])
  | inBrackets, c :: rest =>
    if (c = ':' && !inBrackets) || endsAuthority kind c then ([], c :: rest)
    else
      let next := if c = '[' then true else if c = ']' then false else inBrackets
      let (host, tail) := splitHost kind next rest
      (c :: host, tail)

def skipPort? : Nat → List Char → Option (List Char)
  | _, [] => some []
  | n, c :: rest =>
    if c.isDigit then
      let n := n * 10 + (c.toNat - '0'.toNat)
      if n ≤ 65535 then skipPort? n rest else none
    else if c = '/' || c = '\\' || c = '?' || c = '#' then some (c :: rest)
    else none

def readAuthority? (kind : SchemeKind) (input : List Char) : Option PathStart := do
  let (hasUser, input) ← skipUserInfo? kind input
  let (name, rest) := splitHost kind false input
  let host ← Host.of? kind name
  if host = .absent && (kind = .web || hasUser || rest.head? = some ':') then none
  else
    let rest ← match rest with
      | ':' :: rest => skipPort? 0 rest
      | rest => some rest
    match kind, rest with
    | .web, rest => return ⟨.web, host, ['/'], dropSlash .web rest⟩
    | kind, '/' :: _ | kind, '?' :: _ | kind, '#' :: _ | kind, [] => return ⟨kind, host, [], rest⟩
    | kind, rest => return ⟨kind, host, ['/'], rest⟩

def pathStart? (url : List Char) : Option PathStart := do
  let (scheme, rest) ← splitScheme? url
  match SchemeKind.of scheme with
  | .file => readFile? rest
  | .web => readAuthority? .web (rest.dropWhile (isSlash .web))
  | .other =>
    match rest with
    | '/' :: '/' :: rest => readAuthority? .other rest
    | '/' :: rest => return ⟨.other, .absent, ['/'], rest⟩
    | _ => none

def readUrl? (url : List Char) : Option Reading :=
  let url := trimmed url
  (pathStart? (url.filter (!isBreak ·))).map fun p => p.read url

/-- A path whose end looks like a drive gets a slash. -/
def closeDrive (path : Text.Bytes) : Text.Bytes :=
  match path.reverse with
  | b :: a :: _ :: _ =>
    if (b = 0x3a || b = 0x7c) && isAsciiLetter (Char.ofNat a.toNat) then path ++ [0x2f] else path
  | _ => path

/-- The local path that a URL leads to. -/
def ofFileUrl? (url : String) : Option String := do
  let r ← readUrl? url.toList
  if r.host = .remote || !isAbsolute r.path then none
  else return Text.decodeLossy (closeDrive (unescape (Text.encode (String.ofList r.path))))

end DebugAdapter.Paths
