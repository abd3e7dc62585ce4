import Notebook.Url.Host
import Notebook.Url.Path

/-!
# URLs

What a URL says: credentials, host, port, path and query, all still
percent-encoded. Schemes are of three kinds. Under a scheme of the web any
slashes may precede the authority, which has to name a host, and a backslash is
a slash. A file has no port, and its host may be left out. Under any other scheme
two slashes announce an authority; without them everything is path.
-/

namespace Notebook

/-- The parts of a URL that are looked at. -/
structure Url where
  username : List Char := []
  /-- The password; one that is not given is empty. -/
  password : List Char := []
  host : List Char := []
  port : Option Nat := none
  /-- The path with its dots resolved. -/
  path : List Char := []
  query : List Char := []
deriving DecidableEq

namespace Url

/-- Drops control characters and blanks of ASCII at both ends, and tabs and line
breaks everywhere, none of which belong to a URL. -/
def cleaned (text : String) : List Char :=
  let ignorable (c : Char) : Bool := c.toNat ≤ 0x20
  let inner := (text.toList.dropWhile ignorable).reverse.dropWhile ignorable |>.reverse
  inner.filter fun c => c != '\t' && c != '\n' && c != '\r'

/-- Splits the scheme off: a letter, then letters, digits and `+-.` up to a colon. -/
def splitScheme? (cs : List Char) : Option (List Char × List Char) :=
  let isSchemeChar (c : Char) : Bool := c.isAlphanum || c == '+' || c == '-' || c == '.'
  match cs.head?, cs.dropWhile isSchemeChar with
  | some first, ':' :: rest =>
      if first.isAlpha then some (cs.takeWhile isSchemeChar, rest) else none
  | _, _ => none

/-- The kinds of schemes. -/
inductive Kind where
  | web
  | file
  | other
deriving DecidableEq

/-- The kind of a scheme. -/
def Kind.ofScheme (scheme : List Char) : Kind :=
  let scheme := String.ofList (scheme.map Char.toLower)
  if ["http", "https", "ws", "wss", "ftp"].contains scheme then .web
  else if scheme = "file" then .file
  else .other

/-- Holds of the kinds under which hosts are domains and backslashes slashes. -/
def Kind.isSpecial (kind : Kind) : Bool :=
  kind != .other

/-- A slash, in either direction. -/
def isSlash (c : Char) : Bool :=
  c == '/' || c == '\\'

/-- The characters that end an authority. -/
def Kind.endsAuthority (kind : Kind) (c : Char) : Bool :=
  c == '/' || c == '?' || c == '#' || (kind.isSpecial && c == '\\')

/-- The parts in front of the last `@` and behind it. -/
def splitLastAt? (cs : List Char) : Option (List Char × List Char) :=
  let behind := (cs.reverse.takeWhile (· ≠ '@')).reverse
  if behind.length < cs.length then some (cs.take (cs.length - behind.length - 1), behind)
  else none

/-- Splits the credentials off, a user name and a password. Nothing in front of
an `@` is no credentials, but then something has to follow. -/
def splitCredentials (kind : Kind) (cs : List Char) :
    Except Fault (List Char × List Char × List Char) :=
  let authority := cs.takeWhile fun c => !kind.endsAuthority c
  let beyond := cs.drop authority.length
  match splitLastAt? authority with
  | none => .ok ([], [], cs)
  | some ([], []) => if beyond.isEmpty then .ok ([], [], []) else .error .emptyHost
  | some (credentials, rest) =>
      .ok (credentials.takeWhile (· ≠ ':'), (credentials.dropWhile (· ≠ ':')).drop 1,
        rest ++ beyond)

/-- Splits the host off, which ends at a colon that does not stand in brackets. -/
def splitHost (kind : Kind) (bracketed : Bool) : List Char → List Char × List Char
  | [] => ([], [])
  | c :: rest =>
      if kind.endsAuthority c || (c == ':' && !bracketed) then ([], c :: rest)
      else
        let (host, rest) := splitHost kind (c == '[' || (bracketed && c != ']')) rest
        (c :: host, rest)

/-- Splits the port off behind its colon. No digits are no port. -/
def splitPort : List Char → Except Fault (Option Nat × List Char)
  | ':' :: cs =>
      let digits := cs.takeWhile Char.isDigit
      let rest := cs.drop digits.length
      let ends := match rest with
        | [] => true
        | c :: _ => isSlash c || c == '?' || c == '#'
      if Decimal.value digits ≤ 65535 && ends then
        .ok (if digits.isEmpty then none else some (Decimal.value digits), rest)
      else .error .port
  | cs => .ok (none, cs)

/-- What stands in front of query and fragment. -/
def beforeQuery (cs : List Char) : List Char :=
  cs.takeWhile fun c => c != '?' && c != '#'

/-- The query, which ends where a fragment begins. -/
def queryOf (cs : List Char) : List Char :=
  match cs.dropWhile fun c => c != '?' && c != '#' with
  | '?' :: rest => rest.takeWhile (· ≠ '#')
  | _ => []

/-- The path that follows an authority. Only under other schemes than those of
web and files may it be empty. -/
def pathOf (kind : Kind) (cs : List Char) : List Char :=
  let cs := beforeQuery cs
  let cs := if kind.isSpecial then cs.map fun c => if c = '\\' then '/' else c else cs
  match cs with
  | [] => if kind.isSpecial then ['/'] else []
  | '/' :: rest => Path.resolved rest
  | cs => Path.resolved cs

/-- Reads a URL from its authority on. Credentials need a host, and so does a
port. -/
def ofAuthority (kind : Kind) (cs : List Char) : Except Fault Url := do
  let (username, password, cs) ← splitCredentials kind cs
  let (host, cs) := splitHost kind false cs
  if host.isEmpty && (kind.isSpecial || cs.head? = some ':') then
    throw .emptyHost
  Host.check kind.isSpecial host
  let (port, cs) ← splitPort cs
  if host.isEmpty && !(username.isEmpty && password.isEmpty) then
    throw .emptyHost
  return { username, password, host, port, path := pathOf kind cs, query := queryOf cs }

/-- Reads the URL of a file behind its scheme. What looks like a drive is no host. -/
def ofFile (cs : List Char) : Except Fault Url := do
  let withPath (host cs : List Char) : Url :=
    { host, path := pathOf .file cs, query := queryOf cs }
  match cs with
  | first :: second :: rest =>
      if isSlash first && isSlash second then
        let host := rest.takeWhile fun c => !Kind.file.endsAuthority c
        if Path.isDrive host then
          return withPath [] rest
        if !host.isEmpty then
          Host.check true host
        return withPath host (rest.drop host.length)
      else return withPath [] cs
  | cs => return withPath [] cs

/-- Reads a URL. -/
def ofText (text : String) : Except Fault Url :=
  match splitScheme? (cleaned text) with
  | none => .error .noScheme
  | some (scheme, cs) =>
      match Kind.ofScheme scheme, cs with
      | .web, cs => ofAuthority .web (cs.dropWhile isSlash)
      | .file, cs => ofFile cs
      | .other, '/' :: '/' :: rest => ofAuthority .other rest
      | .other, '/' :: rest => .ok { path := pathOf .other ('/' :: rest), query := queryOf rest }
      | .other, cs => .ok { path := beforeQuery cs, query := queryOf cs }

end Url

end Notebook
