import LedgerGateway.Domain.Name
import LedgerGateway.Text.LetterCase
import LedgerGateway.Text.Percent
import LedgerGateway.Url.Address
import LedgerGateway.Url.Basic

/-!
# Reading URLs

Every text is cut into the parts of a URL by a few marks, and then each part is brought into its
normal form: small letters in the scheme and the host, no port that goes without saying, no parts of
the path that lead nowhere or up, and escapes for what may not stand where it does. What is wrong
with a URL is not told apart, but for a host that cannot be named to a server: its labels stand for
others that are none, or its zone is not in ASCII.
-/

namespace LedgerGateway.Url

/-- Why a text is no URL that can be used. -/
inductive Fault where
  | invalid
  /-- The host stands for a name that is none. -/
  | name (fault : Domain.LabelFault)
  /-- The zone of the host is not in ASCII. -/
  | zone
  deriving DecidableEq, Repr

/-! ## Cutting -/

/-- The parts of a URL as they were written. -/
structure Raw where
  scheme : List Char
  authority : List Char
  path : List Char
  query : Option (List Char)
  fragment : Option (List Char)

/-- Whether a character may stand in a scheme. -/
def isSchemeChar (c : Char) : Bool := c.isAlphanum || c = '+' || c = '.' || c = '-'

/-- The scheme in front of a colon, which may be empty, and the text behind it. -/
def cutScheme (s : List Char) : List Char × List Char :=
  let scheme := s.takeWhile isSchemeChar
  match s.drop scheme.length with
  | ':' :: rest =>
    if scheme.isEmpty || scheme.head?.any Char.isAlpha then (scheme, rest) else ([], s)
  | _ => ([], s)

/-- The authority behind two slashes, and the text behind it. -/
def cutAuthority : List Char → List Char × List Char
  | '/' :: '/' :: rest =>
    let authority := rest.takeWhile fun c => c ≠ '/' && c ≠ '?' && c ≠ '#'
    (authority, rest.drop authority.length)
  | s => ([], s)

/-- The part of a text behind a mark and up to an end, and the text behind it. -/
def cutPart (mark : Char) (isEnd : Char → Bool) : List Char → Option (List Char) × List Char
  | [] => (none, [])
  | c :: rest =>
    if c = mark then
      let part := rest.takeWhile fun d => !isEnd d
      (some part, rest.drop part.length)
    else (none, c :: rest)

/-- The parts of a text. -/
def cut (s : List Char) : Raw :=
  let (scheme, s) := cutScheme s
  let (authority, s) := cutAuthority s
  let path := s.takeWhile fun c => c ≠ '?' && c ≠ '#'
  let (query, s) := cutPart '?' (· = '#') (s.drop path.length)
  let (fragment, _) := cutPart '#' (fun _ => false) s
  ⟨scheme, authority, path, query, fragment⟩

/-- The text up to the last of a character, and the text behind it; nothing if it does not occur. -/
def cutLast? (c : Char) (s : List Char) : Option (List Char × List Char) :=
  if s.contains c then
    let behind := (s.reverse.takeWhile (· ≠ c)).reverse
    some ((s.take (s.length - behind.length)).dropLast, behind)
  else none

/-- The host in front of a text, with its brackets if it has some, and the text behind it. -/
def cutHost (s : List Char) : List Char × List Char :=
  let plain := s.takeWhile (· ≠ ':')
  match s, cutLast? ']' s with
  | '[' :: _, some (inside, behind) => (inside ++ [']'], behind)
  | _, _ => (plain, s.drop plain.length)

/-- The user, the host and the port of an authority. -/
def cutUser (s : List Char) : List Char × List Char × List Char :=
  let (user, s) := (cutLast? '@' s).getD ([], s)
  let (host, behind) := cutHost s
  (user, host, if behind.head? = some ':' then behind.drop 1 else behind)

/-! ## Normal forms -/

/-- Whether a character is one of ASCII. -/
def isAscii (c : Char) : Bool := c.toNat < 0x80

/-- Whether a character is printed in ASCII. -/
def isVisible (c : Char) : Bool := 0x20 ≤ c.toNat && c.toNat < 0x7F

/-- Whether the character stays in a fragment. -/
def staysInFragment (c : Char) : Bool := isVisible c && !" \"<>`".toList.contains c

/-- Whether the character stays in a query. -/
def staysInQuery (c : Char) : Bool := isVisible c && !" \"#<>".toList.contains c

/-- Whether the character stays in a path. -/
def staysInPath (c : Char) : Bool := isVisible c && !" \"#<>?`\x7b\x7d".toList.contains c

/-- Whether the character stays in a user. -/
def staysInUser (c : Char) : Bool := staysInPath c && !"/;=@[\\]^|".toList.contains c

/-- Whether the character stays in a host. -/
def staysInHost (c : Char) : Bool := "!$&'()*+,;=\"`\x7b\x7d%|\\".toList.contains c

/-- The normal form of a host. An address has to be one. -/
def readHost (s : List Char) : Except Fault (List Char) :=
  if Address.looksLikeVersion4 s then
    if Address.isVersion4 s then .ok s else .error .invalid
  else if s.head? = some '[' && s.getLast? = some ']' && 1 < s.length then
    let inside := (s.drop 1).dropLast
    if Address.isVersion6 inside then .ok inside else .error .invalid
  else if s.all isAscii then
    .ok (Text.Percent.escaped staysInHost (s.map Char.toLower))
  else (Domain.write (Text.lower s)).mapError fun _ => .invalid

/-- The usual ports of schemes. -/
def usualPorts : List (String × Int) :=
  [("ftp", 21), ("http", 80), ("https", 443), ("ws", 80), ("wss", 443)]

/-- The port that a text gives, unless it is the usual one of the scheme as it was written. -/
def readPort (scheme port : List Char) : Except Fault (Option Int) :=
  if port.isEmpty then .ok none
  else
    match Decimal.readInt (String.ofList port) with
    | none => .error .invalid
    | some n => .ok (if usualPorts.lookup (String.ofList scheme) = some n then none else some n)

/-- One part of a path behind those that lead to it, which come in reverse. -/
def pathStep (front : List (List Char)) (part : List Char) : List (List Char) :=
  if part = ['.'] then front
  else if part = ['.', '.'] then
    if front = [[]] then front else front.drop 1
  else part :: front

/-- The path without parts that lead nowhere or up. -/
def straightPath (path : List Char) : List Char :=
  List.intercalate ['/'] (((Text.partsBetween (· = '/') path).foldl pathStep []).reverse)

/-- Whether a path fits to what stands in front of it. -/
def pathFits (path : List Char) (hasScheme hasAuthority : Bool) : Bool :=
  if hasAuthority then path.isEmpty || path.head? = some '/'
  else hasScheme || !(['/', '/'].isPrefixOf path || path.head? = some ':')

/-- The most characters that a URL has. -/
def sizeLimit : Nat := 65536

/-- Whether a character may not stand in a URL at all. -/
def isControl (c : Char) : Bool := c.toNat < 0x20 || c.toNat = 0x7F

/-- The normal form of the parts of a URL. -/
def ofRaw (r : Raw) : Except Fault Url := do
  let (user, host, port) := cutUser r.authority
  let host ← readHost host
  let port ← readPort r.scheme port
  let hasScheme := !r.scheme.isEmpty
  let hasAuthority := !user.isEmpty || !host.isEmpty || port.isSome
  if pathFits r.path hasScheme hasAuthority then
    let path := if hasScheme || hasAuthority then straightPath r.path else r.path
    let escaped (stays : Char → Bool) (s : List Char) :=
      String.ofList (Text.Percent.escaped stays s)
    .ok { scheme := String.ofList (r.scheme.map Char.toLower)
          user := escaped staysInUser user
          host := String.ofList host
          port
          path := escaped staysInPath path
          query := r.query.map (escaped staysInQuery)
          fragment := r.fragment.map (escaped staysInFragment) }
  else .error .invalid

/-- Checks that the host can be named to a server. -/
def checkHost (u : Url) : Except Fault Url :=
  let host := u.host.toList
  if Domain.mark.isPrefixOf host then
    match Domain.check host with
    | .error fault => .error (.name fault)
    | .ok _ => .ok u
  else if host.all isAscii then .ok u
  else .error .zone

/-- The URL in a text. -/
def read (text : String) : Except Fault Url :=
  let s := text.toList
  if sizeLimit < s.length ∨ s.any isControl then .error .invalid
  else (ofRaw (cut s)).bind checkHost

end LedgerGateway.Url
