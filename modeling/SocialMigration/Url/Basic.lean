import SocialMigration.Url.Host

/-!
# Addresses of the web

An address consists of a scheme, an authority with the host and perhaps a user and a port, a path,
a query and a fragment. Reading one of the web brings each part into its written form: dots are
resolved in the path, and characters that may not stand in a part are escaped.
-/

namespace SocialMigration

/-- An address. Port zero stands for none. -/
structure Url where
  scheme : Option Text
  userInfo : Text
  host : Text
  port : Nat
  path : Text
  query : Text
  fragment : Text
  deriving Repr

namespace Url

/-- Whether a character may stand in a scheme after its first letter. -/
def inScheme (c : CodePoint) : Bool :=
  isAsciiLetter c || c.isAsciiDigit || (Text.ofString "+-.").contains c

/-- The scheme at the start of a text, a letter and more before a colon, and the rest. -/
def scheme? (text : Text) : Option (Text × Text) :=
  match Text.breakAt (!inScheme ·) text with
  | some (scheme, rest) =>
    if text.drop scheme.length == 0x3A :: rest && (scheme.head?.any isAsciiLetter) then
      some (scheme, rest)
    else none
  | none => none

/-- A text that starts with a scheme without points, or at a root, as it is; any other one as an
authority. -/
def withAuthorityMark (url : Text) : Text :=
  let isRooted := url.head? == some 0x2F
  let hasScheme := match scheme? url with
    | some (scheme, _) => !scheme.contains 0x2E
    | none => false
  if isRooted || hasScheme then url else "//" ++ url

/-- Whether a code point ends the authority of an address. -/
def endsAuthority (c : CodePoint) : Bool :=
  (Text.ofString "\\/?#").contains c

/-- The authority at the start of a text, after two slashes, and the rest. -/
def spanAuthority (text : Text) : Text × Text :=
  match Text.afterPrefix? "//" text with
  | some rest => (rest.takeWhile (!endsAuthority ·), rest.dropWhile (!endsAuthority ·))
  | none => ([], text)

/-- A text cut at the first occurrence of a code point, which is dropped. -/
def cutAt (mark : CodePoint) (text : Text) : Text × Text :=
  (text.takeWhile (· != mark), (text.dropWhile (· != mark)).drop 1)

/-- A text cut at the last at sign: the user's name and password, and the host and port. -/
def splitUser (authority : Text) : Text × Text :=
  let hostAndPort := (authority.reverse.takeWhile (· != 0x40)).reverse
  (authority.take (authority.length - hostAndPort.length - 1), hostAndPort)

/-- The names of a path after those that are a dot are left out and each double dot has taken the
name before it along. The names so far come latest first. -/
def resolvedNames (names : List Text) : List Text → List Text
  | [] => names.reverse
  | name :: rest =>
    if name == [0x2E] then resolvedNames names rest
    else if name == [0x2E, 0x2E] then resolvedNames names.tail rest
    else resolvedNames (name :: names) rest

/-- A path without dots between slashes. What a dot at the end leads to is a directory. -/
def withoutDots (path : Text) : Text :=
  let names := Address.split 0x2F path
  let resolved := resolvedNames [] names
  let rooted := if path.head? == some 0x2F && resolved.head? != some [] then [] :: resolved
    else resolved
  let endsInDot := 1 < names.length &&
    (names.getLast? == some [0x2E] || names.getLast? == some [0x2E, 0x2E])
  Text.join "/" (if endsInDot then rooted ++ [[]] else rooted)

/-- A path that starts at the root. -/
def rootedPath (path : Text) : Text :=
  if path.head? == some 0x2F then path else 0x2F :: path

/-- The schemes of the web. -/
def webSchemes : List Text := ["http", "https"]

/-- Whether an address with a scheme, or without one, is brought into its written form. -/
def isOfWeb (scheme : Option Text) : Bool :=
  match scheme with
  | some scheme => webSchemes.contains scheme
  | none => true

/-- An address in its written form. -/
def normalized (url : Url) : Except Fault Url := do
  return { url with
    userInfo := escaped inUserInfo url.userInfo
    host := ← hostInAscii url.host
    path := rootedPath (escaped inPath (withoutDots url.path))
    query := escaped inQuery url.query
    fragment := escaped inQuery url.fragment }

/-- Reads an address. One of the web, or without a scheme, comes in its written form. -/
def read (text : Text) : Except Fault Url := do
  let rooted := withAuthorityMark text
  let (scheme, rest) := match scheme? rooted with
    | some (scheme, rest) => (some (scheme.map CodePoint.lowerAscii), rest)
    | none => (none, rooted)
  let (authority, rest) := spanAuthority rest
  let (rest, fragment) := cutAt 0x23 rest
  let (path, query) := cutAt 0x3F rest
  let (userInfo, hostAndPort) := splitUser authority
  let (host, port) ←
    if authority.isEmpty then .ok ([], 0) else readHost rooted hostAndPort
  let url : Url := ⟨scheme, userInfo, host, port, rootedPath path, query, fragment⟩
  if isOfWeb scheme then normalized { url with path } else return url

/-- A part of an address after its mark; nothing of it if it is empty. -/
def marked (mark : CodePoint) (part : Text) : Text :=
  if part.isEmpty then [] else mark :: part

/-- The user, the host and the port of an address as text. -/
def authority (url : Url) : Text :=
  let user := if url.userInfo.isEmpty then [] else url.userInfo ++ [0x40]
  let port := if url.port == 0 then [] else Text.ofNat url.port
  user ++ url.host ++ marked 0x3A port

/-- An address with a scheme as text. -/
def toText (scheme : Text) (url : Url) : Text :=
  scheme ++ "://" ++ url.authority ++ url.path ++ marked 0x3F url.query ++
    marked 0x23 url.fragment

end Url

end SocialMigration
