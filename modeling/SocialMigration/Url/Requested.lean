import SocialMigration.Url.Basic

/-!
# Requested addresses

The address to which a request goes. An address of the web is read, written out in full and quoted;
one that a colon shows to belong elsewhere is left as it is. A request is only sent to the web, and
only if the authority is sound and the credentials in it can be sent along.

This is the knowledge of one transport, with which the program is run. What is said of view calls
holds for every other as well.
-/

namespace SocialMigration

namespace Url

/-! ## Soundness -/

/-- Characters that other characters of addresses may be taken for. -/
def ambiguousCharacters : List CodePoint :=
  [0x2047, 0x2048, 0x2049, 0x2100, 0x2101, 0x2105, 0x2106, 0x2A74, 0xFE13, 0xFE16, 0xFE55,
    0xFE56, 0xFE5F, 0xFE6B, 0xFF03, 0xFF0F, 0xFF1A, 0xFF1F, 0xFF20]

/-- The authority of any address, without line ends and tabs; a backslash does not end it. -/
def rawAuthority (url : Text) : Text :=
  let text := (url.dropWhile (·.val ≤ 0x20)).filter fun c => c != 0x09 && c != 0x0A && c != 0x0D
  let rest := match scheme? text with
    | some (_, rest) => rest
    | none => text
  match Text.afterPrefix? "//" rest with
  | some rest => rest.takeWhile fun c => c == 0x5C || !endsAuthority c
  | none => []

/-- Whether a text is an address of a version yet to come: its number, and more after a point. -/
def isFutureAddress (text : Text) : Bool :=
  match Text.breakAt (· == 0x2E) text.tail with
  | some (version, rest) =>
    !version.isEmpty && version.all (·.hexValue?.isSome) && !rest.isEmpty
  | none => false

/-- Checks what stands in brackets. -/
def checkBracketed (inner : Text) : Except Fault Unit :=
  if inner.head? == some 0x76 then
    if isFutureAddress inner then .ok () else .error .badFutureAddress
  else if Address.isStrictVersion4 inner then .error .bracketedVersion4
  else if Address.isStrictVersion6 inner then .ok ()
  else .error (.notAnAddress inner)

/-- Checks an authority: brackets come in pairs and hold an address, and no character may be taken
for one that ends a part. -/
def checkAuthority (authority : Text) : Except Fault Unit := do
  let opens := authority.contains 0x5B
  let closes := authority.contains 0x5D
  if opens != closes then throw .unbalancedBrackets
  if opens then checkBracketed (cutAt 0x5D (cutAt 0x5B authority).2).1
  if authority.any ambiguousCharacters.contains then throw (.ambiguousAuthority authority)

/-- Checks that every character of a credential is one of the first two hundred and fifty-six. -/
def checkCredential (text : Text) : Except Fault Unit :=
  match text.firstRun? fun c => 0x100 ≤ c.val with
  | none => .ok ()
  | some (run, position) => .error (.unencodable run position)

/-- Checks the user's name and password in an authority, which are sent only if both are there. -/
def checkCredentials (authority : Text) : Except Fault Unit :=
  match Text.breakAt (· == 0x3A) (splitUser authority).1 with
  | some (name, password) => do
    checkCredential (unescaped name)
    checkCredential (unescaped password)
  | none => .ok ()

/-- Whether a text starts with a literal in small letters, whatever the case of its own letters. -/
def startsWith (literal text : Text) : Bool :=
  literal.isPrefixOf (text.map CodePoint.lowerAscii)

/-- The address as it is, if a request can be sent there. -/
def sound (url : Text) : Except Fault Text := do
  let authority := rawAuthority url
  checkAuthority authority
  checkCredentials authority
  if webSchemes.any fun scheme => startsWith (scheme ++ "://") url then return url
  throw (.unknownScheme url)

/-! ## Requests -/

/-- The host of an address that has been read, as it is requested. -/
def requestedHost (host : Text) : Except Fault Text :=
  if !Label.isAscii host then
    match nameInAscii? host with
    | some name => .ok name
    | none => .error .badLabel
  else if host.head? == some 0x2A || host.head? == some 0x2E then .error .badLabel
  else .ok host

/-- The full form of an address of the web. -/
def writtenOut (url : Text) : Except Fault Text := do
  let read ← read url
  match read.scheme with
  | none => throw (.noScheme url)
  | some scheme =>
    if read.host.isEmpty then throw (.noHost url)
    let host ← requestedHost read.host
    return requoted ({ read with host }.toText scheme)

/-- The address to which a request for an address goes, or the fault of that address. Blanks in
front do not count. -/
def soundForm (address : Text) : Except Fault Text := do
  let url := address.trimStart
  if url.contains 0x3A && !startsWith "http" url then sound url
  else sound (← writtenOut url)

/-- The address to which a request for an address goes, or why none does. -/
def requested (address : Text) : Except Text Text :=
  (soundForm address).mapError Fault.message

end Url

end SocialMigration
