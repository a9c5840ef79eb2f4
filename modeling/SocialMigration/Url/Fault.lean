import SocialMigration.Text.Quoted
import SocialMigration.Text.Unencodable

/-!
# Address faults

Why no request can be sent to the address of a node. Each fault holds the part of the address that
its report shows.
-/

namespace SocialMigration

namespace Url

/-- What is wrong with an address. -/
inductive Fault where
  | noScheme (url : Text)
  | noHost (url : Text)
  | portTooLarge (url : Text)
  | badHostOrPort (hostAndPort : Text)
  | badHostCharacter (host : Text) (character : CodePoint)
  | badName (label : Text)
  | badLabel
  | unbalancedBrackets
  | badFutureAddress
  | bracketedVersion4
  | notAnAddress (host : Text)
  | ambiguousAuthority (authority : Text)
  | unencodable (run : Text) (position : Nat)
  | unknownScheme (url : Text)
  deriving DecidableEq, Repr

/-- The report of an address that cannot be taken apart. -/
def unparsable (detail : Text) : Text :=
  "Failed to parse: " ++ detail

/-- The report of a fault. -/
def Fault.message : Fault → Text
  | noScheme url =>
    "Invalid URL " ++ url.quoted ++ ": No scheme supplied. Perhaps you meant https://" ++ url ++
      "?"
  | noHost url => "Invalid URL " ++ url.quoted ++ ": No host supplied"
  | portTooLarge url => unparsable url
  | badHostOrPort hostAndPort =>
    unparsable (hostAndPort.quoted ++ " is not a valid host or port")
  | badHostCharacter host character =>
    unparsable ("Host " ++ host.quoted ++ " contains invalid character " ++
      Text.quoted [character])
  | badName label => unparsable ("Name '" ++ label ++ "' is not a valid IDNA label")
  | badLabel => "URL has an invalid label."
  | unbalancedBrackets => "Invalid IPv6 URL"
  | badFutureAddress => "IPvFuture address is invalid"
  | bracketedVersion4 => "An IPv4 address cannot be in brackets"
  | notAnAddress host => host.quoted ++ " does not appear to be an IPv4 or IPv6 address"
  | ambiguousAuthority authority =>
    "netloc '" ++ authority ++ "' contains invalid characters under NFKC normalization"
  | unencodable run position =>
    Text.unencodableReport "latin-1" "ordinal not in range(256)" run position
  | unknownScheme url => "No connection adapters were found for " ++ url.quoted

end Url

end SocialMigration
