import SocialMigration.Text.Blank
import SocialMigration.Text.Digit
import SocialMigration.Text.LowerCase

/-!
# Setting values

What the text of a setting stands for: an integer, written as an optional sign and decimal digits
of any script with single underscores between them, or a truth value. Blanks around a value do not
count.
-/

namespace SocialMigration

namespace Settings

/-- The greatest number of digits of an integer. -/
def digitLimit : Nat := 4300

/-- The digits of an integer literal after the first one: an underscore may stand before each. -/
def moreDigits? : Text → Option (List Nat)
  | [] => some []
  | c :: rest =>
    match c.digitValue? with
    | some digit => (moreDigits? rest).map (digit :: ·)
    | none =>
      if c == 0x5F then
        match rest with
        | d :: after =>
          match d.digitValue? with
          | some digit => (moreDigits? after).map (digit :: ·)
          | none => none
        | [] => none
      else none

/-- The digits of an integer literal without its sign; there is at least one. -/
def literalDigits? : Text → Option (List Nat)
  | [] => none
  | c :: rest =>
    match c.digitValue? with
    | some digit => (moreDigits? rest).map (digit :: ·)
    | none => none

/-- The integer that a literal denotes. -/
def integer? (literal : Text) : Option Int :=
  let (negative, unsigned) := literal.splitSign
  match literalDigits? unsigned with
  | none => none
  | some digits =>
    if digitLimit < digits.length then none
    else
      let size : Int := Numeral.value 10 digits
      some (if negative then -size else size)

/-- Whether a value says yes: the word `true` in any case. -/
def isTrue (value : Text) : Bool :=
  value.trim.toLowerCase == Text.ofString "true"

end Settings

end SocialMigration
