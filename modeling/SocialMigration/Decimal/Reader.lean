import SocialMigration.Decimal.Basic
import SocialMigration.Text.Digit

/-!
# Reading decimal numbers

The written forms of a number: an optional sign, then digits of any script with at most one point
and at least one digit, and optionally an exponent; or a word for a value that is not finite, in
any case, where a value that is no number may carry digits as its payload. Nothing else may stand
around or inside.
-/

namespace SocialMigration

namespace Decimal

/-- The text after a word that starts it, in any case of its letters. -/
def afterWord? (word text : Text) : Option Text :=
  if (text.take word.length).map CodePoint.lowerAscii == word then some (text.drop word.length)
  else none

/-- The number that a text of digits alone denotes; nothing denotes zero. -/
def wholeDigits? (text : Text) : Option Nat :=
  match text.spanDigits with
  | (digits, []) => some (Numeral.value 10 digits)
  | _ => none

/-- The exponent at the end of a number: none written is zero. -/
def readExponent? (text : Text) : Option Int :=
  match text with
  | [] => some 0
  | e :: rest =>
    if e == 0x65 || e == 0x45 then
      let (negative, digits) := Text.splitSign rest
      if digits.isEmpty then none
      else (wholeDigits? digits).map fun size => if negative then -size else size
    else none

/-- The digits of a number around its point, and what follows them. -/
def readDigits (text : Text) : List Nat × List Nat × Text :=
  let (whole, rest) := text.spanDigits
  match rest with
  | c :: after =>
    if c == 0x2E then
      let (fraction, rest) := Text.spanDigits after
      (whole, fraction, rest)
    else (whole, [], rest)
  | [] => (whole, [], [])

/-- Reads a finite number without its sign. -/
def readFinite? (negative : Bool) (text : Text) : Option Decimal :=
  let (whole, fraction, rest) := readDigits text
  if (whole ++ fraction).isEmpty then none
  else
    (readExponent? rest).map fun exponent =>
      .finite negative (Numeral.value 10 (whole ++ fraction)) (exponent - fraction.length)

/-- Reads a value that is not finite, without its sign. -/
def readSpecial? (negative : Bool) (text : Text) : Option Decimal :=
  match afterWord? "nan" text with
  | some payload => (wholeDigits? payload).map (.nan negative false)
  | none =>
    match afterWord? "snan" text with
    | some payload => (wholeDigits? payload).map (.nan negative true)
    | none =>
      match afterWord? "inf" text with
      | some rest =>
        if rest.isEmpty || afterWord? "inity" rest == some [] then some (.infinite negative)
        else none
      | none => none

/-- The number that a text denotes, exactly. -/
def read? (text : Text) : Option Decimal :=
  let (negative, unsigned) := text.splitSign
  (readFinite? negative unsigned).or (readSpecial? negative unsigned)

/-- A number fitted into a context. A payload is not cut but refused if it is too long. -/
def Context.accept? (context : Context) : Decimal → Option Decimal
  | finite negative coefficient exponent => some (context.fit negative coefficient exponent)
  | infinite negative => some (.infinite negative)
  | nan negative signaling payload =>
    if payload < Nat.pow 10 context.precision then some (.nan negative signaling payload) else none

/-- The number that a text denotes, fitted into a context. -/
def Context.read? (context : Context) (text : Text) : Option Decimal :=
  (Decimal.read? text).bind context.accept?

end Decimal

end SocialMigration
