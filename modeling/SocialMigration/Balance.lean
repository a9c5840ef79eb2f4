import SocialMigration.Decimal.Arithmetic
import SocialMigration.Decimal.Printer
import SocialMigration.Decimal.Reader
import SocialMigration.Json.Shown
import SocialMigration.Platform
import SocialMigration.Text.Blank

/-!
# Storage balances

An account record is a pair of an account id and an object whose `storage_balance` counts the
smallest unit of the currency, 10^24 of which make one NEAR. The report adds the balances of all
records and shows the total in NEAR. The first record without a readable balance stops it, and the
fault quotes what it is about, if that can be put into words.
-/

namespace SocialMigration

namespace Balance

/-- Why a balance or a record cannot be counted. -/
inductive Fault where
  | malformedRecord (record : Json)
  | notADecimalString (account raw : Json)
  | notADecimal (account raw : Json)
  | notFinite (account raw : Json)
  deriving Repr

/-- The account that a fault is about; null if the record is not even a pair with a balance. -/
def Fault.account : Fault → Json
  | malformedRecord _ => .null
  | notADecimalString account _ => account
  | notADecimal account _ => account
  | notFinite account _ => account

/-- A complaint about the balance of an account. -/
def complaint (account : Json) (words : Text) (raw : Json) : Text :=
  "storage_balance of " ++ account.shown ++ " is not " ++ words ++ ": " ++ raw.quoted

/-- The report of a fault. -/
def Fault.message : Fault → Text
  | malformedRecord record => "Malformed account record: " ++ record.quoted
  | notADecimalString account raw => complaint account "a decimal string" raw
  | notADecimal account raw => complaint account "a valid decimal" raw
  | notFinite account raw => complaint account "a finite decimal" raw

/-- Why a fault is not put into words, if that is so. -/
def Fault.unworded? [Platform] : Fault → Option Unworded
  | malformedRecord record => Place.record.unworded? record
  | notADecimalString account raw
  | notADecimal account raw
  | notFinite account raw => (Place.balance.unshown? account).or (Place.balance.unworded? raw)

/-- Why decimal arithmetic has no result. -/
inductive ArithmeticFault where
  | invalidOperation
  | overflow
  deriving DecidableEq, Repr

/-- The number that a balance denotes, before it is known to be finite: an integer, or a text
between blanks. -/
def number? : Json → Option Decimal
  | .int value => some (Decimal.Context.balances.fit (value < 0) value.natAbs 0)
  | .str text => Decimal.Context.balances.read? text.trim
  | _ => none

/-- Whether a value may hold a balance at all. -/
def isNumeral : Json → Bool
  | .int _ => true
  | .str _ => true
  | _ => false

/-- The finite number that a balance of an account denotes, or what is wrong with it. -/
def finite (account raw : Json) : Except Fault Decimal :=
  if !isNumeral raw then .error (.notADecimalString account raw)
  else
    match number? raw with
    | none => .error (.notADecimal account raw)
    | some value => if value.isFinite then .ok value else .error (.notFinite account raw)

/-- The account id and the balance of a record. -/
def ofRecord? : Json → Option (Json × Json)
  | .arr [account, fields] => (fields.field? "storage_balance").map (account, ·)
  | _ => none

/-- The balance of a record as a number, or what is wrong with the record. -/
def finiteOfRecord (record : Json) : Except Fault Decimal :=
  match ofRecord? record with
  | none => .error (.malformedRecord record)
  | some (account, raw) => finite account raw

/-- Why a report of balances has no total: a record without a balance, a step without a result, or a
record whose fault is not put into words. -/
inductive ReportFault where
  | record (fault : Fault)
  | arithmetic (fault : ArithmeticFault)
  | unworded (fault : Unworded)
  deriving Repr

/-- A fault as the report raises it. -/
def ReportFault.ofFault [Platform] (fault : Fault) : ReportFault :=
  match fault.unworded? with
  | some cause => .unworded cause
  | none => .record fault

/-- The finite number that a balance of an account denotes. -/
def parse [Platform] (account raw : Json) : Except ReportFault Decimal :=
  (finite account raw).mapError .ofFault

/-- The balance of a record as a number. -/
def parseRecord [Platform] (record : Json) : Except ReportFault Decimal :=
  (finiteOfRecord record).mapError .ofFault

/-- A total with one more balance. -/
def addTo (total balance : Decimal) : Except ReportFault Decimal :=
  match Decimal.Context.balances.add total balance with
  | some sum => .ok sum
  | none => .error (.arithmetic .invalidOperation)

/-- A total with the balances of more records, in their order. -/
def sumFrom [Platform] (total : Decimal) : List Json → Except ReportFault Decimal
  | [] => .ok total
  | record :: records =>
    match parseRecord record with
    | .error fault => .error fault
    | .ok balance =>
      match addTo total balance with
      | .error fault => .error fault
      | .ok sum => sumFrom sum records

/-- The sum of the balances of account records. -/
def sum [Platform] (records : List Json) : Except ReportFault Decimal :=
  sumFrom (.finite false 0 0) records

/-- The decimal places between the smallest unit and one NEAR. -/
def placesOfNear : Nat := 24

/-- The decimal places of a total in the report. -/
def reportPlaces : Int := 3

/-- A number of smallest units as NEAR, rounded to decimal places. -/
def toNear (total : Decimal) (places : Int) : Except ArithmeticFault Decimal :=
  match Decimal.Context.balances.scale (-placesOfNear) total with
  | none => .error .invalidOperation
  | some near =>
    match Decimal.unitExponent places with
    | .error .outOfReach => .error .invalidOperation
    | .error .tooGreat => .error .overflow
    | .ok exponent =>
      match Decimal.Context.balances.quantize exponent near with
      | none => .error .invalidOperation
      | some rounded => .ok rounded

/-- A number of smallest units as the report shows it. -/
def nearText (total : Decimal) (places : Int) : Except ArithmeticFault Text :=
  (toNear total places).map fun near => near.toText ++ " NEAR"

end Balance

end SocialMigration
