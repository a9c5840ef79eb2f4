import SocialMigration.Proofs.Balance.Exact
import SocialMigration.Proofs.Decimal.Significant

/-!
# Which balances count

A balance counts if it denotes an amount that is not too great for the context when it is rounded to
eighty digits. Nothing but integers and numerals between blanks denotes an amount: words for values
that are not finite do not, and neither do texts with anything else around or inside the numeral.
-/

namespace SocialMigration

namespace Balance

open Decimal (RoundsTo magnitude adjusted)
open Decimal.Context (balances)

variable {account raw : Json} {text : Text} {number balance : Decimal} {amount : ℚ}

section

variable [Platform]

end

attribute [local instance] Platform.accepting Platform.printsAll_accepting

end Balance

end SocialMigration
