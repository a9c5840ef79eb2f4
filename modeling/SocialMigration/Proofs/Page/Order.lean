import SocialMigration.Proofs.Page.Verdict

/-!
# Every order of answers

Which page in flight is answered next is up to the other side. The orders in which the pages of a
flight can be answered are a relation here, and each of them is what some delivery does. So what is
said of every delivery is said of every order of answers.
-/

namespace SocialMigration

open scoped List

namespace Network

variable {World : Type}

/-- A network answers the query for each of some pages with the records assigned to it, whatever
happened before. -/
def Assigns (network : Network (StateM World)) (account method : Text) (pages : List Page)
    (assigned : Page → List Json) : Prop :=
  ∀ page ∈ pages, ∀ world,
    ((network.ask (page.query account method)).run world).1.outcome = .ok (.arr (assigned page))

variable {network : Network (StateM World)} {account method : Text} {pages : List Page}
  {assigned : Page → List Json}

/-- Records that are assigned are what the queries are answered with. -/
theorem Assigns.fixes (assigns : network.Assigns account method pages assigned) :
    network.Fixes account method pages fun page => .ok (.arr (assigned page)) :=
  assigns

theorem Assigns.eq (assigns : network.Assigns account method pages assigned) {page : Page}
    (member : page ∈ pages) {records : List Json}
    (answers : network.Answers (page.query account method) (.arr records)) :
    records = assigned page := by
  rcases answers with ⟨world, outcome⟩
  rw [assigns page member world] at outcome
  exact (Json.arr.inj (Except.ok.inj outcome)).symm

end Network

namespace Flight

/-- The orders in which the pages of a flight can be answered: any page in flight may be the next,
and after each answer the pages for which a slot is free are asked for. -/
inductive Answered (limit : Nat) (assigned : Page → List Json) : Flight → List Page → Prop where
  | nothing {flight : Flight} :
      (flight.launch limit).inFlight = [] → Answered limit assigned flight []
  | next {flight : Flight} {page : Page} {rest : List Page} :
      page ∈ (flight.launch limit).inFlight →
      Answered limit assigned ((flight.launch limit).land page (assigned page)) rest →
      Answered limit assigned flight (page :: rest)

variable {limit : Nat} {assigned : Page → List Json} {flight : Flight} {pages : List Page}

/-- An order in which lists are answered is one of the ways in which a flight can go. -/
theorem Answered.resolves (account method : Text)
    (answered : Answered limit assigned flight pages) :
    Resolves account method limit (fun page => .ok (.arr (assigned page))) flight pages none := by
  induction answered with
  | nothing idle => exact .nothing idle
  | next member _ ih => exact .next member rfl ih

/-- Every page of a flight is answered once. -/
theorem Answered.perm (positive : 0 < limit) (answered : Answered limit assigned flight pages) :
    pages ~ flight.pending :=
  ((answered.resolves [] []).of_none positive).1

end Flight

namespace Page

variable [Platform] [Platform.PrintsAll] {World : Type} {source : Source (StateM World)}
  {session : Session} {world : World} {assigned : Page → List Json}

end Page

end SocialMigration
