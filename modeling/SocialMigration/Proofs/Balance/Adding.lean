import SocialMigration.Proofs.Balance
import SocialMigration.Proofs.Decimal.Value

/-!
# Where adding stops

Balances are added until a record has none. Nothing else stops the sum, because a total that grows
beyond every number becomes infinite instead, and an infinite total stays so whatever is added. The
fault is that of the first such record: of the record itself if it is not a pair of an account and
an object with a balance, and of the balance otherwise, which then names the account. It is raised
as what it is if it can be put into words.
-/

namespace SocialMigration

namespace Balance

open Decimal.Context (balances)

variable {record account raw : Json} {records before : List Json} {fields : List (Text × Json)}
variable {total balance : Decimal} {fault : Fault}

/-! ## Records -/

/-- A pair of an account and an object that holds a balance of it. -/
inductive Holds : Json → Json → Json → Prop where
  | record {account raw : Json} {fields : List (Text × Json)}
      (found : (Json.obj fields).field? "storage_balance" = some raw) :
      Holds (.arr [account, .obj fields]) account raw

/-- What is wrong with a record: it holds no balance, or one that does not count. -/
inductive Faulty : Json → Fault → Prop where
  | malformed {record : Json} (holdsNone : ∀ account raw, ¬ Holds record account raw) :
      Faulty record (.malformedRecord record)
  | refused {record account raw : Json} {fault : Fault} (held : Holds record account raw)
      (failed : finite account raw = .error fault) : Faulty record fault

theorem ofRecord?_eq_some_iff :
    ofRecord? record = some (account, raw) ↔ Holds record account raw := by
  constructor
  · intro found
    rw [ofRecord?.eq_def] at found
    split at found
    · rename_i account' value
      rcases Option.map_eq_some_iff.mp found with ⟨raw', found, ⟨⟩⟩
      cases value with
      | obj fields => exact .record found
      | _ => exact nomatch found
    · exact nomatch found
  · rintro ⟨found⟩
    rw [ofRecord?, found]
    rfl

theorem finiteOfRecord_of_holds (held : Holds record account raw) :
    finiteOfRecord record = finite account raw := by
  rw [finiteOfRecord, ofRecord?_eq_some_iff.mpr held]

/-- A record is read as what is wrong with it. -/
theorem faulty_iff : Faulty record fault ↔ finiteOfRecord record = .error fault := by
  constructor
  · rintro (⟨holdsNone⟩ | ⟨held, failed⟩)
    · cases found : ofRecord? record with
      | none => rw [finiteOfRecord, found]
      | some pair => exact absurd (ofRecord?_eq_some_iff.mp found) (holdsNone _ _)
    · exact (finiteOfRecord_of_holds held).trans failed
  · intro failed
    cases found : ofRecord? record with
    | none =>
        rw [finiteOfRecord, found] at failed
        cases failed
        refine .malformed fun account raw held => ?_
        cases found.symm.trans (ofRecord?_eq_some_iff.mpr held)
    | some pair =>
        have held := ofRecord?_eq_some_iff.mp found
        exact .refused held ((finiteOfRecord_of_holds held).symm.trans failed)

theorem Holds.hasShortIntegers (held : Holds record account raw)
    (short : record.hasShortIntegers = true) :
    account.hasShortIntegers = true ∧ raw.hasShortIntegers = true := by
  cases held with
  | record found =>
      rw [Json.hasShortIntegers_arr] at short
      exact ⟨short _ (by simp), Json.hasShortIntegers_of_field? (short _ (by simp)) found⟩

section

variable [Platform]

/-- Whether a record holds a balance that counts. -/
def Counts (record : Json) : Prop :=
  ∃ account raw balance, Holds record account raw ∧ parse account raw = .ok balance

theorem parseRecord_of_holds (held : Holds record account raw) :
    parseRecord record = parse account raw := by
  rw [parseRecord, finiteOfRecord_of_holds held, parse]

/-- Records count just if they are read as numbers. -/
theorem counts_iff : Counts record ↔ ∃ balance, parseRecord record = .ok balance := by
  constructor
  · rintro ⟨account, raw, balance, held, parsed⟩
    exact ⟨balance, (parseRecord_of_holds held).trans parsed⟩
  · rintro ⟨balance, parsed⟩
    cases found : ofRecord? record with
    | none =>
        rw [parseRecord, finiteOfRecord, found] at parsed
        exact nomatch parsed
    | some pair =>
        have held := ofRecord?_eq_some_iff.mp found
        rw [parseRecord_of_holds held] at parsed
        exact ⟨pair.1, pair.2, balance, held, parsed⟩

theorem parseRecord_of_faulty (faulty : Faulty record fault) :
    parseRecord record = .error (.ofFault fault) := by
  rw [parseRecord, faulty_iff.mp faulty]
  rfl

theorem exists_faulty (bad : ¬ Counts record) : ∃ fault, Faulty record fault := by
  cases found : finiteOfRecord record with
  | ok balance => exact absurd (counts_iff.mpr ⟨balance, mapError_eq_ok_iff.mpr found⟩) bad
  | error fault => exact ⟨fault, faulty_iff.mpr found⟩

theorem not_counts_of_faulty (faulty : Faulty record fault) : ¬ Counts record := by
  intro counts
  rcases counts_iff.mp counts with ⟨balance, parsed⟩
  cases parsed.symm.trans (parseRecord_of_faulty faulty)

theorem isFinite_of_parseRecord (parsed : parseRecord record = .ok balance) :
    balance.isFinite = true := by
  rcases counts_iff.mpr ⟨balance, parsed⟩ with ⟨account, raw, _, held, -⟩
  exact (parse_eq_ok_iff.mp ((parseRecord_of_holds held).symm.trans parsed)).2

end

/-! ## Sums -/

/-- A total on the way: infinite, or finite with no more digits than are kept. -/
def Fitted : Decimal → Prop
  | .finite _ coefficient _ => coefficient < 10 ^ 80
  | .infinite _ => True
  | .nan .. => False

theorem fitted_zero : Fitted (.finite false 0 0) := by
  rw [Fitted]
  positivity

theorem fitted_fit (negative : Bool) (coefficient : Nat) (exponent : Int) :
    Fitted (balances.fit negative coefficient exponent) := by
  cases fitted : balances.fit negative coefficient exponent with
  | finite _ _ _ => exact Decimal.Context.fit_few (by decide) fitted
  | infinite _ => trivial
  | nan _ _ _ =>
      simp only [Decimal.Context.fit] at fitted
      split_ifs at fitted

theorem fitted_addTo (fitted : Fitted total) (finite : balance.isFinite = true) :
    ∃ larger, addTo total balance = .ok larger ∧ Fitted larger := by
  cases balance with
  | finite _ _ _ =>
      cases total with
      | finite _ _ _ => exact ⟨_, rfl, fitted_fit ..⟩
      | infinite negative => exact ⟨.infinite negative, rfl, trivial⟩
      | nan _ _ _ => exact fitted.elim
  | infinite _ => exact nomatch finite
  | nan _ _ _ => exact nomatch finite

section

variable [Platform]

/-- Balances that count are added, whatever comes behind them. -/
theorem sumFrom_append (fitted : Fitted total) (counts : ∀ record ∈ records, Counts record) :
    ∃ larger, Fitted larger ∧ ∀ rest, sumFrom total (records ++ rest) = sumFrom larger rest := by
  induction records generalizing total with
  | nil => exact ⟨total, fitted, fun _ => rfl⟩
  | cons record records ih =>
      rcases List.forall_mem_cons.mp counts with ⟨first, others⟩
      rcases counts_iff.mp first with ⟨balance, parsed⟩
      rcases fitted_addTo fitted (isFinite_of_parseRecord parsed) with ⟨larger, added, fitted'⟩
      rcases ih fitted' others with ⟨final, fitted'', same⟩
      refine ⟨final, fitted'', fun rest => ?_⟩
      rw [List.cons_append, sumFrom, parsed]
      simp only [added, same]

/-- Balances that all count have a total. -/
theorem sum_of_counts (counts : ∀ record ∈ records, Counts record) :
    ∃ total, sum records = .ok total ∧ Fitted total := by
  rcases sumFrom_append fitted_zero counts with ⟨total, fitted, same⟩
  have ended := same []
  rw [List.append_nil] at ended
  exact ⟨total, ended, fitted⟩

/-- The first record that does not count stops the sum, whatever comes behind it. -/
theorem sum_of_faulty (counts : ∀ earlier ∈ before, Counts earlier) (faulty : Faulty record fault)
    (after : List Json) : sum (before ++ record :: after) = .error (.ofFault fault) := by
  rcases sumFrom_append fitted_zero counts with ⟨total, -, same⟩
  rw [sum, same, sumFrom, parseRecord_of_faulty faulty]

/-- Whether a sum ends with a fault: as what it is, if it can be put into words, and otherwise
because it cannot. -/
structure EndsWith (records : List Json) (fault : Fault) : Prop where
  raised : fault.IsSayable → sum records = .error (.record fault)
  unworded : ¬fault.IsSayable → ∃ cause, sum records = .error (.unworded cause)

theorem endsWith_of_faulty (counts : ∀ earlier ∈ before, Counts earlier)
    (faulty : Faulty record fault) (after : List Json) :
    EndsWith (before ++ record :: after) fault := by
  have ended := sum_of_faulty counts faulty after
  constructor
  · intro sayable
    rw [ended, ofFault_of_isSayable sayable]
  · intro unsayable
    rcases ofFault_of_not_isSayable unsayable with ⟨cause, unworded⟩
    exact ⟨cause, by rw [ended, unworded]⟩

/-- A list with records that do not count has a first one. -/
theorem exists_first_faulty (bad : ¬ ∀ record ∈ records, Counts record) :
    ∃ before record after fault, records = before ++ record :: after ∧
      (∀ earlier ∈ before, Counts earlier) ∧ Faulty record fault := by
  induction records with
  | nil => exact absurd (List.forall_mem_nil _) bad
  | cons record records ih =>
      by_cases counts : Counts record
      · have others : ¬ ∀ record ∈ records, Counts record :=
          fun fine => bad (List.forall_mem_cons.mpr ⟨counts, fine⟩)
        rcases ih others with ⟨before, first, after, fault, rfl, fine, faulty⟩
        exact ⟨record :: before, first, after, fault, rfl,
          List.forall_mem_cons.mpr ⟨counts, fine⟩, faulty⟩
      · rcases exists_faulty counts with ⟨fault, faulty⟩
        exact ⟨[], record, records, fault, rfl, List.forall_mem_nil _, faulty⟩

/-- Adding balances has a total, or ends with the fault of a record. -/
theorem sum_outcome (records : List Json) :
    (∃ record ∈ records, ∃ fault, Faulty record fault ∧ EndsWith records fault) ∨
      ∃ total, sum records = .ok total ∧ Fitted total := by
  by_cases counts : ∀ record ∈ records, Counts record
  · exact .inr (sum_of_counts counts)
  · rcases exists_first_faulty counts with ⟨before, record, after, fault, rfl, fine, faulty⟩
    exact .inl ⟨record, by simp, fault, faulty, endsWith_of_faulty fine faulty after⟩

/-! ## Short integers -/

/-- Nothing but its height keeps a fault of a record with short integers from being put into words.
-/
theorem Faulty.eq_tooDeep (faulty : Faulty record fault) (short : record.hasShortIntegers = true)
    {cause : Unworded} (wordless : fault.unworded? = some cause) : cause.flaw = .tooDeep := by
  cases faulty with
  | malformed => rw [Place.eq_tooDeep_of_unworded? short wordless]
  | refused held failed =>
      rcases held.hasShortIntegers short with ⟨named, counted⟩
      cases isAbout_of_finite failed <;>
      · rcases Option.or_eq_some_iff.mp wordless with shown | ⟨-, quoted⟩
        · rw [Place.eq_tooDeep_of_unshown? named shown]
        · rw [Place.eq_tooDeep_of_unworded? counted quoted]

/-- Records with short integers have a total, or one whose fault is raised or too deep to be put
into words. -/
theorem sum_of_short (short : ∀ record ∈ records, record.hasShortIntegers = true)
    {raised : ReportFault} (failed : sum records = .error raised) :
    (∃ fault, raised = .record fault) ∨
      ∃ cause : Unworded, raised = .unworded cause ∧ cause.flaw = .tooDeep := by
  have bad : ¬ ∀ record ∈ records, Counts record := by
    intro counts
    rcases sum_of_counts counts with ⟨total, summed, -⟩
    cases failed.symm.trans summed
  rcases exists_first_faulty bad with ⟨before, record, after, fault, rfl, fine, faulty⟩
  obtain rfl := Except.error.inj (failed.symm.trans (sum_of_faulty fine faulty after))
  cases wordless : fault.unworded? with
  | none => exact .inl ⟨fault, by rw [ReportFault.ofFault, wordless]⟩
  | some cause =>
      exact .inr ⟨cause, by rw [ReportFault.ofFault, wordless],
        faulty.eq_tooDeep (short record (by simp)) wordless⟩

/-- A bad balance names its account, and a missing one names none. -/
theorem fault_names_account (counts : ∀ earlier ∈ before, Counts earlier)
    (bad : ¬ Counts (.arr [account, .obj fields])) (after : List Json) :
    ∃ fault, EndsWith (before ++ .arr [account, .obj fields] :: after) fault ∧
      (∀ raw, (Json.obj fields).field? "storage_balance" = some raw → fault.account = account) ∧
      ((Json.obj fields).field? "storage_balance" = none →
        fault = .malformedRecord (.arr [account, .obj fields]) ∧ fault.account = .null) := by
  rcases exists_faulty bad with ⟨fault, faulty⟩
  refine ⟨fault, endsWith_of_faulty counts faulty after, ?_⟩
  cases faulty with
  | malformed holdsNone =>
      refine ⟨fun raw found => ?_, fun _ => ⟨rfl, rfl⟩⟩
      exact absurd (.record found) (holdsNone account raw)
  | refused held failed =>
      rcases held with ⟨found⟩
      refine ⟨fun _ _ => (isAbout_of_finite failed).account_eq, fun missing => ?_⟩
      cases found.symm.trans missing

end

attribute [local instance] Platform.accepting Platform.printsAll_accepting

/-- A record whose balance counts, though nothing may be added to it without rounding. -/
def greatRecord : Json :=
  .arr ["a.near", .obj [("storage_balance", "9e999999")]]

theorem counts_greatRecord : Counts greatRecord :=
  ⟨"a.near", "9e999999", _, .record rfl, rfl⟩

theorem fault_names_account_infinite :
    ∃ fault, sum [greatRecord, .arr ["b.near", .obj [("storage_balance", "Infinity")]], .null] =
      .error (.record fault) ∧ fault.account = "b.near" := by
  have bad : ¬ Counts (.arr ["b.near", .obj [("storage_balance", "Infinity")]]) := by
    intro counts
    rcases counts_iff.mp counts with ⟨balance, parsed⟩
    cases parsed
  rcases fault_names_account (List.forall_mem_singleton.mpr counts_greatRecord) bad [.null] with
    ⟨fault, ends, named, -⟩
  refine ⟨fault, ?_, named "Infinity" rfl⟩
  by_cases sayable : fault.IsSayable
  · exact ends.raised sayable
  · rcases ends.unworded sayable with ⟨cause, unworded⟩
    cases unworded

/-- The fault of a record whose balance is missing does not name its account. -/
theorem fault_unnamed :
    ∃ fault, sum [.arr ["dave.near", .obj []]] = .error (.record fault) ∧
      fault.account ≠ "dave.near" :=
  ⟨_, rfl, nofun⟩

end Balance

end SocialMigration
