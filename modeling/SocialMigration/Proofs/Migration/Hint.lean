import SocialMigration.Migration.Results
import SocialMigration.Proofs.Settings.Literal
import SocialMigration.Settings.Load

/-!
# Hints as settings

The hint for resuming is made of settings as an environment holds them. An operator who sets what
the hint says, and leaves the rest as it was, hands exactly the written numbers to the next run.
-/

namespace SocialMigration

namespace Migration

open Settings (Environment integerOr)

/-- The settings that a hint writes: its words, each cut at an equals sign. -/
def hintSettings (hint : Text) : Environment :=
  (hint.splitOn 0x20).filterMap (Text.breakAt (· == 0x3D))

/-- A name that may stand before the equals sign of a setting in a hint. -/
def IsPlainName (name : Text) : Prop :=
  0x20 ∉ name ∧ 0x3D ∉ name

theorem plain_nodesStart : IsPlainName "NODES_START_INDEX" :=
  ⟨by decide, by decide⟩

theorem plain_accountsStart : IsPlainName "ACCOUNTS_START_INDEX" :=
  ⟨by decide, by decide⟩

/-- A hint sets one of the start indices or both, in decimal. -/
theorem hint_cases {failure : Failure} {session : Session} {hint : Text}
    (hinted : (resume failure session).2 = some hint) :
    (∃ first, hint = setting "NODES_START_INDEX" first) ∨
      (∃ first, hint = setting "ACCOUNTS_START_INDEX" first) ∨
      ∃ committed first, hint = setting "NODES_START_INDEX" committed ++ " " ++
        setting "ACCOUNTS_START_INDEX" first := by
  cases failure with
  | batch contract method first last total cause =>
      rw [resume] at hinted
      split at hinted
      · exact .inl ⟨first, (Option.some.inj hinted).symm⟩
      · split at hinted
        · cases committed : session.nodesCommitted with
          | none =>
              rw [committed] at hinted
              exact .inr (.inl ⟨first, (Option.some.inj hinted).symm⟩)
          | some nodes =>
              rw [committed] at hinted
              exact .inr (.inr ⟨nodes, first, (Option.some.inj hinted).symm⟩)
        · exact nomatch hinted
  | _ => exact nomatch hinted

variable {name other : Text}

theorem breakAt_append {test : CodePoint → Bool} {front rest : Text} {c : CodePoint}
    (before : ∀ c ∈ front, test c = false) (found : test c = true) :
    Text.breakAt test (front ++ c :: rest) = some (front, rest) := by
  have passed : ∀ c ∈ front, (!test c) = true := fun c member => by simp [before c member]
  rw [Text.breakAt, List.dropWhile_append_of_pos passed, List.takeWhile_append_of_pos passed,
    List.dropWhile_cons_of_neg (by simp [found]), List.takeWhile_cons_of_neg (by simp [found]),
    List.append_nil]

theorem setting_eq (name : Text) (value : Nat) :
    setting name value = name ++ 0x3D :: Text.ofNat value := by
  rw [setting, List.append_assoc]
  rfl

theorem breakAt_setting (plain : IsPlainName name) (value : Nat) :
    Text.breakAt (· == 0x3D) (setting name value) = some (name, Text.ofNat value) := by
  rw [setting_eq]
  exact breakAt_append (fun c member =>
    beq_eq_false_iff_ne.mpr fun sign => plain.2 (sign ▸ member)) rfl

theorem space_not_mem_setting (plain : IsPlainName name) (value : Nat) :
    0x20 ∉ setting name value := by
  have inNone : ∀ c ∈ Text.ofNat value, c ≠ 0x20 := Text.forall_mem_ofNat value
    fun digit small => (Text.digitCharacter_facts digit small).2.2.2.2
  rw [setting_eq, List.mem_append, List.mem_cons]
  intro space
  rcases space with inName | inSign | inValue
  · exact plain.1 inName
  · exact absurd inSign (by decide)
  · exact inNone _ inValue rfl

theorem hintSettings_setting (plain : IsPlainName name) (value : Nat) :
    hintSettings (setting name value) = [(name, Text.ofNat value)] := by
  rw [hintSettings, List.splitOn_eq_singleton (space_not_mem_setting plain value)]
  simp [breakAt_setting plain]

theorem hintSettings_settings (plain : IsPlainName name) (plain' : IsPlainName other)
    (value value' : Nat) :
    hintSettings (setting name value ++ " " ++ setting other value') =
      [(name, Text.ofNat value), (other, Text.ofNat value')] := by
  have spaced : setting name value ++ Text.ofString " " ++ setting other value' =
      setting name value ++ 0x20 :: setting other value' := by
    rw [List.append_assoc]
    rfl
  rw [hintSettings, spaced, List.splitOn_append_cons_self,
    List.splitOn_eq_singleton (space_not_mem_setting plain value),
    List.splitOn_eq_singleton (space_not_mem_setting plain' value')]
  simp [breakAt_setting plain, breakAt_setting plain']

/-! ## What the next run reads -/

variable {environment : Environment} {key : String} {standard value : Int}

/-- What is read where the decimal text of a natural number stands is that number. -/
theorem eq_of_integerOr {n : Nat}
    (holds : Settings.valueOr environment (Text.ofString key) (Text.ofInt standard) = Text.ofNat n)
    (read : integerOr environment key standard = .ok value) : value = n := by
  rw [integerOr, holds] at read
  cases integer : Settings.integer? (Text.ofNat n).trim with
  | none =>
      rw [integer] at read
      exact nomatch read
  | some value' =>
      rw [integer] at read
      cases read
      exact Settings.eq_of_integer?_ofNat integer

theorem integerOr_set {n : Nat}
    (found : environment.lookup (Text.ofString key) = some (Text.ofNat n))
    (read : integerOr environment key standard = .ok value) : value = n :=
  eq_of_integerOr (by rw [Settings.valueOr, found, Option.getD_some]) read

theorem integerOr_unset (absent : environment.lookup (Text.ofString key) = none)
    (nonneg : 0 ≤ standard) (read : integerOr environment key standard = .ok value) :
    value = standard := by
  rcases Int.eq_ofNat_of_zero_le nonneg with ⟨n, rfl⟩
  exact eq_of_integerOr (by rw [Settings.valueOr, absent, Option.getD_none]; rfl) read

end Migration

end SocialMigration
