import SocialMigration.Batch
import SocialMigration.Config

/-!
# Usable configurations

What a configuration is promised to be once nothing is wrong with it, and the limits of pages and
batches that it fixes.
-/

namespace SocialMigration

namespace Config

@[simp] theorem complaint_eq_nil_iff {reason : Bool} {words : String} :
    complaint reason words = [] ↔ reason = false := by
  cases reason <;> simp [complaint]

/-- What the parameters of a usable configuration are like. -/
structure Usable (config : Config) : Prop where
  source : config.source ≠ []
  destination : config.destination ≠ []
  apart : config.source ≠ config.destination
  signer : config.signer ≠ []
  pageSize : 0 < config.pageSize
  chunkSize : 0 < config.chunkSize
  concurrency : 0 < config.concurrency
  gas : 0 < config.gas
  nodesStart : 0 ≤ config.nodesStart
  accountsStart : 0 ≤ config.accountsStart

/-- Nothing is wrong with a configuration exactly if its parameters are as they have to be. -/
theorem isUsable_iff {config : Config} : config.isUsable ↔ config.Usable := by
  simp only [isUsable, complaints, List.isEmpty_iff, List.append_eq_nil_iff, complaint_eq_nil_iff,
    List.isEmpty_eq_false_iff, Bool.and_eq_false_iff, Bool.not_eq_eq_eq_not, Bool.not_false,
    beq_eq_false_iff_ne, decide_eq_false_iff_not, Int.not_le, Int.not_lt]
  constructor
  · intro facts
    rcases facts with ⟨⟨⟨⟨⟨⟨⟨⟨⟨source, destination⟩, apart⟩, signer⟩, pageSize⟩, chunkSize⟩,
      concurrency⟩, gas⟩, nodesStart⟩, accountsStart⟩
    exact {
      source, destination, signer, pageSize, chunkSize, concurrency, gas, nodesStart
      accountsStart
      apart := apart.resolve_left source }
  · intro usable
    exact ⟨⟨⟨⟨⟨⟨⟨⟨⟨usable.source, usable.destination⟩, .inr usable.apart⟩, usable.signer⟩,
      usable.pageSize⟩, usable.chunkSize⟩, usable.concurrency⟩, usable.gas⟩, usable.nodesStart⟩,
      usable.accountsStart⟩

theorem pageSize_pos {config : Config} (usable : config.isUsable) : 0 < config.pageSize.toNat := by
  have positive := (isUsable_iff.mp usable).pageSize
  omega

end Config

/-- A usable configuration fixes the limits of pages. -/
theorem PageLimits.ofSettings_ok {config : Config} (usable : config.isUsable) :
    ∃ limits, PageLimits.ofSettings config.pageSize config.concurrency = .ok limits ∧
      limits.size = config.pageSize.toNat := by
  have facts := Config.isUsable_iff.mp usable
  rw [ofSettings, dif_pos facts.pageSize, dif_pos facts.concurrency]
  exact ⟨_, rfl, rfl⟩

/-- A usable configuration fixes the limits of batches. -/
theorem BatchLimits.ofSettings_ok {config : Config} (usable : config.isUsable) :
    ∃ limits, BatchLimits.ofSettings config.chunkSize config.gas config.debug = .ok limits ∧
      limits.size = config.chunkSize.toNat ∧ limits.gas = config.gas := by
  rw [ofSettings, dif_pos (Config.isUsable_iff.mp usable).chunkSize]
  exact ⟨_, rfl, rfl, rfl⟩

end SocialMigration
