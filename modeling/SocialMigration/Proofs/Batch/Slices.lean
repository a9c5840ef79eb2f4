import SocialMigration.Batch
import SocialMigration.Proofs.Progression

/-!
# Batches as slices

The batches of a collection are its slices at the offsets from the start index on. If the batches
are cut somewhere, those in front hold exactly the records from the start index up to the one where
the cut falls, which is what makes the first index of a failed batch the place to go on from.
-/

namespace SocialMigration

namespace Batch

variable {size start : Nat} {records : List Json} {batch : Batch} {done rest : List Batch}

/-- The batch of a collection that starts at an offset. -/
def ofFirst (size : Nat) (records : List Json) (first : Nat) : Batch :=
  ⟨first, (records.drop first).take size⟩

theorem all_eq_map (positive : 0 < size) (records : List Json) (start : Nat) :
    all size records start =
      (Progression.below start size records.length).map (ofFirst size records) := by
  rw [← Progression.offsets_eq_below positive, List.map_map]
  rfl

theorem all_of_le (positive : 0 < size) (past : records.length ≤ start) :
    all size records start = [] := by
  rw [all_eq_map positive, Progression.below_of_le past, List.map_nil]

theorem all_of_lt (positive : 0 < size) (inside : start < records.length) :
    all size records start = ofFirst size records start :: all size records (start + size) := by
  rw [all_eq_map positive, all_eq_map positive, Progression.below_of_lt positive inside,
    List.map_cons]

/-- The batches hold every record from the start index on, in order and once. -/
theorem flatMap_records_all (positive : 0 < size) (records : List Json) (start : Nat) :
    (all size records start).flatMap Batch.records = records.drop start := by
  rw [all_eq_map positive, List.flatMap_map]
  exact Progression.flatMap_slices records positive start (Nat.le_refl _)

theorem first_lt_of_mem (positive : 0 < size) (member : batch ∈ all size records start) :
    start ≤ batch.first ∧ batch.first < records.length := by
  rw [all_eq_map positive, List.mem_map] at member
  rcases member with ⟨first, inside, rfl⟩
  rcases Progression.mem_below.mp inside with ⟨above, -, bound⟩
  exact ⟨above, bound⟩

private theorem start_lt_of_split (positive : 0 < size)
    (split : all size records start = done ++ batch :: rest) : start < records.length := by
  have bounds : start ≤ batch.first ∧ batch.first < records.length :=
    first_lt_of_mem positive (by rw [split]; simp)
  omega

/-- The batches in front of a batch hold the records from the start index up to its first one. -/
theorem flatMap_records_front (positive : 0 < size)
    (split : all size records start = done ++ batch :: rest) :
    done.flatMap Batch.records = (records.take batch.first).drop start := by
  induction done generalizing start with
  | nil =>
      have first := congrArg List.head? split
      rw [all_of_lt positive (start_lt_of_split positive split)] at first
      have same : ofFirst size records start = batch := by simpa using first
      subst batch
      simp [ofFirst, List.drop_eq_nil_of_le, List.length_take]
  | cons front done ih =>
      rw [all_of_lt positive (start_lt_of_split positive split)] at split
      injection split with same shifted
      subst front
      change all size records (start + size) = done ++ batch :: rest at shifted
      have member : batch ∈ all size records (start + size) := by
        rw [shifted]
        simp
      have later : start + size ≤ batch.first := (first_lt_of_mem positive member).1
      have head : (ofFirst size records start).records =
          ((records.take batch.first).drop start).take size := by
        rw [List.drop_take, List.take_take, Nat.min_eq_left (by omega)]
        rfl
      rw [List.flatMap_cons, ih shifted, head, ← List.drop_drop, List.take_append_drop]

/-- Up to a batch, counted from the start index on, the records in front are as many as its first
index says. -/
theorem length_front (positive : 0 < size)
    (split : all size records start = done ++ batch :: rest) :
    min start records.length + (done.flatMap Batch.records).length = batch.first := by
  have bounds : start ≤ batch.first ∧ batch.first < records.length :=
    first_lt_of_mem positive (by rw [split]; simp)
  rw [flatMap_records_front positive split, List.length_drop, List.length_take]
  omega

theorem length_all (positive : 0 < size) (records : List Json) (start : Nat) :
    min start records.length + ((all size records start).flatMap Batch.records).length =
      records.length := by
  rw [flatMap_records_all positive, List.length_drop]
  omega

/-- The index after the last of some batches, or another one if there are none. -/
def lastOr (committed : Nat) (batches : List Batch) : Nat :=
  (batches.getLast?.map Batch.last).getD committed

@[simp] theorem lastOr_nil (committed : Nat) : lastOr committed [] = committed := rfl

@[simp] theorem lastOr_cons (committed : Nat) (batch : Batch) (batches : List Batch) :
    lastOr committed (batch :: batches) = lastOr batch.last batches := by
  cases batches with
  | nil => rfl
  | cons next batches => simp [lastOr, List.getLast?_cons]

/-- All batches end where the collection ends, also if there are none because the start index lies
past that. -/
theorem lastOr_all (positive : 0 < size) (records : List Json) (start : Nat) :
    lastOr (min start records.length) (all size records start) = records.length := by
  by_cases inside : start < records.length
  · rw [all_of_lt positive inside, lastOr_cons]
    by_cases more : start + size < records.length
    · have ih := lastOr_all positive records (start + size)
      rw [all_of_lt positive more, lastOr_cons] at ih ⊢
      exact ih
    · rw [all_of_le positive (by omega)]
      simp only [lastOr_nil, last, ofFirst, List.length_take, List.length_drop]
      omega
  · rw [all_of_le positive (by omega), lastOr_nil]
    omega
termination_by records.length - start
decreasing_by omega

end Batch

end SocialMigration
