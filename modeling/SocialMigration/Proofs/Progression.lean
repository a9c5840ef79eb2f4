import Mathlib.Algebra.Order.Floor.Div
import Mathlib.Data.List.Sort
import SocialMigration.Progression

/-!
# Offsets below a total

The offsets of pages and batches, said without counting steps: of the natural numbers below a
total, those that a number of whole steps leads to from a start. A collection cut at these offsets
is the collection from the start on, each record in exactly one slice.
-/

namespace SocialMigration

namespace Progression

/-- The offsets `start`, `start + step`, `start + 2 * step` and so on below a total. -/
def below (start step total : Nat) : List Nat :=
  (List.range total).filter fun offset => start ≤ offset && (offset - start) % step == 0

theorem lt_count_iff {start limit step : Int} (positive : 0 < step) (index : Nat) :
    index < count start limit step ↔ start + index * step < limit := by
  rw [count, if_pos positive, stepsUp, Int.lt_toNat, ← Int.add_one_le_iff,
    Int.le_ediv_iff_mul_le positive, Int.add_mul]
  omega

variable {start step total offset : Nat}

theorem count_eq_ceilDiv (positive : 0 < step) :
    count start total step = (total - start) ⌈/⌉ step := by
  apply eq_of_forall_lt_iff
  intro index
  have scaled : ((step * index : Nat) : Int) = index * step := by
    rw [Nat.mul_comm, Int.natCast_mul]
  have below : index < (total - start) ⌈/⌉ step ↔ ¬ total - start ≤ step * index := by
    rw [← ceilDiv_le_iff_le_mul positive, not_le]
  rw [lt_count_iff (by omega), below, ← scaled]
  omega

theorem mem_below :
    offset ∈ below start step total ↔ start ≤ offset ∧ step ∣ offset - start ∧ offset < total := by
  simp only [below, List.mem_filter, List.mem_range, Bool.and_eq_true, decide_eq_true_eq,
    beq_iff_eq, Nat.dvd_iff_mod_eq_zero]
  omega

theorem below_pairwise (start step total : Nat) : (below start step total).Pairwise (· < ·) :=
  List.pairwise_lt_range.filter _

theorem below_nodup (start step total : Nat) : (below start step total).Nodup :=
  (below_pairwise start step total).imp Nat.ne_of_lt

theorem offsets_pairwise (positive : 0 < step) :
    ((offsets start total step).map Int.toNat).Pairwise (· < ·) := by
  rw [offsets, List.map_map, List.pairwise_map]
  refine List.pairwise_lt_range.imp fun {left right} less => ?_
  have scaled : (left : Int) * step < right * step :=
    Int.mul_lt_mul_of_pos_right (by omega) (by omega)
  have leftNonneg : 0 ≤ (left : Int) * step := Int.mul_nonneg (by omega) (by omega)
  simp only [Function.comp_apply]
  omega

theorem mem_offsets (positive : 0 < step) :
    offset ∈ (offsets start total step).map Int.toNat ↔ offset ∈ below start step total := by
  simp only [offsets, List.map_map, List.mem_map, List.mem_range, Function.comp_apply, mem_below,
    lt_count_iff (show (0 : Int) < step by omega)]
  constructor
  · intro facts
    rcases facts with ⟨index, bound, rfl⟩
    have cast : ((start : Int) + index * step).toNat = start + index * step := by
      rw [← Int.natCast_mul, ← Int.natCast_add, Int.toNat_natCast]
    rw [← Int.natCast_mul] at bound
    rw [cast]
    exact ⟨Nat.le_add_right .., ⟨index, by rw [Nat.mul_comm]; omega⟩, by omega⟩
  · intro facts
    rcases facts with ⟨above, ⟨index, equal⟩, bound⟩
    have place : offset = start + index * step := by rw [Nat.mul_comm]; omega
    refine ⟨index, ?_, ?_⟩
    · rw [← Int.natCast_mul, ← Int.natCast_add]
      omega
    · rw [← Int.natCast_mul, ← Int.natCast_add, Int.toNat_natCast, place]

/-- Counting steps up to a total lists exactly the offsets below it. -/
theorem offsets_eq_below (positive : 0 < step) :
    (offsets start total step).map Int.toNat = below start step total :=
  List.Pairwise.eq_of_mem_iff (offsets_pairwise positive) (below_pairwise start step total)
    fun _ => mem_offsets positive

theorem below_of_le (past : total ≤ start) : below start step total = [] := by
  simp only [List.eq_nil_iff_forall_not_mem, mem_below]
  omega

theorem below_of_lt (positive : 0 < step) (inside : start < total) :
    below start step total = start :: below (start + step) step total := by
  refine List.Pairwise.eq_of_mem_iff (r := (· < ·)) (below_pairwise start step total)
    (List.pairwise_cons.mpr ⟨?_, below_pairwise ..⟩) fun offset => ?_
  · intro offset member
    have := (mem_below.mp member).1
    omega
  · simp only [List.mem_cons, mem_below]
    constructor
    · intro facts
      rcases facts with ⟨above, ⟨index, equal⟩, bound⟩
      cases index with
      | zero => exact .inl (by omega)
      | succ index =>
          rw [Nat.mul_succ] at equal
          exact .inr ⟨by omega, ⟨index, by omega⟩, bound⟩
    · intro facts
      rcases facts with rfl | ⟨above, ⟨index, equal⟩, bound⟩
      · exact ⟨Nat.le_refl _, ⟨0, by omega⟩, inside⟩
      · exact ⟨by omega, ⟨index + 1, by rw [Nat.mul_succ]; omega⟩, bound⟩

/-- The slices of a list at the offsets from a start on are the list from the start on. -/
theorem flatMap_slices {α : Type} (items : List α) (positive : 0 < step)
    (start : Nat) (within : items.length ≤ total) :
    (below start step total).flatMap (fun offset => (items.drop offset).take step) =
      items.drop start := by
  by_cases inside : start < total
  · have rest := flatMap_slices items positive (start + step) within
    rw [below_of_lt positive inside, List.flatMap_cons, rest, ← List.drop_drop,
      List.take_append_drop]
  · rw [below_of_le (by omega), List.flatMap_nil, List.drop_eq_nil_of_le (by omega)]
termination_by total - start
decreasing_by omega

end Progression

end SocialMigration
