/-
  StyleCheck.Proofs.Rule.LengthLevels — how long a function must be to be told about.

  The limit is doubled with every level of verbosity, and the confidence is the binary logarithm of how often the base
  fits into the lines, cut off after the point and at 5 (`level_eq_floor`). The two scales nearly agree: the confidence
  reaches a level from the limit of that level on (`le_level_iff`), but a function is told about only beyond the limit
  (`told_iff`). So what is told at one level is what is told at a lower one with so much confidence, a function of just as
  many lines as the limit allows apart (`told_iff_confident_beyond_limit`). That one is told about at the lower level with
  the confidence of the higher one, and not at the higher level (`limit_itself_is_not_told`).
-/

import Mathlib.Algebra.Order.Floor.Semifield
import Mathlib.Analysis.SpecialFunctions.Log.Base
import StyleCheck.Rule.FunctionLength

namespace StyleCheck.FunctionLength

theorem base_pos (name : Text) : 0 < base name := by
  unfold base
  split <;> decide

/-! ## Confidence -/

theorem le_level_iff {lines base : Nat} (hbase : 0 < base) (hle : base ≤ lines) (k : Nat) :
    (k : Int) ≤ level lines base ↔ base * 2 ^ k ≤ lines := by
  have hfits : lines / base ≠ 0 := Nat.ne_of_gt (Nat.div_pos hle hbase)
  rw [level, if_pos hle, Int.ofNat_le, Nat.le_log2 hfits, Nat.le_div_iff_mul_le hbase, Nat.mul_comm]

/-- The level is the logarithm of the number of times the base fits into the lines, without its fraction. -/
theorem level_eq_floor {lines base : Nat} (hbase : 0 < base) (hle : base ≤ lines) :
    level lines base = ⌊Real.logb 2 ((lines : ℝ) / base)⌋ := by
  have hone : (1 : ℝ) ≤ (lines : ℝ) / base := by
    rw [one_le_div (Nat.cast_pos.mpr hbase)]
    exact Nat.cast_le.mpr hle
  have hfloor := Real.floor_logb_natCast (b := 2) (zero_le_one.trans hone)
  rw [Int.log_of_one_le_right 2 hone, Nat.floor_div_eq_div, ← Nat.log2_eq_log_two, Nat.cast_ofNat] at hfloor
  rw [hfloor, level, if_pos hle]

/-! ## What is told -/

theorem mem_check {f : FunctionLength} {v : Nat} {line : Int} {x : Finding} (h : x ∈ f.check v line) :
    (f.inside = true ∧ base f.name * 2 ^ v < f.lines) ∧ x.confidence = min (level f.lines (base f.name)) 5 := by
  simp only [check] at h
  split at h
  · rename_i htold
    obtain ⟨hinside, hexceeds⟩ := Bool.and_eq_true_iff.mp htold
    rw [List.mem_singleton.mp h]
    exact ⟨⟨hinside, Nat.shiftLeft_eq _ _ ▸ (exceeds_ofNat ..).mp hexceeds⟩, rfl⟩
  · cases h

/-- A function is told about from one line beyond the limit on. -/
theorem told_iff (f : FunctionLength) (v : Nat) (line : Int) :
    f.check v line ≠ [] ↔ f.inside = true ∧ base f.name * 2 ^ v < f.lines := by
  constructor
  · intro h
    obtain ⟨x, hx⟩ := List.exists_mem_of_ne_nil _ h
    exact (mem_check hx).1
  · rintro ⟨hinside, hlimit⟩
    have hexceeds : exceeds f.lines (base f.name) v = true :=
      (exceeds_ofNat ..).mpr (Nat.shiftLeft_eq _ _ ▸ hlimit)
    simp [check, hinside, hexceeds]

/-- At a level a function is told about with some confidence. -/
theorem confident_iff (f : FunctionLength) (v : Nat) (line : Int) {w : Nat} (hw : w ≤ 5) :
    (∃ x ∈ f.check v line, (w : Int) ≤ x.confidence) ↔
      f.check v line ≠ [] ∧ base f.name * 2 ^ w ≤ f.lines := by
  have hreached : f.check v line ≠ [] →
      ((w : Int) ≤ min (level f.lines (base f.name)) 5 ↔ base f.name * 2 ^ w ≤ f.lines) := by
    intro htold
    have hlimit := ((told_iff f v line).mp htold).2
    have hbase : base f.name ≤ f.lines :=
      Nat.le_trans (Nat.le_mul_of_pos_right _ (Nat.two_pow_pos v)) (Nat.le_of_lt hlimit)
    rw [← le_level_iff (base_pos f.name) hbase]
    omega
  constructor
  · rintro ⟨x, hx, hconfidence⟩
    have htold := List.ne_nil_of_mem hx
    rw [(mem_check hx).2, hreached htold] at hconfidence
    exact ⟨htold, hconfidence⟩
  · rintro ⟨htold, hreach⟩
    obtain ⟨x, hx⟩ := List.exists_mem_of_ne_nil _ htold
    exact ⟨x, hx, (mem_check hx).2 ▸ (hreached htold).mpr hreach⟩

/-- What is told at a level is what is told at a lower one with the confidence of that level, but for a function that has
just as many lines as the limit; and the confidence is the logarithm, cut off at 5. -/
theorem told_iff_confident_beyond_limit (f : FunctionLength) (line : Int) (v w : Nat) (hvw : v ≤ w) (hw : w ≤ 5) :
    (f.check w line ≠ [] ↔
      (∃ x ∈ f.check v line, (w : Int) ≤ x.confidence) ∧ f.lines ≠ base f.name * 2 ^ w) ∧
    ∀ x ∈ f.check v line, x.confidence = min ⌊Real.logb 2 ((f.lines : ℝ) / base f.name)⌋ 5 := by
  have hlimits : base f.name * 2 ^ v ≤ base f.name * 2 ^ w :=
    Nat.mul_le_mul_left _ (Nat.pow_le_pow_right (by decide) hvw)
  constructor
  · rw [confident_iff f v line hw, told_iff, told_iff]
    constructor
    · rintro ⟨hinside, hlimit⟩
      exact ⟨⟨⟨hinside, by omega⟩, by omega⟩, by omega⟩
    · rintro ⟨⟨⟨hinside, -⟩, hreach⟩, hlimit⟩
      exact ⟨hinside, by omega⟩
  · intro x hx
    obtain ⟨⟨-, hlimit⟩, hconfidence⟩ := mem_check hx
    have hbase : base f.name ≤ f.lines :=
      Nat.le_trans (Nat.le_mul_of_pos_right _ (Nat.two_pow_pos v)) (Nat.le_of_lt hlimit)
    rw [hconfidence, level_eq_floor (base_pos f.name) hbase]

def longTest : FunctionLength := ⟨true, 1601, "TEST(A, B)".toList⟩

theorem told_iff_confident_beyond_limit_longTest :
    (0 ≤ 2 ∧ 2 ≤ 5) ∧ longTest.check 2 7 ≠ [] ∧
    (∃ x ∈ longTest.check 0 7, 2 ≤ x.confidence) ∧ longTest.lines ≠ base longTest.name * 2 ^ 2 := by
  have htold : longTest.check 2 7 ≠ [] := (told_iff longTest 2 7).mpr (by decide)
  exact ⟨by decide, htold, (told_iff_confident_beyond_limit longTest 7 0 2 (by decide) (by decide)).1.mp htold⟩

/-- A function of 500 lines is told about at level 0 with confidence 1, and not at level 1. -/
theorem limit_itself_is_not_told :
    ¬ ∀ (f : FunctionLength) (line : Int) (v w : Nat), v ≤ w → w ≤ 5 →
      (f.check w line ≠ [] ↔ ∃ x ∈ f.check v line, (w : Int) ≤ x.confidence) := by
  intro h
  have hiff := h ⟨true, 500, "f()".toList⟩ 7 0 1 (by decide) (by decide)
  rw [confident_iff _ 0 7 (by decide), told_iff, told_iff] at hiff
  exact absurd (hiff.mpr (by decide)).2 (by decide)

end StyleCheck.FunctionLength
