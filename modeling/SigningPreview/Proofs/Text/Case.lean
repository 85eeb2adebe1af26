import Mathlib.Tactic.SplitIfs

/-! # Letters without their case

Putting a capital in lower case moves its code by thirty-two, and every other character stays as it
is (`toNat_toLower`). So what a character may have been can be read off from what it becomes. -/
namespace SigningPreview.Text

theorem toNat_toLower (c : Char) :
    c.toLower.toNat = if 65 ≤ c.toNat ∧ c.toNat ≤ 90 then c.toNat + 32 else c.toNat := by
  have capital : (c.val ≥ 'A'.val ∧ c.val ≤ 'Z'.val) ↔ 65 ≤ c.toNat ∧ c.toNat ≤ 90 :=
    and_congr UInt32.le_iff_toNat_le UInt32.le_iff_toNat_le
  unfold Char.toLower
  split_ifs with upper code code
  · change (c.val + 32).toNat = c.val.toNat + 32
    have small : c.val.toNat ≤ 90 := code.2
    have step : (32 : UInt32).toNat = 32 := rfl
    rw [UInt32.toNat_add, step, Nat.mod_eq_of_lt (by omega)]
  · exact absurd (capital.1 upper) code
  · exact absurd (capital.2 code) upper
  · rfl

variable {c d : Char}

/-- What is no small letter comes from itself alone. -/
theorem eq_of_toLower (h : c.toLower = d) (hd : d.toNat < 97 ∨ 122 < d.toNat) : c = d := by
  have code := toNat_toLower c
  rw [h] at code
  refine Char.toNat_inj.1 ?_
  split_ifs at code <;> omega

/-- A small letter comes from itself or from its capital. -/
theorem toNat_of_toLower (h : c.toLower = d) : c.toNat = d.toNat ∨ c.toNat + 32 = d.toNat := by
  have code := toNat_toLower c
  rw [h] at code
  split_ifs at code <;> omega

end SigningPreview.Text
