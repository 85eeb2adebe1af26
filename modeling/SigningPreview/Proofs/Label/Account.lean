import Mathlib.Data.List.DropRight
import SigningPreview.Label.Account

/-! # What an abbreviated address keeps

The abbreviation of a long text is made from its front and its back (`toList_abbreviate`), and it
has both of them where they stood in the text (`front_abbreviate`, `back_abbreviate`). It is still a
long text, so abbreviating it cuts it again. That changes nothing, as the text and its abbreviation
are alike in all that is looked at (`alike_abbreviate`), and long texts that are alike are
abbreviated alike. No other texts are confused (`abbreviate_eq_iff`). -/
namespace SigningPreview.Label

/-- The first six characters of a text, or all of them if there are fewer. -/
def front (text : String) : List Char := text.toList.take 6

/-- The last four characters of a text, or all of them if there are fewer. -/
def back (text : String) : List Char := text.toList.rtake 4

variable {x y : String}

theorem length_front (h : 6 ≤ x.length) : (front x).length = 6 := by
  rw [front, List.length_take, String.length_toList, Nat.min_eq_left h]

theorem length_back (h : 4 ≤ x.length) : (back x).length = 4 := by
  rw [back, List.rtake, List.length_drop, String.length_toList, Nat.sub_sub_self h]

/-! ## Short texts and long ones -/

theorem abbreviate_of_short (h : ¬ 10 < x.length) : abbreviate x = x := by
  rw [← String.length_toList] at h
  rw [abbreviate, abbreviateChars, if_pos (Nat.le_of_not_lt h), String.ofList_toList]

theorem toList_abbreviate (h : 10 < x.length) :
    (abbreviate x).toList = front x ++ ['.', '.', '.'] ++ back x := by
  rw [← String.length_toList] at h
  rw [abbreviate, String.toList_ofList, abbreviateChars, if_neg (Nat.not_le_of_lt h)]
  rfl

theorem length_abbreviate (h : 10 < x.length) : (abbreviate x).length = 13 := by
  rw [← String.length_toList, toList_abbreviate h, List.length_append, List.length_append,
    length_front (by omega), length_back (by omega)]
  rfl

theorem length_abbreviate_le (x : String) : (abbreviate x).length ≤ 13 := by
  by_cases long : 10 < x.length
  · rw [length_abbreviate long]
  · rw [abbreviate_of_short long]
    omega

/-- An abbreviation is long just as the text is. -/
theorem long_abbreviate_iff : 10 < (abbreviate x).length ↔ 10 < x.length := by
  by_cases long : 10 < x.length
  · simp [length_abbreviate long, long]
  · rw [abbreviate_of_short long]

/-! ## Both ends -/

theorem front_abbreviate (x : String) : front (abbreviate x) = front x := by
  by_cases long : 10 < x.length
  · rw [front, toList_abbreviate long, List.append_assoc,
      List.take_left' (length_front (by omega))]
  · rw [abbreviate_of_short long]

theorem back_abbreviate (x : String) : back (abbreviate x) = back x := by
  by_cases long : 10 < x.length
  · have before : (abbreviate x).toList.length - 4 = (front x ++ ['.', '.', '.']).length := by
      rw [String.length_toList, length_abbreviate long, List.length_append,
        length_front (by omega)]
      rfl
    rw [back, List.rtake, before, toList_abbreviate long, List.drop_left]
  · rw [abbreviate_of_short long]

/-- Texts too long to be shown as they are, with the same front and the same back. -/
structure Alike (x y : String) : Prop where
  long_left : 10 < x.length
  long_right : 10 < y.length
  front_eq : front x = front y
  back_eq : back x = back y

theorem alike_abbreviate (h : 10 < x.length) : Alike (abbreviate x) x :=
  ⟨long_abbreviate_iff.2 h, h, front_abbreviate x, back_abbreviate x⟩

theorem Alike.abbreviate_eq (h : Alike x y) : abbreviate x = abbreviate y := by
  rw [← String.toList_inj, toList_abbreviate h.long_left, toList_abbreviate h.long_right,
    h.front_eq, h.back_eq]

/-! ## Abbreviations of abbreviations, and texts that share one -/

theorem abbreviate_abbreviate (x : String) : abbreviate (abbreviate x) = abbreviate x := by
  by_cases long : 10 < x.length
  · exact (alike_abbreviate long).abbreviate_eq
  · rw [abbreviate_of_short long, abbreviate_of_short long]

theorem abbreviate_eq_iff : abbreviate x = abbreviate y ↔ x = y ∨ Alike x y := by
  constructor
  · intro same
    -- Of two texts with one abbreviation both are long or neither is.
    have lengths : 10 < x.length ↔ 10 < y.length := by
      rw [← long_abbreviate_iff, same, long_abbreviate_iff]
    by_cases long : 10 < x.length
    · refine .inr ⟨long, lengths.1 long, ?_, ?_⟩
      · rw [← front_abbreviate x, same, front_abbreviate]
      · rw [← back_abbreviate x, same, back_abbreviate]
    · rw [abbreviate_of_short long, abbreviate_of_short (mt lengths.2 long)] at same
      exact .inl same
  · rintro (rfl | alike)
    · rfl
    · exact alike.abbreviate_eq

/-- What is shown of a text is brief and has both its ends where they were. -/
structure Keeps (text shown : String) : Prop where
  brief : shown.length ≤ 13
  front_eq : front shown = front text
  back_eq : back shown = back text

/-- An abbreviation is not abbreviated further, it shows both ends of its text, and of other texts
only the long ones with these ends share it. -/
theorem abbreviate_confuses (x y : String) :
    abbreviate (abbreviate x) = abbreviate x ∧ Keeps x (abbreviate x) ∧
      (abbreviate x = abbreviate y ↔ x = y ∨ Alike x y) :=
  ⟨abbreviate_abbreviate x, ⟨length_abbreviate_le x, front_abbreviate x, back_abbreviate x⟩,
    abbreviate_eq_iff⟩

/-- An abbreviation is confused with what it abbreviates. -/
example : abbreviate "0x1e0049783f008a0085193e00003d00cd54003c71" = "0x1e00...3c71" ∧
    abbreviate "0x1e00...3c71" = "0x1e00...3c71" := by decide +kernel

end SigningPreview.Label
