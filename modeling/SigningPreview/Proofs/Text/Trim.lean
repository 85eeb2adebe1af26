import Mathlib.Data.List.DropRight
import SigningPreview.Text.Blank

/-! # What trimming leaves

Trimming takes off blanks and nothing else (`exists_trimEnd`, `exists_trim`), and all that stand at
the ends: blanks around a text without blanks are gone (`trim_around`), and behind a text that is
not blank nothing is touched but its end (`trimEnd_append`). -/
namespace SigningPreview.Text

/-- Nothing but blanks. -/
def Blank (cs : List Char) : Prop := ∀ c ∈ cs, isBlank c = true

variable {cs front back : List Char}

theorem Blank.append (hfront : Blank front) (hback : Blank back) : Blank (front ++ back) :=
  List.forall_mem_append.2 ⟨hfront, hback⟩

/-! ## Blanks at the end -/

theorem trimEnd_eq (cs : List Char) : trimEnd cs = cs.rdropWhile isBlank := rfl

/-- Only blanks are taken off. -/
theorem exists_trimEnd (cs : List Char) : ∃ back, cs = trimEnd cs ++ back ∧ Blank back := by
  refine ⟨cs.rtakeWhile isBlank, ?_, fun c hc => List.mem_rtakeWhile_imp hc⟩
  rw [trimEnd_eq, List.rdropWhile_append_rtakeWhile]

theorem trimEnd_eq_nil_iff : trimEnd cs = [] ↔ Blank cs := by
  rw [trimEnd_eq, List.rdropWhile_eq_nil_iff]
  rfl

/-- No blank is left at the end. -/
theorem isBlank_getLast?_trimEnd (cs : List Char) :
    ∀ c ∈ (trimEnd cs).getLast?, isBlank c = false := by
  intro c hc
  have hne : trimEnd cs ≠ [] := by
    intro hnil
    rw [hnil] at hc
    cases hc
  rw [List.getLast?_eq_some_getLast hne] at hc
  cases hc
  exact Bool.eq_false_iff.2 (List.rdropWhile_last_not isBlank cs hne)

theorem trimEnd_eq_self (h : ∀ c ∈ cs.getLast?, isBlank c = false) : trimEnd cs = cs := by
  rw [trimEnd_eq, List.rdropWhile_eq_self_iff]
  intro hne hlast
  have solid := h _ (List.getLast?_eq_some_getLast hne)
  rw [hlast] at solid
  cases solid

/-- What stands behind a text decides what is trimmed of it. -/
theorem trimEnd_append (front cs : List Char) :
    trimEnd (front ++ cs) = if trimEnd cs = [] then trimEnd front else front ++ trimEnd cs := by
  unfold trimEnd
  rw [List.reverse_append, List.dropWhile_append]
  cases hrest : cs.reverse.dropWhile isBlank with
  | nil => simp
  | cons c rest => simp

/-- What is left of a text when the blanks at its end are taken off. -/
def TrimsTo (cs shown : List Char) : Prop :=
  ∃ back, cs = shown ++ back ∧ Blank back ∧ ∀ c ∈ shown.getLast?, isBlank c = false

theorem trimsTo_trimEnd (cs : List Char) : TrimsTo cs (trimEnd cs) := by
  obtain ⟨back, hcs, hback⟩ := exists_trimEnd cs
  exact ⟨back, hcs, hback, isBlank_getLast?_trimEnd cs⟩

theorem trimEnd_append_blank (hback : Blank back) : trimEnd (cs ++ back) = trimEnd cs := by
  rw [trimEnd_append, if_pos (trimEnd_eq_nil_iff.2 hback)]

/-! ## Blanks at both ends -/

theorem exists_trim (cs : List Char) :
    ∃ front back, cs = front ++ trim cs ++ back ∧ Blank front ∧ Blank back := by
  obtain ⟨back, hback, blank⟩ := exists_trimEnd (cs.dropWhile isBlank)
  refine ⟨cs.takeWhile isBlank, back, ?_, fun c hc => List.mem_takeWhile_imp hc, blank⟩
  rw [trim, List.append_assoc, ← hback, List.takeWhile_append_dropWhile]

theorem trim_eq_nil_iff : trim cs = [] ↔ Blank cs := by
  constructor
  · intro h
    obtain ⟨front, back, hcs, hfront, hback⟩ := exists_trim cs
    rw [h, List.append_nil] at hcs
    rw [hcs]
    exact hfront.append hback
  · intro h
    rw [trim, List.dropWhile_eq_nil_iff.2 h]
    rfl

/-- Blanks around a text that has none are trimmed. -/
theorem trim_around (hfront : Blank front) (hback : Blank back)
    (solid : ∀ c ∈ cs, isBlank c = false) : trim (front ++ cs ++ back) = cs := by
  cases cs with
  | nil =>
    rw [List.append_nil]
    exact trim_eq_nil_iff.2 (hfront.append hback)
  | cons c cs =>
    have hc : ¬ isBlank c = true := by simp [solid c (by simp)]
    rw [trim, List.append_assoc, List.dropWhile_append_of_pos hfront, List.cons_append,
      List.dropWhile_cons_of_neg hc, ← List.cons_append, trimEnd_append_blank hback]
    exact trimEnd_eq_self fun d hd => solid d (List.mem_of_getLast? hd)

end SigningPreview.Text
