import Mathlib.Algebra.Ring.Nat
import SigningPreview.Report.Text

/-! # Every item of a report has its line

`Text.Prints n texts s` says of a text that it holds the given texts one after the other, and `n`
line feeds besides those that the given texts bring along. It passes from the parts of a text to the
whole, so each line is looked at once, with the values it shows (`View.texts`). From the lines of
views and warnings follow those of a section and of a report: none is missing, and none is merged
with the next (`Report.text_prints`). -/
namespace SigningPreview

/-! ## Texts within a text -/

namespace Text

/-- How many line feeds a text has. -/
def feeds (s : String) : Nat := s.toList.count '\n'

/-- The texts stand in this order in a text, each behind the end of the one before. -/
inductive InOrder : List String → List Char → Prop
  | nil (cs : List Char) : InOrder [] cs
  | cons (before : List Char) (t : String) {ts : List String} {after : List Char} :
      InOrder ts after → InOrder (t :: ts) (before ++ t.toList ++ after)

theorem InOrder.append {ts us : List String} {cs ds : List Char} (h : InOrder ts cs)
    (h' : InOrder us ds) : InOrder (ts ++ us) (cs ++ ds) := by
  induction h with
  | nil cs =>
    cases h' with
    | nil ds => exact .nil _
    | cons before t h' =>
      rw [← List.append_assoc, ← List.append_assoc]
      exact .cons (cs ++ before) t h'
  | cons before t _ ih =>
    rw [List.append_assoc]
    exact .cons before t ih

/-- The text holds the given texts in their order, and besides theirs `n` line feeds. -/
structure Prints (n : Nat) (texts : List String) (s : String) : Prop where
  count : feeds s = n + (texts.map feeds).sum
  order : InOrder texts s.toList

namespace Prints

variable {m n : Nat} {ts us : List String} {s t : String}

/-- Words of the report itself. -/
theorem fixed (h : '\n' ∉ s.toList) : Prints 0 [] s :=
  ⟨List.count_eq_zero_of_not_mem h, .nil _⟩

theorem blank : Prints 0 [] "" := ⟨rfl, .nil _⟩

/-- A value that is shown as it is. -/
theorem value (s : String) : Prints 0 [s] s where
  count := by simp
  order := by simpa using InOrder.cons [] s (.nil [])

theorem append (h : Prints m ts s) (h' : Prints n us t) : Prints (m + n) (ts ++ us) (s ++ t) where
  count := by
    have hs := h.count
    have ht := h'.count
    unfold feeds at hs ht ⊢
    rw [String.toList_append, List.count_append, hs, ht, List.map_append, List.sum_append]
    omega
  order := by
    rw [String.toList_append]
    exact h.order.append h'.order

/-- The end of a line. -/
theorem feed : Prints 1 [] "\n" := ⟨by decide, .nil _⟩

end Prints

end Text

open Text (Prints)

/-! ## Lines -/

/-- Lines as text. -/
def ended (lines : List String) : String := String.join (lines.map fun line => line ++ "\n")

theorem ended_cons (line : String) (lines : List String) :
    ended (line :: lines) = line ++ "\n" ++ ended lines := by
  simp [ended, String.join_cons]

theorem ended_append (ls ks : List String) : ended (ls ++ ks) = ended ls ++ ended ks := by
  simp [ended, String.join_append]

/-- The lines hold the given texts in their order, and no line is broken by anything else. -/
def PrintLines (texts lines : List String) : Prop := Prints lines.length texts (ended lines)

namespace PrintLines

variable {ts us ls ks : List String}

theorem nil : PrintLines [] [] := .blank

theorem cons {line : String} (h : Prints 0 ts line) (h' : PrintLines us ls) :
    PrintLines (ts ++ us) (line :: ls) := by
  have whole := (h.append .feed).append h'
  rw [List.append_nil, ← ended_cons] at whole
  have count : 0 + 1 + ls.length = (line :: ls).length := by
    rw [List.length_cons]
    omega
  rwa [count] at whole

theorem append (h : PrintLines ts ls) (h' : PrintLines us ks) :
    PrintLines (ts ++ us) (ls ++ ks) := by
  have whole := Prints.append h h'
  rwa [← ended_append, ← List.length_append] at whole

theorem single {line : String} (h : Prints 0 ts line) : PrintLines ts [line] := by
  simpa using cons h nil

theorem flatMap {α : Type} {f g : α → List String} (h : ∀ a, PrintLines (f a) (g a))
    (as : List α) : PrintLines (as.flatMap f) (as.flatMap g) := by
  induction as with
  | nil => exact nil
  | cons a as ih => exact (h a).append ih

theorem map {α : Type} {f : α → List String} {g : α → String} (h : ∀ a, Prints 0 (f a) (g a))
    (as : List α) : PrintLines (as.flatMap f) (as.map g) := by
  induction as with
  | nil => exact nil
  | cons a as ih => exact cons (h a) ih

/-- A line of the report's own that is there under a condition. -/
theorem note {p : Prop} [Decidable p] {line : String} (h : '\n' ∉ line.toList) :
    PrintLines [] (if p then [line] else []) := by
  split
  · exact single (.fixed h)
  · exact nil

end PrintLines

/-! ## Views -/

namespace View

/-- The texts that a view shows, in the order in which it shows them. -/
def texts : View → List String
  | transfer t => t.amount :: t.verification.toList
  | approval a => a.spender :: a.before.toList ++ [a.after]
  | authority s => s.account :: s.staked :: s.changes.flatMap fun change => [change.old, change.new]

/-- A transfer and an approval take a line; a stake account takes one, and one for each role that
passes on. -/
def lineCount : View → Nat
  | transfer _ => 1
  | approval _ => 1
  | authority s => 1 + s.changes.length

theorem length_lines (v : View) : v.lines.length = v.lineCount := by
  cases v with
  | transfer t => rfl
  | approval a => rfl
  | authority s => simp [lines, lineCount, Nat.add_comm]

theorem transfer_prints (t : Transfer) : PrintLines (transfer t).texts (transfer t).lines := by
  have front : Prints 0 [] ("  " ++ t.direction.word ++ " " ++ t.direction.mark ++ " ") :=
    .fixed (by cases t.direction <;> decide)
  have amount := front.append (.value t.amount)
  refine PrintLines.single ?_
  obtain ⟨direction, _, verification, contract⟩ := t
  cases verification with
  | none => exact amount.append .blank
  | some verification =>
    have behind : Prints 0 [verification] (" (" ++ verification ++ ")") :=
      ((Prints.fixed (by decide)).append (.value verification)).append (.fixed (by decide))
    exact amount.append behind

theorem approval_prints (a : Approval) : PrintLines (approval a).texts (approval a).lines := by
  have spender : Prints 0 [a.spender] ("  Spender " ++ a.spender ++ ": ") :=
    ((Prints.fixed (by decide)).append (.value a.spender)).append (.fixed (by decide))
  refine PrintLines.single ?_
  obtain ⟨_, before, after⟩ := a
  cases before with
  | none => exact (spender.append .blank).append (.value after)
  | some before =>
    have former : Prints 0 [before] (before ++ " -> ") :=
      (Prints.value before).append (.fixed (by decide))
    exact (spender.append former).append (.value after)

theorem authority_prints (s : Authority) : PrintLines (authority s).texts (authority s).lines := by
  have account : Prints 0 [s.account, s.staked]
      ("  Stake account " ++ s.account ++ " (" ++ s.staked ++ ")") :=
    ((((Prints.fixed (by decide)).append (.value s.account)).append (.fixed (by decide))).append
      (.value s.staked)).append (.fixed (by decide))
  refine PrintLines.cons account (PrintLines.map (fun change => ?_) s.changes)
  have role : Prints 0 [] ("    " ++ change.role.word ++ ": ") :=
    .fixed (by cases change.role <;> decide)
  exact ((role.append (.value change.old)).append (.fixed (by decide))).append (.value change.new)

theorem lines_print (v : View) : PrintLines v.texts v.lines := by
  cases v with
  | transfer t => exact transfer_prints t
  | approval a => exact approval_prints a
  | authority s => exact authority_prints s

end View

/-! ## Warnings -/

namespace Risk

/-- The messages of the warnings. -/
def texts (r : Risk) : List String := r.warnings.map Warning.message

/-- One warning takes a line; several take one each, under a title. -/
def lineCount (r : Risk) : Nat :=
  match r.warnings.length with
  | 0 => 0
  | 1 => 1
  | n => 1 + n

theorem title_prints (r : Risk) : Prints 0 [] r.title := by
  unfold title
  split
  · exact .fixed (by decide)
  · have number : Prints 0 [] r.warnings.length.repr := by
      refine .fixed fun h => ?_
      rw [Nat.repr_eq_ofList_toDigits, String.toList_ofList] at h
      have digit := Nat.isDigit_of_mem_toDigits (by decide) (by decide) h
      exact absurd digit (by decide)
    exact ((Prints.fixed (by decide)).append number).append (.fixed (by decide))

theorem warning_prints (w : Warning) :
    Prints 0 [w.message] ("  [" ++ w.severity.label ++ "] " ++ w.message) := by
  have front : Prints 0 [] ("  [" ++ w.severity.label ++ "] ") :=
    .fixed (by cases w.severity <;> decide)
  exact front.append (.value w.message)

theorem length_lines (r : Risk) : r.lines.length = r.lineCount := by
  unfold lines presentation lineCount
  rcases r.warnings with _ | ⟨w, _ | ⟨w', ws⟩⟩
  · rfl
  · rfl
  · simp [Nat.add_comm]

theorem lines_print (r : Risk) : PrintLines r.texts r.lines := by
  have listed (ws : List Warning) := PrintLines.map warning_prints ws
  unfold texts lines presentation
  rcases hw : r.warnings with _ | ⟨w, _ | ⟨w', ws⟩⟩
  · exact .nil
  · exact .single ((Prints.fixed (by decide)).append (.value w.message))
  · have all := PrintLines.cons r.title_prints (listed (w :: w' :: ws))
    rwa [← List.map_eq_flatMap] at all

end Risk

/-! ## Sections and reports -/

namespace Section

def texts (s : Section) : List String := s.entries.flatMap fun e => e.view.texts

def lineCount (headed : Bool) (s : Section) : Nat :=
  (if headed then 1 else 0) + (s.entries.map fun e => e.view.lineCount).sum

theorem length_lines (headed : Bool) (s : Section) :
    (s.lines headed).length = s.lineCount headed := by
  have entries : (s.entries.flatMap fun e => e.view.lines).length =
      (s.entries.map fun e => e.view.lineCount).sum := by
    simp only [List.length_flatMap, View.length_lines]
  rw [lines, lineCount, List.length_append, entries]
  cases headed <;> rfl

theorem lines_print (headed : Bool) (s : Section) : PrintLines s.texts (s.lines headed) := by
  have heading : PrintLines [] (if headed then [s.category.heading ++ ":"] else []) :=
    .note (by cases s.category <;> decide)
  exact heading.append (.flatMap (fun e => e.view.lines_print) s.entries)

end Section

namespace Report

/-- The texts from outside that a report shows, in the order in which it shows them. -/
def texts (p : Report) : List String :=
  p.risk.texts ++ (if p.failure = "" then [] else [p.failure]) ++ p.sections.flatMap Section.texts

/-- A line for the action, the lines of the warnings, one for each thing that is pointed out, and
the lines of the sections. -/
def lineCount (p : Report) : Nat :=
  1 + p.risk.lineCount + (if p.siteFlagged then 1 else 0) + (if p.needsConfirmation then 1 else 0)
    + (if p.failure = "" then 0 else 1) + (p.sections.map (Section.lineCount p.severalCategories)).sum

theorem length_lines (p : Report) : p.lines.length = p.lineCount := by
  have sections : (p.sections.flatMap (Section.lines p.severalCategories)).length =
      (p.sections.map (Section.lineCount p.severalCategories)).sum := by
    simp only [List.length_flatMap, Section.length_lines]
  unfold lines lineCount
  simp only [List.length_append, Risk.length_lines, sections, apply_ite List.length,
    List.length_cons, List.length_nil, Nat.zero_add]

theorem lines_print (p : Report) : PrintLines p.texts p.lines := by
  have action : PrintLines [] ["Action: " ++ p.risk.action.label] :=
    .single (.fixed (by cases p.risk.action <;> decide))
  have site : PrintLines []
      (if p.siteFlagged then ["The requesting website has been flagged"] else []) :=
    .note (by decide)
  have confirmation : PrintLines []
      (if p.needsConfirmation then ["This transaction requires explicit confirmation"] else []) :=
    .note (by decide)
  have failure : PrintLines (if p.failure = "" then [] else [p.failure])
      (if p.failure = "" then [] else ["Simulation failed: " ++ p.failure]) := by
    split
    · exact .nil
    · exact .single ((Prints.fixed (by decide)).append (.value p.failure))
  have sections : PrintLines (p.sections.flatMap Section.texts)
      (p.sections.flatMap (Section.lines p.severalCategories)) :=
    .flatMap (Section.lines_print p.severalCategories) p.sections
  have header := ((action.append p.risk.lines_print).append site).append confirmation
  rw [List.nil_append, List.append_nil, List.append_nil] at header
  exact (header.append failure).append sections

/-- A report has its lines and no more: the line feeds in its text are the ends of its lines and
those in the texts it shows, which all stand there in their order. -/
theorem text_prints (p : Report) :
    p.text = ended p.lines ∧ p.lines.length = p.lineCount ∧
      Text.feeds p.text = p.lineCount + (p.texts.map Text.feeds).sum ∧
      Text.InOrder p.texts p.text.toList := by
  have prints := p.lines_print
  rw [PrintLines, length_lines] at prints
  exact ⟨rfl, p.length_lines, prints.count, prints.order⟩

end Report

end SigningPreview
