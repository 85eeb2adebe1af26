import SigningPreview.Report

/-! # Reports as text

A report is written line by line: every item has a line of its own, and every line ends. -/
namespace SigningPreview

/-- The lines for a view. -/
def View.lines : View → List String
  | .transfer t =>
    ["  " ++ t.direction.word ++ " " ++ t.direction.mark ++ " " ++ t.amount
      ++ match t.verification with
        | some verification => " (" ++ verification ++ ")"
        | none => ""]
  | .approval a =>
    ["  Spender " ++ a.spender ++ ": "
      ++ (match a.before with
        | some before => before ++ " -> "
        | none => "")
      ++ a.after]
  | .authority s =>
    ("  Stake account " ++ s.account ++ " (" ++ s.staked ++ ")")
      :: s.changes.map fun change =>
        "    " ++ change.role.word ++ ": " ++ change.old ++ " -> " ++ change.new

/-- The lines for warnings. -/
def Risk.lines (r : Risk) : List String :=
  match r.presentation with
  | .none => []
  | .inline warning => ["Warning: " ++ warning.message]
  | .collapsible _ _ title =>
    title :: r.warnings.map fun warning =>
      "  [" ++ warning.severity.label ++ "] " ++ warning.message

/-- The lines for a section, which has a heading if there are several. -/
def Section.lines (headed : Bool) (s : Section) : List String :=
  (if headed then [s.category.heading ++ ":"] else []) ++ s.entries.flatMap fun e => e.view.lines

namespace Report

/-- The lines of a report. -/
def lines (r : Report) : List String :=
  ["Action: " ++ r.risk.action.label] ++ r.risk.lines
    ++ (if r.siteFlagged then ["The requesting website has been flagged"] else [])
    ++ (if r.needsConfirmation then ["This transaction requires explicit confirmation"] else [])
    ++ (if r.failure = "" then [] else ["Simulation failed: " ++ r.failure])
    ++ r.sections.flatMap (Section.lines r.severalCategories)

/-- A report as text. -/
def text (r : Report) : String := String.join (r.lines.map fun line => line ++ "\n")

end Report

end SigningPreview
