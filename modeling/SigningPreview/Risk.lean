import SigningPreview.Response

/-! # The risk header

What a report says first: the provider's advice and warnings, whether the user must confirm the
transaction explicitly, and whether the warnings concern the website that asks for it. -/
namespace SigningPreview

/-- The warnings about a website, by kind. -/
def siteWarningKinds : List String :=
  ["BLOCKLISTED_DOMAIN_CROSS_ORIGIN", "COPY_CAT_DOMAIN", "COPY_CAT_IMPERSONATION_DOMAIN",
    "MULTI_COPY_CAT_DOMAIN", "NEW_DOMAIN", "NON_ASCII_URL", "SEMI_TRUSTED_BLOCKLIST_DOMAIN",
    "TRUSTED_BLOCKLIST_DOMAIN"]

/-- Whether a warning concerns the website. -/
def Warning.concernsSite (w : Warning) : Bool := siteWarningKinds.contains w.kind

/-- How warnings are presented: one is shown in full, several under a title. -/
inductive Presentation where
  | none
  | inline (warning : Warning)
  | collapsible (count : Nat) (critical : Bool) (title : String)
  deriving DecidableEq

/-- The provider's advice and warnings. -/
structure Risk where
  action : Action
  warnings : List Warning
  hasCritical : Bool
  deriving DecidableEq

namespace Risk

/-- The risk that a response states. -/
def ofResponse {α : Type} (r : Response α) : Risk :=
  ⟨r.action, r.warnings, r.warnings.any Warning.isCritical⟩

/-- Whether the user must confirm explicitly. -/
def needsConfirmation (r : Risk) : Bool := r.action = .block || r.hasCritical

/-- Whether the website is warned of. -/
def siteFlagged (r : Risk) : Bool := r.warnings.any Warning.concernsSite

/-- The title over several warnings. -/
def title (r : Risk) : String :=
  if r.hasCritical then "Unsafe action with risk of loss"
  else "We found " ++ r.warnings.length.repr ++ " issue(s)."

def presentation (r : Risk) : Presentation :=
  match r.warnings with
  | [] => .none
  | [warning] => .inline warning
  | warnings => .collapsible warnings.length r.hasCritical r.title

end Risk

end SigningPreview
