import SigningPreview.Report

/-! # How views, groupings and reports are written

These are written and never read. -/
namespace SigningPreview

open Json (Codec Node)

/-- A string. -/
def Json.Node.ofString (s : String) : Node := .str (some s)

/-- An object with named members. -/
def Json.Node.ofMembers (members : List (String × Node)) : Node :=
  .obj (members.map fun (name, value) => (.str (some name), value)) true

open Json.Node (ofString ofMembers)

/-- A string or `null`. -/
def Json.Node.ofOption (s : Option String) : Node :=
  match s with
  | some s => ofString s
  | none => .null

def RoleChange.node (change : RoleChange) : Node :=
  ofMembers [("role", ofString change.role.word), ("from", ofString change.old),
    ("to", ofString change.new)]

/-- A view names its category first. -/
def View.node (view : View) : Node :=
  let type := ("type", ofString view.category.name)
  match view with
  | .transfer t =>
    ofMembers [type, ("direction", ofString t.direction.word), ("amount", ofString t.amount),
      ("verification", .ofOption t.verification), ("contract", .ofOption t.contract)]
  | .approval a =>
    ofMembers [type, ("spender", ofString a.spender), ("before", .ofOption a.before),
      ("after", ofString a.after)]
  | .authority s =>
    ofMembers [type, ("stakeAccount", ofString s.account), ("staked", ofString s.staked),
      ("changes", .arr (s.changes.map RoleChange.node) true)]

/-- A grouping is written as an object of lists. -/
def Grouping.node {α : Type} (value : α → Node) (g : Grouping α) : Node :=
  ofMembers [("transfers", .arr (g.transfers.map value) true),
    ("approvals", .arr (g.approvals.map value) true),
    ("stakeAuthorityChanges", .arr (g.stakeAuthorityChanges.map value) true)]

def Warning.node (w : Warning) : Node := Warning.layout.codec.write w

def Risk.node (r : Risk) : Node :=
  ofMembers [("action", ofString r.action.word),
    ("warnings", .arr (r.warnings.map Warning.node) true),
    ("hasCriticalWarnings", .bool r.hasCritical)]

def Presentation.node : Presentation → Node
  | .none => ofString "none"
  | .inline warning => ofMembers [("inline", warning.node)]
  | .collapsible count critical title =>
    ofMembers [("collapsible", ofMembers [("count", .num (.ofNat count)),
      ("critical", .bool critical), ("title", ofString title)])]

def Entry.node (e : Entry) : Node :=
  ofMembers [("humanReadableDiff", ofString e.headline), ("view", e.view.node)]

def Section.node (s : Section) : Node :=
  ofMembers [("category", ofString s.category.name),
    ("changes", .arr (s.entries.map Entry.node) true)]

def Report.node (r : Report) : Node :=
  ofMembers [("summary", r.risk.node), ("requiresInterstitial", .bool r.needsConfirmation),
    ("flagged", .bool r.siteFlagged), ("error", ofString r.failure),
    ("multipleCategories", .bool r.severalCategories),
    ("sections", .arr (r.sections.map Section.node) true)]

end SigningPreview
