import Widgetry.Json.Reader
import Widgetry.Root.Decoding
import Widgetry.Text.Blank

/-!
Validation: the rules that a decoded root has to keep. Every violation is reported, each with the
path of the field that it concerns.
-/

namespace Widgetry

/-! ## Issues -/

/-- What is wrong with a field. -/
inductive Flaw where
  | wrongVersion (found : Nat)
  | empty
  | noFamily
  | notPositive
  | notFinite
  | negative
  | outsideUnit (found : Float)
  | notScalar
  | expectedNumber
  | expectedFraction
  | expectedString
  | expectedOneOf (words : List String)
  | undecodable (cause : DecodeCause)

def Flaw.message : Flaw → String
  | .wrongVersion found =>
    "expected " ++ toString currentVersion ++ ", found " ++ toString found
  | .empty => "must not be empty"
  | .noFamily => "must list at least one family"
  | .notPositive => "must be a positive number"
  | .notFinite => "must be a finite number"
  | .negative => "must be a non-negative number"
  | .outsideUnit found => "must be between 0 and 1, found " ++ Double.display found
  | .notScalar => "must be a string, number or boolean"
  | .expectedNumber => "expected number"
  | .expectedFraction => "expected number between 0 and 1"
  | .expectedString => "expected string"
  | .expectedOneOf words =>
    "expected one of " ++ ", ".intercalate (words.map fun word => "'" ++ word ++ "'")
  | .undecodable cause => cause.message

/-- A violation and the path of its field. -/
structure Issue where
  path : String
  flaw : Flaw

def Issue.message (issue : Issue) : String := issue.flaw.message

def Issue.text (issue : Issue) : String :=
  if issue.path.isEmpty then issue.message else issue.path ++ ": " ++ issue.message

def issueIf (condition : Bool) (path : String) (flaw : Flaw) : List Issue :=
  if condition then [⟨path, flaw⟩] else []

/-! ## Styles -/

def inUnit (x : Float) : Bool := 0 ≤ x && x ≤ 1

/-- What is wrong with the value of a style key. -/
def ValueKind.flaw? : ValueKind → StyleValue → Option Flaw
  | .number, .number x => if x.isFinite then none else some .expectedNumber
  | .number, _ => some .expectedNumber
  | .fraction, .number x => if inUnit x then none else some .expectedFraction
  | .fraction, _ => some .expectedFraction
  | .text, .text _ => none
  | .text, _ => some .expectedString
  | .oneOf words, .text s => if words.contains s then none else some (.expectedOneOf words)
  | .oneOf words, _ => some (.expectedOneOf words)

def Bucket.issues (path : String) (bucket : Bucket) (entries : Entries) : List Issue :=
  entries.filterMap fun entry =>
    (bucket.keys.lookup entry.1).bind fun kind =>
      (kind.flaw? entry.2).map fun flaw => ⟨path ++ "." ++ entry.1, flaw⟩

def Style.issues (path : String) (style : Style) : List Issue :=
  Bucket.all.flatMap fun bucket =>
    match style.bucket bucket with
    | some entries => bucket.issues (path ++ "." ++ bucket.name) entries
    | none => []

/-! ## Nodes -/

def isScalarJson : Json → Bool
  | .string _ | .number _ | .bool _ => true
  | _ => false

def Action.issues (path : String) (action : Action) : List Issue :=
  (action.params.getD []).flatMap fun param =>
    issueIf (!isScalarJson param.2) (path ++ ".params." ++ param.1) .notScalar

def Traits.issues (path : String) (traits : Traits) : List Issue :=
  (match traits.style with
    | some style => style.issues (path ++ ".style")
    | none => [])
  ++ (match traits.action with
    | some action => action.issues (path ++ ".action")
    | none => [])
  ++ (match traits.dataBinding with
    | some binding =>
      issueIf (Text.isEmptyOrBlank binding.key) (path ++ ".dataBinding.key") .empty
    | none => [])

namespace Node

mutual

def issues (path : String) : Node → List Issue
  | .view traits children => childIssues path 0 children ++ traits.issues path
  | .stack traits _ children => childIssues path 0 children ++ traits.issues path
  | .text traits (.number x) =>
    issueIf (!x.isFinite) (path ++ ".text") .notFinite ++ traits.issues path
  | .progressBar traits progress _ =>
    issueIf (!(progress.isFinite && inUnit progress)) (path ++ ".progress") (.outsideUnit progress)
      ++ traits.issues path
  | .spacer traits (some flex) =>
    issueIf (!flex.isFinite) (path ++ ".flex") .notFinite ++ traits.issues path
  | .list traits _ renderItem _ =>
    issueIf (Text.isEmptyOrBlank renderItem) (path ++ ".renderItem") .empty ++ traits.issues path
  | node => node.traits.issues path

/-- The issues of children, the first of which stands at `position`. -/
def childIssues (path : String) (position : Nat) : List Node → List Issue
  | [] => []
  | child :: rest =>
    issues (path ++ ".children." ++ toString position) child
      ++ childIssues path (position + 1) rest

end

end Node

/-! ## Roots -/

def entryIssues (path : String) (position : Nat) : List TimelineEntry → List Issue
  | [] => []
  | entry :: rest =>
    issueIf (Text.isEmptyOrBlank entry.date) (path ++ "." ++ toString position ++ ".date") .empty
      ++ entryIssues path (position + 1) rest

def Timeline.issues (timeline : Timeline) : List Issue :=
  (match timeline.policy with
    | some (.custom minutes) =>
      issueIf (!(minutes.isFinite && minutes > 0)) "widget.timeline.policy.minutes" .notPositive
    | _ => [])
  ++ entryIssues "widget.timeline.entries" 0 (timeline.entries.getD [])

def Widget.issues (widget : Widget) : List Issue :=
  issueIf (Text.isEmptyOrBlank widget.kind) "widget.kind" .empty
    ++ issueIf widget.families.isEmpty "widget.families" .noFamily
    ++ (match widget.timeline with
      | some timeline => timeline.issues
      | none => [])

def LiveActivity.issues (activity : LiveActivity) : List Issue :=
  issueIf (Text.isEmptyOrBlank activity.activityType) "liveActivity.activityType" .empty
    ++ issueIf (activity.relevanceScore.any fun score => !score.isFinite)
      "liveActivity.relevanceScore" .notFinite
    ++ activity.regionNodes.flatMap fun region => region.2.issues ("liveActivity." ++ region.1)

def DataProvider.issues (provider : DataProvider) : List Issue :=
  issueIf (provider.refreshInterval.any fun interval => !(interval.isFinite && interval ≥ 0))
    "dataProvider.refreshInterval" .negative

namespace Root

/-- Every rule that a root violates. -/
def issues (root : Root) : List Issue :=
  issueIf (root.version != currentVersion) "version" (.wrongVersion root.version)
    ++ issueIf (Text.isEmptyOrBlank root.rootId) "rootId" .empty
    ++ root.tree.issues "tree"
    ++ (match root.widget with
      | some widget => widget.issues
      | none => [])
    ++ (match root.liveActivity with
      | some activity => activity.issues
      | none => [])
    ++ (match root.dataProvider with
      | some provider => provider.issues
      | none => [])

/-- Why a root is refused. -/
inductive Refusal where
  | notJson
  | unsupportedVersion (rootId : String) (found : Nat)
  | invalid (rootId : String) (issues : List Issue)

def Refusal.message : Refusal → String
  | .notJson => "JSON error: the text is not JSON"
  | .unsupportedVersion id found =>
    s!"Unsupported IR version {found} in '{id}' (expected {currentVersion})"
  | .invalid id issues =>
    s!"Invalid IR for root '{id}':\n" ++ "\n".intercalate (issues.map fun issue => "  " ++ issue.text)

/-- A root that keeps all rules. -/
def check (root : Root) : Except Refusal Unit :=
  let found := root.issues
  if found.isEmpty then .ok ()
  else .error (.invalid (if root.rootId.isEmpty then "<unnamed>" else root.rootId) found)

/-- The id that a value claims to have. -/
def claimedId (value : Json) : String :=
  match value.member? "rootId" with
  | some (.string id) => id
  | _ => "<unknown>"

/-- The version that a value claims to have, when it is a number that can be one. -/
def claimedVersion? (value : Json) : Option Nat :=
  match value.member? "version" with
  | some (.number (.integer n)) => if 0 ≤ n then some n.toNat else none
  | _ => none

/-- Decodes and checks a root; another version is refused before anything is decoded. -/
def ofJson (value : Json) : Except Refusal Root := do
  let id := claimedId value
  match claimedVersion? value with
  | some version => if version != currentVersion then throw (.unsupportedVersion id version)
  | none => pure ()
  match Root.decode value with
  | .error failure => throw (.invalid id [⟨pathText failure.path, .undecodable failure.cause⟩])
  | .ok root =>
    root.check
    return root

/-- The root that a text holds. -/
def parse (text : String) : Except Refusal Root :=
  match Json.read? text with
  | some value => ofJson value.canonical
  | none => .error .notJson

/-- The root of a text as it stands: nothing is checked, and members keep their order. -/
def parseUnchecked? (text : String) : Option Root :=
  (Json.read? text).bind fun value => (Root.decode value).toOption

end Root

end Widgetry
