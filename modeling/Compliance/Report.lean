import Compliance.Catalog.Profile
import Compliance.Component.Document
import Compliance.Implementation
import Compliance.Product
import Compliance.Report.Line
import Compliance.Rule

/-!
# Reports of the commands
-/

namespace Compliance.Report

/-! ## Common lines -/

/-- An empty line. -/
def blank : Line := []

/-- A heading, with an empty line before it. -/
def heading (text : String) : List Line := [blank, [.title text]]

/-- A heading of a section, with an empty line before it. -/
def subheading (text : String) : List Line := [blank, [.bold text]]

/-- A message with a mark before it. -/
def message (mark : Span) (text : String) : Line := [mark, .plain (" " ++ text)]

/-- What has been done. -/
def success (text : String) : Line := message (.mark .green "✓") text

/-- What has failed. -/
def failure (text : String) : Line := message (.mark .red "✗") text

/-- What may be unexpected. -/
def warning (text : String) : Line := message (.mark .yellow "⚠") text

/-- What is worth knowing. -/
def note (text : String) : Line := message (.mark .blue "ℹ") text

/-! ## What has been built -/

/-- The width of a column with identifiers of controls or with statuses. -/
def controlWidth : Nat := 16

/-- The line of a requirement. -/
def requirement (requirement : Requirement) : Line :=
  [.plain "  ", .coloured .green "•", .plain " ",
    (Span.plain requirement.controlId).widened controlWidth, .plain " ",
    (Span.dimmed requirement.status.word).widened controlWidth,
    .plain (" " ++ toString requirement.ruleIds.length ++ " rules")]

/-- The lines of the requirements. -/
def requirements (implementation : Implementation) (propertyCount : Nat) : List Line :=
  if implementation.isEmpty then
    [warning "No policy control resolved against the profile, no component written"]
  else
    success
        (toString implementation.requirements.length ++ " implemented requirements, " ++
          toString propertyCount ++ " rule properties") ::
      implementation.requirements.map requirement

/-- The lines of the controls that the catalogue does not know. -/
def skipped (ids : List String) : List Line :=
  if ids.isEmpty then []
  else
    subheading ("Skipped (" ++ toString ids.length ++ " not in profile):") ++
      ids.map fun id => [.plain "  ", .coloured .yellow "–", .plain " ", .dimmed id]

/-- What a policy implements, with the number of the properties and the file that the definition has
been written to. -/
def built (implementation : Implementation) (propertyCount : Nat) (output : Path) : Report :=
  heading ("Component definition: " ++ implementation.policyId) ++
    note ("Profile: " ++ implementation.source) ::
    requirements implementation propertyCount ++ skipped implementation.skipped ++
    [blank, [.plain "  ", .coloured .cyan "→", .plain (" " ++ output.shown)]]

/-! ## Rules -/

/-- The width of a column with names of standards or of properties. -/
def nameWidth : Nat := 30

/-- A name and what belongs to it. -/
def named (name : Span) (text : String) : Line :=
  [.plain "  ", name.widened nameWidth, .plain (" " ++ text)]

/-- The lines of a rule of a rule set. -/
def rule (properties : List Property) (ruleSet : String) (rule : Rule) : List Line :=
  subheading (ruleSet ++ " " ++ rule.id ++ " [" ++ rule.severity.getD "unknown" ++ "]") ++
    (rule.references.entries.map fun (standard, references) =>
      named (.dimmed standard) (", ".intercalate references)) ++
    ((properties.filter fun property => property.ruleSet = ruleSet).map fun property =>
      named (.coloured .cyan property.name) property.value)

/-- The lines of rules of which the first has a number among `total` ones. -/
def rulesFrom (properties : List Property) (total : Nat) : (index : Nat) → List Rule → List Line
  | _, [] => []
  | index, first :: others =>
    rule properties (ruleSetId index total) first ++ rulesFrom properties total (index + 1) others

/-- The rules of a product. -/
def rules (product : Product) (rules : List Rule) : Report :=
  heading ("Rules for " ++ product.fullName) ++
    rulesFrom (Property.ofRules rules) rules.length 0 rules ++
    [blank, success (toString rules.length ++ " rules loaded")]

/-- The properties of rules as a document. -/
def rulesDocument (rules : List Rule) : Json :=
  .array ((Property.ofRules rules).map Property.toJson)

/-! ## Names of controls -/

/-- A name, and the control that it stands for. -/
def resolved (index : CatalogIndex) (name : String) : Line :=
  match index.resolve name with
  | some id =>
    [.plain "  ", .coloured .green "✓", .plain (" " ++ name ++ " "), .dimmed "→", .plain " ",
      .coloured .green id]
  | none => [.plain "  ", .coloured .red "✗", .plain (" " ++ name ++ " "), .dimmed "not in profile"]

/-- What names stand for in the catalogue of a profile. -/
def resolution (profile : Profile) (index : CatalogIndex) (names : List String) : Report :=
  heading ("Profile: " ++ profile.href) ++
    note (toString index.size ++ " controls and parts indexed") ::
    names.map (resolved index) ++ [blank]

/-- What names stand for, as a document with each name once. -/
def resolutionDocument (index : CatalogIndex) (names : List String) : Json :=
  .object (names.eraseDups.map fun name =>
    Json.member name (((index.resolve name).map Json.text).getD .null))

end Compliance.Report
