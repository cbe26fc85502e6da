import Compliance.Product
import Compliance.Text.Blank
import Compliance.Yaml.Value.Record

/-!
# Definitions of rules

The definition of a rule is a YAML record.  Its placeholders are filled in and
its qualified keys are resolved before its fields are read, so that a text in it
has to be a string.
-/

namespace Compliance

open Compliance.Yaml

/-- The template that a rule is generated from. -/
structure RuleTemplate where
  name : Option String
  vars : Entries
deriving Inhabited

/-- What the definition of a rule says about it for one product. -/
structure RuleDefinition where
  title : String
  description : String
  severity : Option String
  references : Entries
  template : Option RuleTemplate
deriving Inhabited

/-- A template as a record. -/
def RuleTemplate.read (value : Value) : Except Fault RuleTemplate := do
  let fields ← value.fields
  let name ← Value.fieldOr "name" none (Value.readOptional Value.readText) fields
  let vars ← Value.fieldOr "vars" [] Value.readEntries fields
  return { name, vars }

namespace RuleDefinition

/-- The name of the file with the definition of a rule. -/
def fileName : String := "rule.yml"

/-- The variable of a template that names the parameter of the rule. -/
def parameterKey : String := "xccdf_variable"

/-- A definition as a record. -/
def read (value : Value) : Except Fault RuleDefinition := do
  let fields ← value.fields
  let title ← Value.fieldOr "title" "" Value.readText fields
  let description ← Value.fieldOr "description" "" Value.readText fields
  let severity ← Value.fieldOr "severity" none (Value.readOptional Value.readText) fields
  let references ← Value.fieldOr "references" [] Value.readEntries fields
  let template ← Value.fieldOr "template" none (Value.readOptional RuleTemplate.read) fields
  return { title, description, severity, references, template }

/-- The definition that a text holds for a product. -/
def parse (product : Product) (text : String) : Except ContentFault RuleDefinition :=
  (do read (product.normalize (← Value.parse (product.substitute text)))).mapError
    (.malformed none)

/-- The definition in the directory of a rule. -/
def load (files : FileSystem) (product : Product) (directory : Path) :
    Except ContentFault RuleDefinition := do
  let path := directory.join fileName
  (parse product (← files.readContent path)).mapError (.inFile path)

/-- The parameter that the rule is bound to, if it is generated from a template that names one. -/
def parameter? (definition : RuleDefinition) : Option String := do
  let template ← definition.template
  let value ← Value.lookup parameterKey template.vars
  let name ← value.scalarText?
  if name.isEmpty then none else return name

/-- The pieces between commas that are not blank, without the white space around them. -/
def referenceList (text : String) : List String :=
  (((Text.pieces ',' text.toList).map Text.trim).filter fun piece => !piece.isEmpty).map
    String.ofList

/-- The references to a standard. -/
def referencesTo (definition : RuleDefinition) (standard : String) : List String :=
  match (Value.lookup standard definition.references).bind Value.scalarText? with
  | some text => referenceList text
  | none => []

/-- The standards that the definition names. -/
def standards (definition : RuleDefinition) : List String :=
  definition.references.filterMap fun entry => entry.1.text?

/-- The description on one line, without the marks of paragraphs. -/
def cleanDescription (definition : RuleDefinition) : String :=
  String.ofList
    (Text.trim
      (Text.erase "</p>".toList
        (Text.erase "<p>".toList (Text.unwrapLines definition.description.toList))))

end RuleDefinition

end Compliance
