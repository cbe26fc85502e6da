import Compliance.Failure
import Compliance.Parameter
import Compliance.Text.Blank
import Compliance.Yaml.Record

/-!
# Definitions of parameters

A definition is a YAML record with a description and options, both of which may
be missing or null.  Only options whose key and value are scalars count, and one
of them has to be the default value.
-/

namespace Compliance

/-- What the definition of a parameter says. -/
structure ParameterDefinition where
  description : String
  options : Table String
deriving DecidableEq, Inhabited

namespace ParameterDefinition

open Compliance.Yaml

/-- The option whose value is the default value. -/
def defaultKey : String := "default"

/-- The fields of the record. -/
def read : Yaml.Reader (Option String × Option Value) := fun document room node => do
  let fields ← Record.fields document room node
  let description ←
    Record.withDefault "description" none (Record.readOptional Record.readText) document room fields
  let options ←
    Record.withDefault "options" none (Record.readOptional Value.read) document room fields
  return (description, options)

/-- The entries whose key and value are scalars, as text. -/
def scalarOptions (entries : Entries) : List (String × String) :=
  entries.filterMap fun (key, value) => do return (← key.scalarText?, ← value.scalarText?)

/-- The options that a value holds. -/
def optionsOf : Option Value → Table String
  | some (.mapping entries) => Table.ofList (scalarOptions entries)
  | _ => ∅

/-- A description on one line. -/
def cleaned (description : String) : String :=
  String.ofList (Text.trim (Text.unwrapLines description.toList))

/-- The definition that a text holds. -/
def parse (text : String) : Except ContentFault ParameterDefinition := do
  let (description, options) ←
    (readDocument (none, none) read text).mapError (.malformed none)
  let options := optionsOf options
  if options.contains defaultKey then
    return { description := cleaned (description.getD ""), options }
  else .error (.missingKey none "options.default")

end ParameterDefinition

/-- The parameter that a definition describes. -/
def Parameter.ofDefinition (id : String) (definition : ParameterDefinition) : Parameter :=
  .new id definition.description
    ((definition.options.get? ParameterDefinition.defaultKey).getD "") definition.options

end Compliance
