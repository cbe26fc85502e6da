import Compliance.Parameter
import Compliance.Path
import Compliance.Property

/-!
# Rules

A loaded rule with its description, its references to standards and the
parameters that it is bound to, and the properties that a component lists for it.
-/

namespace Compliance

/-- A loaded rule. -/
structure Rule where
  id : String
  directory : Path
  description : String
  severity : Option String
  /-- The references by standard; no list of them is empty. -/
  references : Table (List String)
  parameters : List Parameter
deriving DecidableEq, Inhabited

namespace Rule

/-- A rule with nothing but a description. -/
def new (id : String) (directory : Path) (description : String) : Rule :=
  { id, directory, description, severity := none, references := ∅, parameters := [] }

/-- Sets the references to a standard, if there are any. -/
def withReferences (rule : Rule) (standard : String) (references : List String) : Rule :=
  if references.isEmpty then rule
  else { rule with references := rule.references.insert standard references }

/-- Binds the rule to one more parameter. -/
def withParameter (rule : Rule) (parameter : Parameter) : Rule :=
  { rule with parameters := rule.parameters ++ [parameter] }

end Rule

namespace Property

/-- The four properties of a parameter. -/
def ofParameter (ruleSet : String) (parameter : Parameter) : List Property :=
  [⟨parameterId, parameter.id, ruleSet⟩,
    ⟨parameterDescription, parameter.description, ruleSet⟩,
    ⟨parameterDefault, parameter.default, ruleSet⟩,
    ⟨parameterAlternatives, parameter.optionsText, ruleSet⟩]

/-- The properties of a rule and of its parameters. -/
def ofRule (ruleSet : String) (rule : Rule) : List Property :=
  ⟨ruleId, rule.id, ruleSet⟩ :: ⟨ruleDescription, rule.description, ruleSet⟩ ::
    rule.parameters.flatMap (ofParameter ruleSet)

/-- The properties of rules of which the first has a number among `total` ones. -/
def ofRulesFrom (total : Nat) : (index : Nat) → List Rule → List Property
  | _, [] => []
  | index, rule :: others =>
    ofRule (ruleSetId index total) rule ++ ofRulesFrom total (index + 1) others

/-- The properties of a list of rules, with a rule set for each. -/
def ofRules (rules : List Rule) : List Property := ofRulesFrom rules.length 0 rules

end Property

end Compliance
