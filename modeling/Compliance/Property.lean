import Compliance.Decimal.Shortest

/-!
# Properties

A component lists its rules and their parameters as properties.  All properties
of one rule share a rule set, whose number is written with leading zeros so that
rule sets sort in the order of their rules.
-/

namespace Compliance

/-- A property of a component, with the rule set that it belongs to. -/
structure Property where
  name : String
  value : String
  ruleSet : String
deriving Repr, DecidableEq, Inhabited

namespace Property

def ruleId : String := "Rule_Id"
def ruleDescription : String := "Rule_Description"
def parameterId : String := "Parameter_Id"
def parameterDescription : String := "Parameter_Description"
def parameterDefault : String := "Parameter_Value_Default"
def parameterAlternatives : String := "Parameter_Value_Alternatives"

end Property

/-- A number in decimal with at least `width` digits. -/
def padded (width number : Nat) : List Char :=
  let digits := Decimal.digitsOf number
  List.replicate (width - digits.length) '0' ++ digits

/-- The rule set of the rule at `index` among `total` rules, as wide as that of the last one. -/
def ruleSetId (index total : Nat) : String :=
  "rule_set_" ++
    String.ofList (padded (Decimal.digitsOf (max (total - 1) index)).length index)

end Compliance
