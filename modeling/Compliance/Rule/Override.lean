import Compliance.Table
import Compliance.Text.Pieces

/-!
# Overrides in lists of rules

An entry of a list of rules is the identifier of a rule, or it overrides a
parameter: then it has exactly one equals sign, with the parameter before it and
the value after it.
-/

namespace Compliance

namespace Override

/-- The parameter and the value of an override. -/
def parse (entry : String) : Option (String × String) :=
  match Text.cut? '=' entry.toList with
  | none => none
  | some (parameter, value) =>
    if '=' ∈ value then none else some (String.ofList parameter, String.ofList value)

/-- The entries that are rules, in their order. -/
def ruleIds (entries : List String) : List String :=
  entries.filter fun entry => (parse entry).isNone

/-- The overrides of a list; for each parameter the last one counts. -/
def overrides (entries : List String) : Table String := Table.ofList (entries.filterMap parse)

/-- The rules and the overrides among the entries of a list. -/
structure Selection where
  ruleIds : List String
  overrides : Table String
deriving DecidableEq, Inhabited

/-- Takes in one more entry. -/
def Selection.take (selection : Selection) (entry : String) : Selection :=
  match parse entry with
  | some (parameter, value) =>
    { selection with overrides := selection.overrides.insert parameter value }
  | none => { selection with ruleIds := selection.ruleIds ++ [entry] }

/-- Separates the rules of a list from its overrides in one pass. -/
def split (entries : List String) : Selection := entries.foldl Selection.take ⟨[], ∅⟩

end Override

end Compliance
