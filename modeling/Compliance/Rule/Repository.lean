import Compliance.Parameter.Store
import Compliance.Rule
import Compliance.Rule.Override
import Compliance.Rule.Source

/-!
# Loading rules

A list of rules is loaded as a whole: if some rule of it fails, all failures are
reported and no rule comes out.  The overrides in a list hold for the rules of
that list only.  When several lists are loaded, a rule that comes out as it did
before is not repeated.
-/

namespace Compliance

/-- What is needed to load the rules of a product. -/
structure RuleRepository where
  files : FileSystem
  product : Product
  parameters : ParameterStore
  locator : RuleLocator

namespace RuleRepository

/-- A rule as its definition describes it, before it is bound to a parameter. -/
def unbound (id : String) (directory : Path) (definition : RuleDefinition) : Rule :=
  definition.standards.foldl
    (fun rule standard => rule.withReferences standard (definition.referencesTo standard))
    { Rule.new id directory definition.cleanDescription with severity := definition.severity }

/-- Loads one rule. -/
def loadRule (repository : RuleRepository) (overrides : Table String) (id : String) :
    Except RuleFailure Rule :=
  match repository.locator.locate id with
  | none => .error (.notFound id)
  | some directory =>
    match RuleDefinition.load repository.files repository.product directory with
    | .error fault => .error (.loadFailed id (.content fault))
    | .ok definition =>
      if definition.cleanDescription = "" then
        .error (.loadFailed id (.words "rule has no description"))
      else
        let rule := unbound id directory definition
        match definition.parameter? with
        | none => .ok rule
        | some name =>
          match Table.get? repository.parameters name with
          | none => .error (.parameterNotFound id name)
          | some parameter =>
            let parameter := match overrides.get? name with
              | some value => parameter.withOverride value
              | none => parameter
            .ok (rule.withParameter parameter)

/-- What has been loaded and what has failed. -/
structure Outcome where
  rules : List Rule
  failures : List RuleFailure

/-- Loads rules one after the other and keeps both what loads and what fails, in order. -/
def attempt (repository : RuleRepository) (overrides : Table String) :
    (ids : List String) → Outcome
  | [] => ⟨[], []⟩
  | id :: others =>
    let outcome := repository.attempt overrides others
    match repository.loadRule overrides id with
    | .ok rule => { outcome with rules := rule :: outcome.rules }
    | .error failure => { outcome with failures := failure :: outcome.failures }

/-- The rules, if nothing has failed. -/
def Outcome.result (outcome : Outcome) : Except (List RuleFailure) (List Rule) :=
  if outcome.failures.isEmpty then .ok outcome.rules else .error outcome.failures

/-- Loads the rules of one list, or tells of all that fail. -/
def loadBatch (repository : RuleRepository) (entries : List String) :
    Except (List RuleFailure) (List Rule) :=
  let selection := Override.split entries
  (repository.attempt selection.overrides selection.ruleIds).result

/-- Loads the rules of one list. -/
def load (repository : RuleRepository) (entries : List String) : Except Failure (List Rule) :=
  (repository.loadBatch entries).mapError .ruleBatch

/-- Adds the items of a list that are not there yet. -/
def addNew {α : Type} [DecidableEq α] (taken items : List α) : List α :=
  items.foldl (fun taken item => if item ∈ taken then taken else taken ++ [item]) taken

/-- Takes in one more list. -/
def takeBatch (repository : RuleRepository) (outcome : Outcome) (entries : List String) :
    Outcome :=
  match repository.loadBatch entries with
  | .ok rules => { outcome with rules := addNew outcome.rules rules }
  | .error failures => { outcome with failures := addNew outcome.failures failures }

/-- Loads the rules of several lists. -/
def loadBatches (repository : RuleRepository) (batches : List (List String)) :
    Except Failure (List Rule) :=
  ((batches.foldl repository.takeBatch ⟨[], []⟩).result).mapError .ruleBatch

end RuleRepository

end Compliance
