/-!
# Statuses of controls
-/

namespace Compliance

/-- How far a control is implemented. -/
inductive ControlStatus where
  | pending
  | notApplicable
  | inherentlyMet
  | documentation
  | planned
  | partially
  | supported
  | automated
  | manual
  | doesNotMeet
  | unknown
deriving Repr, DecidableEq, Inhabited

namespace ControlStatus

/-- The words for a status. -/
def word : ControlStatus → String
  | pending => "pending"
  | notApplicable => "not applicable"
  | inherentlyMet => "inherently met"
  | documentation => "documentation"
  | planned => "planned"
  | partially => "partial"
  | supported => "supported"
  | automated => "automated"
  | manual => "manual"
  | doesNotMeet => "does not meet"
  | unknown => "unknown"

/-- All statuses with their words. -/
def words : List (String × ControlStatus) :=
  [pending, notApplicable, inherentlyMet, documentation, planned, partially, supported, automated,
    manual, doesNotMeet, unknown].map fun status => (status.word, status)

/-- The status that a word stands for. -/
def ofWord (text : String) : ControlStatus := (words.lookup text).getD unknown

/-- The state of implementation that a component states for a status, if it states one. -/
def implementationState? : ControlStatus → Option String
  | automated | supported | inherentlyMet | documentation => some "implemented"
  | partially => some "partial"
  | planned | pending => some "planned"
  | notApplicable => some "not-applicable"
  | manual => some "alternative"
  | doesNotMeet | unknown => none

end ControlStatus

end Compliance
