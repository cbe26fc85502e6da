/-!
# Controls of catalogues

A resolved catalogue is a forest of controls.  The parts of a control have the
shape of controls themselves.
-/

namespace Compliance

/-- A control of a catalogue, or a part of one. -/
inductive Control where
  | mk (id : String) (label notes : Option String) (parts : List Control)
deriving Inhabited

namespace Control

/-- The identifier. -/
def id : Control → String
  | mk id _ _ _ => id

/-- The label that the control is shown with. -/
def label : Control → Option String
  | mk _ label _ _ => label

/-- The guidance or the prose. -/
def notes : Control → Option String
  | mk _ _ notes _ => notes

/-- The parts. -/
def parts : Control → List Control
  | mk _ _ _ parts => parts

end Control

end Compliance
