import Compliance.Failure
import Compliance.Policy.Status
import Compliance.Product
import Compliance.Rule.Override
import Compliance.Yaml.Record

/-!
# Control files

A policy is a YAML record with controls, each of which may have further controls
below it.  Its flat list has every control before those below it.
-/

namespace Compliance

/-- A control of a policy, which may be named by the label of a catalogue's control. -/
structure PolicyControl where
  id : String
  title : Option String := none
  levels : List String := []
  status : ControlStatus := .pending
  rules : List String := []
  notes : Option String := none
  children : List PolicyControl := []
deriving Inhabited

/-- A policy. -/
structure ControlFile where
  policy : String
  title : Option String
  id : String
  version : Option String
  source : Option String
  controls : List PolicyControl
deriving Inhabited

namespace PolicyControl

/-- The rules that the control selects, without the overrides. -/
def ruleIds (control : PolicyControl) : List String := Override.ruleIds control.rules

mutual

/-- The control and all below it, each without those below. -/
def flatten : PolicyControl → List PolicyControl
  | ⟨id, title, levels, status, rules, notes, children⟩ =>
    ⟨id, title, levels, status, rules, notes, []⟩ :: flattenAll children

/-- The controls of a list and all below them. -/
def flattenAll : List PolicyControl → List PolicyControl
  | [] => []
  | control :: others => control.flatten ++ flattenAll others

end

open Compliance.Yaml in
/-- A control as a record, with a reading of the controls below it. -/
def readWith (readChild : Node → Reading PolicyControl) : Yaml.Reader PolicyControl :=
  fun document room node => do
    let fields ← Record.fields document room node
    let readText := Record.readText
    let id ← Record.required "id" readText document room fields
    let title ← Record.withDefault "title" none (Record.readOptional readText) document room fields
    let levels ← Record.withDefault "levels" [] (Record.readList readText) document room fields
    let status ←
      Record.withDefault "status" .pending (Record.readWord ControlStatus.words .unknown)
        document room fields
    let rules ← Record.withDefault "rules" [] (Record.readList readText) document room fields
    let notes ← Record.withDefault "notes" none (Record.readOptional readText) document room fields
    let nodes ← Record.withDefault "controls" [] Record.items document room fields
    let children ← nodes.mapM readChild
    return { id, title, levels, status, rules, notes, children }

open Compliance.Yaml in
/-- A control as a record. The controls below it are two levels deeper, inside a list. -/
def read (document : Document) : (room : Nat) → Node → Reading PolicyControl
  | room + 2, node => readWith (read document room) document (room + 2) node
  | room, node => readWith (fun _ => throw .tooDeep) document room node

end PolicyControl

namespace ControlFile

/-- The controls at all levels, each before those below it. -/
def flattened (file : ControlFile) : List PolicyControl := PolicyControl.flattenAll file.controls

open Compliance.Yaml in
/-- A policy as a record. -/
def read : Yaml.Reader ControlFile := fun document room node => do
  let fields ← Record.fields document room node
  let readText := Record.readText
  let readOptional := Record.readOptional readText
  let policy ← Record.required "policy" readText document room fields
  let title ← Record.withDefault "title" none readOptional document room fields
  let id ← Record.required "id" readText document room fields
  let version ← Record.withDefault "version" none readOptional document room fields
  let source ← Record.withDefault "source" none readOptional document room fields
  let controls ←
    Record.withDefault "controls" [] (Record.readList PolicyControl.read) document room fields
  return { policy, title, id, version, source, controls }

end ControlFile

end Compliance
