import Compliance.Component
import Compliance.Failure
import Compliance.Json.Printer
import Compliance.Json.Reader
import Compliance.Json.Record

/-!
# Documents of component definitions

A document is a JSON object with the definition as its only member.  Lists of
components and of properties are left out when they are empty.
-/

namespace Compliance

open Compliance.Json

/-- A member that is left out when its list is empty. -/
def listMember (name : String) (items : List Json) : List (Option String × Json) :=
  if items.isEmpty then [] else [member name (.array items)]

/-! ## Writing -/

/-- A property as a value. -/
def Property.toJson (property : Property) : Json :=
  .object [member "name" (.text property.name), member "value" (.text property.value),
    member "remarks" (.text property.ruleSet)]

/-- A property of a requirement as a value. -/
def RequirementProperty.toJson (property : RequirementProperty) : Json :=
  .object [member "name" (.text property.name), member "value" (.text property.value)]

/-- A requirement as a value. -/
def RequirementEntry.toJson (entry : RequirementEntry) : Json :=
  .object
    ([member "uuid" (.text entry.uuid.text), member "control-id" (.text entry.controlId),
        member "description" (.text entry.description)] ++
      listMember "props" (entry.properties.map RequirementProperty.toJson))

/-- A control implementation as a value. -/
def ImplementationEntry.toJson (entry : ImplementationEntry) : Json :=
  .object [member "uuid" (.text entry.uuid.text), member "source" (.text entry.source),
    member "description" (.text entry.description),
    member "implemented-requirements" (.array (entry.requirements.map RequirementEntry.toJson))]

/-- A component as a value. -/
def Component.toJson (component : Component) : Json :=
  .object
    ([member "uuid" (.text component.uuid.text), member "type" (.text component.type.word),
        member "title" (.text component.title),
        member "description" (.text component.description)] ++
      listMember "props" (component.properties.map Property.toJson) ++
      [member "control-implementations"
        (.array (component.implementations.map ImplementationEntry.toJson))])

/-- The metadata as a value. -/
def Metadata.toJson (metadata : Metadata) : Json :=
  .object [member "title" (.text metadata.title),
    member "last-modified" (.text metadata.lastModified.text),
    member "version" (.text metadata.version),
    member "oscal-version" (.text metadata.schemaVersion)]

/-- A definition as a value. -/
def ComponentDefinition.toJson (definition : ComponentDefinition) : Json :=
  .object
    ([member "uuid" (.text definition.uuid.text),
        member "metadata" definition.metadata.toJson] ++
      listMember "components" (definition.components.map Component.toJson))

/-- The text of the document of a definition. -/
def ComponentDefinition.text (definition : ComponentDefinition) : String :=
  (Json.object [member "component-definition" definition.toJson]).pretty

/-! ## Reading -/

/-- An identifier. -/
def Uuid.read : Reader Uuid := fun room value => do
  match Uuid.parse (← readText room value) with
  | some uuid => return uuid
  | none => .error (.invalid "malformed identifier")

/-- A time. -/
def Timestamp.read : Reader Timestamp := fun room value => do
  match Timestamp.parse (← readText room value) with
  | some time => return time
  | none => .error (.invalid "malformed time")

/-- The type with exactly the given word. -/
def ComponentType.ofWord (word : String) : Except Fault ComponentType :=
  if word = ComponentType.service.word then .ok .service
  else if word = ComponentType.validation.word then .ok .validation
  else .error (.invalid "unknown component type")

/-- A type: its word, or an object that has the word as its only name, with null. -/
def ComponentType.read : Reader ComponentType := fun room value =>
  match value with
  | .object [(some name, .null)] => if room = 0 then .error .tooDeep else ofWord name
  | value => do ofWord (← readText room value)

/-- A property as a record. -/
def Property.read : Reader Property := fun room value => do
  let slots ← slots ["name", "value", "remarks"] room value
  let name ← slots.required 0 "name" readText (room - 1)
  let value ← slots.required 1 "value" readText (room - 1)
  let ruleSet ← slots.required 2 "remarks" readText (room - 1)
  return { name, value, ruleSet }

/-- A property of a requirement as a record. -/
def RequirementProperty.read : Reader RequirementProperty := fun room value => do
  let slots ← slots ["name", "value"] room value
  let name ← slots.required 0 "name" readText (room - 1)
  let value ← slots.required 1 "value" readText (room - 1)
  return { name, value }

/-- A requirement as a record. -/
def RequirementEntry.read : Reader RequirementEntry := fun room value => do
  let slots ← slots ["uuid", "control-id", "description", "props"] room value
  let uuid ← slots.required 0 "uuid" Uuid.read (room - 1)
  let controlId ← slots.required 1 "control-id" readText (room - 1)
  let description ← slots.required 2 "description" readText (room - 1)
  let properties ← slots.withDefault 3 [] (readList RequirementProperty.read) (room - 1)
  return { uuid, controlId, description, properties }

/-- A control implementation as a record. -/
def ImplementationEntry.read : Reader ImplementationEntry := fun room value => do
  let slots ← slots ["uuid", "source", "description", "implemented-requirements"] room value
  let uuid ← slots.required 0 "uuid" Uuid.read (room - 1)
  let source ← slots.required 1 "source" readText (room - 1)
  let description ← slots.required 2 "description" readText (room - 1)
  let requirements ←
    slots.required 3 "implemented-requirements" (readList RequirementEntry.read) (room - 1)
  return { uuid, source, description, requirements }

/-- A component as a record. -/
def Component.read : Reader Component := fun room value => do
  let slots ←
    slots ["uuid", "type", "title", "description", "props", "control-implementations"] room value
  let uuid ← slots.required 0 "uuid" Uuid.read (room - 1)
  let type ← slots.required 1 "type" ComponentType.read (room - 1)
  let title ← slots.required 2 "title" readText (room - 1)
  let description ← slots.required 3 "description" readText (room - 1)
  let properties ← slots.withDefault 4 [] (readList Property.read) (room - 1)
  let implementations ←
    slots.required 5 "control-implementations" (readList ImplementationEntry.read) (room - 1)
  return { uuid, type, title, description, properties, implementations }

/-- The metadata as a record. -/
def Metadata.read : Reader Metadata := fun room value => do
  let slots ← slots ["title", "last-modified", "version", "oscal-version"] room value
  let title ← slots.required 0 "title" readText (room - 1)
  let lastModified ← slots.required 1 "last-modified" Timestamp.read (room - 1)
  let version ← slots.required 2 "version" readText (room - 1)
  let schemaVersion ← slots.required 3 "oscal-version" readText (room - 1)
  return { title, lastModified, version, schemaVersion }

/-- A definition as a record. -/
def ComponentDefinition.read : Reader ComponentDefinition := fun room value => do
  let slots ← slots ["uuid", "metadata", "components"] room value
  let uuid ← slots.required 0 "uuid" Uuid.read (room - 1)
  let metadata ← slots.required 1 "metadata" Metadata.read (room - 1)
  let components ← slots.withDefault 2 [] (readList Component.read) (room - 1)
  return { uuid, metadata, components }

/-- The definition that the text of a document holds. -/
def ComponentDefinition.parse (text : String) : Except Fault ComponentDefinition := do
  let slots ← slots ["component-definition"] nestingLimit (← Json.parse text)
  slots.required 0 "component-definition" ComponentDefinition.read (nestingLimit - 1)

/-! ## Files -/

/-- Writes the document of a definition to a file; missing directories above it are made. The files
come out as they are when the writing ends, well or not. -/
def ComponentDefinition.write (definition : ComponentDefinition) (files : FileSystem)
    (path : Path) : FileSystem × Option Failure :=
  let made := match path.parent? with
    | some parent =>
      let (files, fault) := files.makeDirectories (parent.octets.length + 1) parent
      (files, fault.map (Failure.unreadable parent))
    | none => (files, none)
  match made with
  | (files, some failure) => (files, some failure)
  | (files, none) =>
    let (files, fault) := files.writeText path definition.text
    (files, fault.map (Failure.unreadable path))

end Compliance
