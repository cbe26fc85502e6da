import Compliance.Component.Document
import Compliance.Proofs.Component.Timestamp
import Compliance.Proofs.Component.Uuid
import Compliance.Proofs.Json.Printer
import Compliance.Proofs.Json.Record

/-!
# Written definitions are read back

A record that is written as an object has the fields that it was written with
(`slots_present`), among them the lists that are left out when they are empty, so
that a record is read back if the values of its fields are.  This goes on from the
properties up to the definition.  Every list and every record needs one level of
nesting, nine in all, of which there are always enough.

The value of a document is also the value of its text (`parse_pretty`), and an
identifier and a time are what their texts are read as.  A definition is
therefore read back from the text of its document, whatever stands in it
(`parse_text_of_isValid`).
-/

namespace Compliance

open Compliance.Json

variable {room : Nat}

/-! ## Values of fields -/

theorem Uuid.read_text (uuid : Uuid) : Uuid.read room (.text uuid.text) = .ok uuid := by
  rw [Uuid.read, readText_text, Except.ok_bind, Uuid.parse_text]
  rfl

theorem Timestamp.read_text {time : Timestamp} (hvalid : time.isValid = true)
    (hfirst : 0 ≤ time.year) (hlast : time.year ≤ 9999) :
    Timestamp.read room (.text time.text) = .ok time := by
  rw [Timestamp.read, readText_text, Except.ok_bind, Timestamp.parse_text hvalid hfirst hlast]
  rfl

theorem ComponentType.read_word (type : ComponentType) :
    ComponentType.read room (.text type.word) = .ok type := by
  cases type <;> rfl

/-- The field for a list that is left out when it is empty. -/
def listSlot (items : List Json) : Option Json :=
  if items.isEmpty then none else some (.array items)

/-- A list that may be left out is read if its items are. -/
theorem withDefault_listSlot {α : Type} {fields : Slots} {place : Nat} {read : Reader α}
    {write : α → Json} {items : List α}
    (hplace : fields[place]? = some (listSlot (items.map write))) (hroom : 0 < room)
    (hitems : ∀ item ∈ items, read (room - 1) (write item) = .ok item) :
    fields.withDefault place [] (readList read) room = .ok items := by
  unfold Slots.withDefault
  rw [hplace]
  cases items with
  | nil => rfl
  | cons item others => exact readList_map hroom hitems

/-! ## Records -/

theorem Property.read_toJson (property : Property) (hroom : 1 ≤ room) :
    Property.read room property.toJson = .ok property := by
  have hslots : slots ["name", "value", "remarks"] room property.toJson =
      .ok [some (.text property.name), some (.text property.value),
        some (.text property.ruleSet)] :=
    slots_present rfl (by decide) rfl hroom
  rw [Property.read, hslots]
  rfl

theorem RequirementProperty.read_toJson (property : RequirementProperty) (hroom : 1 ≤ room) :
    RequirementProperty.read room property.toJson = .ok property := by
  have hslots : slots ["name", "value"] room property.toJson =
      .ok [some (.text property.name), some (.text property.value)] :=
    slots_present rfl (by decide) rfl hroom
  rw [RequirementProperty.read, hslots]
  rfl

theorem RequirementEntry.read_toJson (entry : RequirementEntry) (hroom : 3 ≤ room) :
    RequirementEntry.read room entry.toJson = .ok entry := by
  have hslots : slots ["uuid", "control-id", "description", "props"] room entry.toJson =
      .ok [some (.text entry.uuid.text), some (.text entry.controlId),
        some (.text entry.description),
        listSlot (entry.properties.map RequirementProperty.toJson)] :=
    slots_present (by cases entry.properties <;> rfl) (by decide) rfl (by omega)
  rw [RequirementEntry.read, hslots]
  simp only [Slots.required, List.getElem?_cons_zero, List.getElem?_cons_succ, Uuid.read_text,
    readText_text, Except.ok_bind]
  -- the list is entered one level below the requirement, and each property two levels below
  rw [withDefault_listSlot rfl (by omega)
    fun property _ => RequirementProperty.read_toJson property (by omega)]
  rfl

theorem ImplementationEntry.read_toJson (entry : ImplementationEntry) (hroom : 5 ≤ room) :
    ImplementationEntry.read room entry.toJson = .ok entry := by
  have hslots : slots ["uuid", "source", "description", "implemented-requirements"] room
      entry.toJson = .ok [some (.text entry.uuid.text), some (.text entry.source),
        some (.text entry.description),
        some (.array (entry.requirements.map RequirementEntry.toJson))] :=
    slots_present rfl (by decide) rfl (by omega)
  rw [ImplementationEntry.read, hslots]
  simp only [Slots.required, List.getElem?_cons_zero, List.getElem?_cons_succ, Uuid.read_text,
    readText_text, Except.ok_bind]
  rw [readList_map (by omega)
    fun requirement _ => RequirementEntry.read_toJson requirement (by omega)]
  rfl

theorem Component.read_toJson (component : Component) (hroom : 7 ≤ room) :
    Component.read room component.toJson = .ok component := by
  have hslots : slots ["uuid", "type", "title", "description", "props",
      "control-implementations"] room component.toJson =
      .ok [some (.text component.uuid.text), some (.text component.type.word),
        some (.text component.title), some (.text component.description),
        listSlot (component.properties.map Property.toJson),
        some (.array (component.implementations.map ImplementationEntry.toJson))] :=
    slots_present (by cases component.properties <;> rfl) (by decide) rfl (by omega)
  rw [Component.read, hslots]
  simp only [Slots.required, List.getElem?_cons_zero, List.getElem?_cons_succ, Uuid.read_text,
    ComponentType.read_word, readText_text, Except.ok_bind]
  rw [withDefault_listSlot rfl (by omega)
      fun property _ => Property.read_toJson property (by omega),
    readList_map (by omega)
      fun implementation _ => ImplementationEntry.read_toJson implementation (by omega)]
  rfl

/-! ## The document -/

section

variable {metadata : Metadata} {definition : ComponentDefinition}

theorem Metadata.read_toJson (hvalid : metadata.lastModified.isValid = true)
    (hfirst : 0 ≤ metadata.lastModified.year) (hlast : metadata.lastModified.year ≤ 9999)
    (hroom : 1 ≤ room) : Metadata.read room metadata.toJson = .ok metadata := by
  have hslots : slots ["title", "last-modified", "version", "oscal-version"] room
      metadata.toJson = .ok [some (.text metadata.title),
        some (.text metadata.lastModified.text), some (.text metadata.version),
        some (.text metadata.schemaVersion)] :=
    slots_present rfl (by decide) rfl hroom
  rw [Metadata.read, hslots]
  simp only [Slots.required, List.getElem?_cons_zero, List.getElem?_cons_succ,
    Timestamp.read_text hvalid hfirst hlast, readText_text, Except.ok_bind]
  rfl

theorem ComponentDefinition.read_toJson
    (hvalid : definition.metadata.lastModified.isValid = true)
    (hfirst : 0 ≤ definition.metadata.lastModified.year)
    (hlast : definition.metadata.lastModified.year ≤ 9999) (hroom : 9 ≤ room) :
    ComponentDefinition.read room definition.toJson = .ok definition := by
  have hslots : slots ["uuid", "metadata", "components"] room definition.toJson =
      .ok [some (.text definition.uuid.text), some definition.metadata.toJson,
        listSlot (definition.components.map Component.toJson)] :=
    slots_present (by cases definition.components <;> rfl) (by decide) rfl (by omega)
  have hmetadata : Metadata.read (room - 1) definition.metadata.toJson =
      .ok definition.metadata :=
    Metadata.read_toJson hvalid hfirst hlast (by omega)
  rw [ComponentDefinition.read, hslots]
  simp only [Slots.required, List.getElem?_cons_zero, List.getElem?_cons_succ, Uuid.read_text,
    hmetadata, Except.ok_bind]
  rw [withDefault_listSlot rfl (by omega)
    fun component _ => Component.read_toJson component (by omega)]
  rfl

/-- A definition of the years 0 to 9999 is read back from the text of its document. -/
theorem ComponentDefinition.parse_text_of_isValid
    (hvalid : definition.metadata.lastModified.isValid = true)
    (hfirst : 0 ≤ definition.metadata.lastModified.year)
    (hlast : definition.metadata.lastModified.year ≤ 9999) :
    ComponentDefinition.parse definition.text = .ok definition := by
  have hslots : slots ["component-definition"] nestingLimit
      (.object [member "component-definition" definition.toJson]) =
      .ok [some definition.toJson] :=
    slots_present rfl (by decide) rfl (by decide)
  rw [ComponentDefinition.parse, ComponentDefinition.text, parse_pretty, Except.ok_bind, hslots]
  exact ComponentDefinition.read_toJson hvalid hfirst hlast (by decide)

end

/-- A definition with lists that are left out at every place where one may be, with texts that need
escapes, and with a leap second in the first year that has four digits. -/
def Sample.leapDefinition : ComponentDefinition :=
  { uuid := .ofNat 0x0123456789abcdef
    metadata :=
      { title := "\"quoted\" \\ \t\n\x00\x1f\x7f"
        lastModified :=
          { year := 0, month := 2, day := 29, hour := 23, minute := 59, second := 60
            nanosecond := 120000 }
        version := ""
        schemaVersion := ComponentDefinition.schemaVersion }
    components :=
      [{ uuid := .zero, type := .validation, title := "é 😀", description := "null"
         properties := [], implementations := [] },
       { uuid := .ofRandom 255, type := .service, title := "[]", description := ""
         properties := [{ name := Property.ruleId, value := "uuid", ruleSet := "rule_set_0" }]
         implementations :=
          [{ uuid := .zero, source := "", description := "", requirements := [] },
           { uuid := .zero, source := "trestle://a/b.json", description := "/"
             requirements :=
              [{ uuid := .zero, controlId := "ac-1", description := "", properties := [] },
               { uuid := .zero, controlId := "", description := "\r"
                 properties := [{ name := "props", value := "\x08\x0c" }] }] }] }] }

/-- It is read back. -/
theorem ComponentDefinition.parse_text_leapDefinition :
    Sample.leapDefinition.metadata.lastModified.isValid = true ∧
      0 ≤ Sample.leapDefinition.metadata.lastModified.year ∧
      Sample.leapDefinition.metadata.lastModified.year ≤ 9999 ∧
      ComponentDefinition.parse Sample.leapDefinition.text = .ok Sample.leapDefinition :=
  ⟨by decide, by decide, by decide,
    ComponentDefinition.parse_text_of_isValid (by decide) (by decide) (by decide)⟩

end Compliance
