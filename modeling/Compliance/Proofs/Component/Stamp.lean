import Compliance.Component

/-!
# Definitions up to identifiers and time

Two runs never give the same identifiers and hardly ever the same time, and both come
from the stamp of the run.  What is left of a definition without them does not depend on
the stamp (`unstamped_ofImplementation?`).
-/

namespace Compliance

def RequirementEntry.unstamped (entry : RequirementEntry) : RequirementEntry :=
  { entry with uuid := .zero }

def ImplementationEntry.unstamped (entry : ImplementationEntry) : ImplementationEntry :=
  { entry with
    uuid := .zero
    requirements := entry.requirements.map RequirementEntry.unstamped }

def Component.unstamped (component : Component) : Component :=
  { component with
    uuid := .zero
    implementations := component.implementations.map ImplementationEntry.unstamped }

/-- A definition with all identifiers and the time of the run taken out. -/
def ComponentDefinition.unstamped (definition : ComponentDefinition) : ComponentDefinition :=
  { uuid := .zero
    metadata := { definition.metadata with lastModified := default }
    components := definition.components.map Component.unstamped }

theorem map_unstamped_requirementEntries (first second : Stamp) (start : Nat)
    (requirements : List Requirement) :
    (requirementEntries first start requirements).map RequirementEntry.unstamped =
      (requirementEntries second start requirements).map RequirementEntry.unstamped := by
  -- the entries are numbered on, so that the start changes along the list
  induction requirements generalizing start with
  | nil => rfl
  | cons requirement others ih =>
      rw [requirementEntries, requirementEntries, List.map_cons, List.map_cons, ih]
      rfl

theorem unstamped_ofImplementation? (first second : Stamp) (type : ComponentType)
    (title description : String) (properties : List Property) (implementation : Implementation) :
    (Component.ofImplementation? first type title description properties implementation).map
        Component.unstamped =
      (Component.ofImplementation? second type title description properties implementation).map
        Component.unstamped := by
  have hentry : (ImplementationEntry.ofImplementation first implementation).unstamped =
      (ImplementationEntry.ofImplementation second implementation).unstamped := by
    simp only [ImplementationEntry.ofImplementation, ImplementationEntry.unstamped,
      map_unstamped_requirementEntries first second]
  rw [Component.ofImplementation?, Component.ofImplementation?]
  split
  · rfl
  · simp only [Option.map_some, Component.unstamped, List.map_cons, List.map_nil, hentry]

theorem unstamped_withComponent? (first second : Stamp) (title : String)
    {component other : Option Component}
    (hcomponent : component.map Component.unstamped = other.map Component.unstamped) :
    ((ComponentDefinition.new first title).withComponent? component).unstamped =
      ((ComponentDefinition.new second title).withComponent? other).unstamped := by
  have hlist : component.toList.map Component.unstamped = other.toList.map Component.unstamped := by
    rw [← Option.toList_map, ← Option.toList_map, hcomponent]
  simp only [ComponentDefinition.new, ComponentDefinition.withComponent?,
    ComponentDefinition.unstamped, List.nil_append, hlist]

end Compliance
