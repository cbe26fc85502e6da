import Compliance.Parameter.Store
import Compliance.Proofs.Except

/-!
# What the store of a product holds

Whatever files lie below the directory of a product, its store holds parameters
as they are defined: each one is stored under its own identifier, its default
value is the value of one of its options, and no override has touched it.  This
holds of an empty store, and adding a parameter that is as it is defined keeps
it.
-/

namespace Compliance

/-- A parameter with an identifier as some definition describes it. -/
structure Parameter.IsDefined (parameter : Parameter) (id : String) : Prop where
  identified : parameter.id = id
  chosen : parameter.options.get? ParameterDefinition.defaultKey = some parameter.default
  untouched : parameter.source = .definition

/-- A definition has an option for the default value. -/
theorem ParameterDefinition.exists_default_of_parse {text : String}
    {definition : ParameterDefinition} (hparse : parse text = .ok definition) :
    ∃ value, definition.options.get? defaultKey = some value := by
  obtain ⟨⟨description, options⟩, -, hrest⟩ := Except.bind_eq_ok_iff.mp hparse
  simp only at hrest
  split at hrest
  · rename_i hcontains
    obtain rfl := Except.ok.inj hrest
    exact Option.isSome_iff_exists.mp hcontains
  · cases hrest

namespace ParameterStore

variable {files : FileSystem} {product : Product} {store : ParameterStore}

/-! ## Looking up a parameter -/

theorem get_eq_ok_iff {id : String} {parameter : Parameter} :
    store.get id = .ok parameter ↔ Table.get? store id = some parameter := by
  rw [get]
  cases Table.get? store id <;> simp

theorem get_eq_error_iff {id : String} {failure : Failure} :
    store.get id = .error failure ↔
      Table.get? store id = none ∧ failure = .parameterNotFound id := by
  rw [get]
  cases Table.get? store id <;> simp [eq_comm]

/-- What holds of all parameters of a store and of one that is added holds of all afterwards. -/
theorem forall_get?_add {holds : String → Parameter → Prop} {parameter : Parameter}
    (hstore : ∀ id stored, Table.get? store id = some stored → holds id stored)
    (hparameter : holds parameter.id parameter) :
    ∀ id stored, Table.get? (add store parameter) id = some stored → holds id stored := by
  intro id stored hget
  rw [add, Table.get?_insert] at hget
  split at hget
  · rename_i hid
    obtain rfl := Option.some.inj hget
    rw [hid]
    exact hparameter
  · exact hstore id stored hget

/-! ## Identifiers -/

/-- Every parameter of a store stands under its own identifier. -/
def IsKeyed (store : ParameterStore) : Prop :=
  ∀ id parameter, Table.get? store id = some parameter → parameter.id = id

theorem IsKeyed.add (hstore : store.IsKeyed) (parameter : Parameter) :
    (add store parameter).IsKeyed :=
  forall_get?_add hstore rfl

/-- A store to which parameters have been added one after the other has them under their
identifiers, and there is no other way to fill one. -/
theorem isKeyed_foldl_add (parameters : List Parameter) :
    IsKeyed (parameters.foldl ParameterStore.add ∅) := by
  apply List.foldlRecOn (motive := IsKeyed)
  · intro id parameter hget
    cases hget
  · intro store hstore parameter _
    exact hstore.add parameter

/-! ## Definitions -/

/-- All parameters of a store are as they are defined, under their identifiers. -/
def IsDefined (store : ParameterStore) : Prop :=
  ∀ id parameter, Table.get? store id = some parameter → parameter.IsDefined id

theorem isDefined_empty : IsDefined ∅ := by
  intro id parameter hget
  cases hget

theorem IsDefined.add (hstore : store.IsDefined) {parameter : Parameter}
    (hparameter : parameter.IsDefined parameter.id) : (add store parameter).IsDefined :=
  forall_get?_add hstore hparameter

/-- What a file defines is as it is defined. -/
theorem isDefined_of_parameterOf {found : FileTree.Found} {parameter : Parameter}
    (hfound : parameterOf product found = some parameter) :
    parameter.IsDefined parameter.id := by
  obtain ⟨id, -, hrest⟩ := Option.bind_eq_some_iff.mp hfound
  obtain ⟨text, -, hrest⟩ := Option.bind_eq_some_iff.mp hrest
  split at hrest
  · rename_i definition hparse
    obtain rfl := Option.some.inj hrest
    obtain ⟨value, hvalue⟩ := ParameterDefinition.exists_default_of_parse hparse
    refine ⟨rfl, ?_, rfl⟩
    simp [Parameter.ofDefinition, Parameter.new, hvalue]
  · cases hrest

/-- Adding what files define keeps a store as it is defined. -/
theorem isDefined_foldl_add {found : List FileTree.Found} (hstore : store.IsDefined) :
    ((found.filterMap (parameterOf product)).foldl add store).IsDefined := by
  induction found generalizing store with
  | nil => exact hstore
  | cons file others ih =>
      cases hfile : parameterOf product file with
      | none =>
          rw [List.filterMap_cons_none hfile]
          exact ih hstore
      | some parameter =>
          rw [List.filterMap_cons_some hfile, List.foldl_cons]
          exact ih (hstore.add (isDefined_of_parameterOf hfile))

/-- The parameters below any directory are as they are defined. -/
theorem isDefined_of_loadFrom {root : Path} (hload : loadFrom files product root = .ok store) :
    store.IsDefined := by
  obtain ⟨found, -, hstore⟩ := Except.bind_eq_ok_iff.mp hload
  obtain rfl := Except.ok.inj hstore
  exact isDefined_foldl_add isDefined_empty

end ParameterStore

end Compliance
