import Compliance.Product
import Compliance.Proofs.Except
import Compliance.Proofs.Table

/-!
# The properties of a product

A definition sets the properties of a product, and build configurations add more of them
one after the other.  Nothing that is set is ever set again, so a property is what the
definition says, or else what the first configuration says that speaks of it
(`property?_foldlM_withBuildConfig`).  The identifier and the directory of the product
come from properties that the definition sets, and for this reason they stay in accord
with these properties whatever is merged (`isEnvironment_of_parse`).

Two keys of one mapping may read alike if they differ in their tags.  Then the last one
counts in a definition and the first one in a configuration.
-/

namespace Compliance.Product

open List Compliance.Yaml

/-! ## What a mapping says -/

section

variable {entries : Entries} {key value : String}

/-- An entry gives a value to a key: the key is that text, under tags or not, and the value is a
scalar. -/
def Gives (entry : Value × Value) (key value : String) : Prop :=
  entry.1.text? = some key ∧ entry.2.scalarText? = some value

/-- A definition sets a key to what the last of its entries gives to it. -/
def Defines (entries : Entries) (key value : String) : Prop :=
  ∃ before entry after, entries = before ++ entry :: after ∧ Gives entry key value ∧
    ∀ later ∈ after, ∀ other, ¬ Gives later key other

/-- A configuration offers for a key what the first of its entries gives to it. -/
def Offers (entries : Entries) (key value : String) : Prop :=
  ∃ before entry after, entries = before ++ entry :: after ∧ Gives entry key value ∧
    ∀ earlier ∈ before, ∀ other, ¬ Gives earlier key other

private theorem scalarEntry_eq_some_iff {entry : Value × Value} :
    (do return (← entry.1.text?, ← entry.2.scalarText?) : Option (String × String)) =
      some (key, value) ↔ Gives entry key value := by
  unfold Gives
  cases entry.1.text? <;> cases entry.2.scalarText? <;> simp

theorem get?_ofList_scalarEntries_iff :
    (Table.ofList (scalarEntries entries)).get? key = some value ↔ Defines entries key value := by
  rw [scalarEntries, Table.get?_ofList_filterMap_eq_some_iff, Defines]
  simp only [ne_eq, scalarEntry_eq_some_iff]

theorem lookup_scalarEntries_iff :
    (scalarEntries entries).lookup key = some value ↔ Offers entries key value := by
  rw [scalarEntries, Table.lookup_filterMap_eq_some_iff, Offers]
  simp only [ne_eq, scalarEntry_eq_some_iff]

end

/-! ## The definition -/

section

variable {text name : String} {directory : Path} {product : Product} {entries : Entries}

theorem parse_eq_ok_iff :
    parse text name directory = .ok product ↔
      ∃ entries, Value.parse text = .ok (.mapping entries) ∧
        ofEntries entries name directory = .ok product := by
  rw [parse, Except.mapError_eq_ok_iff]
  cases Value.parse text with
  | error fault => simp
  | ok value => cases value <;> simp

/-- A product has what its definition sets, with its identifier in the place of what the definition
says about that. -/
theorem exists_of_ofEntries_eq_ok (hproduct : ofEntries entries name directory = .ok product) :
    ∃ root, Defines entries "benchmark_root" root ∧
      product.benchmarkRoot = directory.join root ∧
      product.properties =
        (Table.ofList (scalarEntries entries)).insert "product" product.id := by
  simp only [ofEntries] at hproduct
  split at hproduct
  · cases hproduct
  · rename_i root hroot
    obtain rfl := Except.ok.inj hproduct
    exact ⟨root, get?_ofList_scalarEntries_iff.mp hroot, rfl, rfl⟩

/-- Every property but the identifier is what the definition sets it to. -/
theorem property?_of_ofEntries_eq_ok (hproduct : ofEntries entries name directory = .ok product)
    {key : String} (hkey : key ≠ "product") :
    product.property? key = (Table.ofList (scalarEntries entries)).get? key := by
  obtain ⟨-, -, -, hproperties⟩ := exists_of_ofEntries_eq_ok hproduct
  rw [property?, hproperties, Table.get?_insert, if_neg hkey]

end

/-! ## Merging configurations -/

section

variable {files : FileSystem} {product merged : Product} {path : Path} {paths : List Path}

/-- The entries of a build configuration, of which there are none unless it is a mapping. -/
def configurationEntries (files : FileSystem) (path : Path) : Entries :=
  match files.readText path with
  | .error _ => []
  | .ok text =>
    match Value.parse text with
    | .ok (.mapping entries) => entries
    | _ => []

/-- A build configuration sets a key for which nothing is set yet: it is a mapping that offers a
value for it. -/
def Configures (files : FileSystem) (path : Path) (key value : String) : Prop :=
  ∃ text entries, files.readText path = .ok text ∧
    Value.parse text = .ok (.mapping entries) ∧ Offers entries key value

theorem lookup_configurationEntries_iff {key value : String} :
    (scalarEntries (configurationEntries files path)).lookup key = some value ↔
      Configures files path key value := by
  unfold configurationEntries Configures
  cases hread : files.readText path with
  | error fault => simp [scalarEntries]
  | ok text =>
      cases hparse : Value.parse text with
      | error fault => simp [scalarEntries, hparse]
      | ok content => cases content <;> simp [scalarEntries, hparse, ← lookup_scalarEntries_iff]

/-- A configuration that is read adds its entries, whatever they are. -/
theorem eq_addEntries_of_withBuildConfig
    (hmerged : product.withBuildConfig files path = .ok merged) :
    merged = product.addEntries (configurationEntries files path) := by
  obtain ⟨text, hread, hrest⟩ := Except.bind_eq_ok_iff.mp hmerged
  have htext : files.readText path = .ok text := Except.mapError_eq_ok_iff.mp hread
  cases hparse : Value.parse text with
  | error fault => simp [hparse] at hrest
  | ok value =>
      rw [hparse] at hrest
      simp only [configurationEntries, htext, hparse]
      cases value <;> exact (Except.ok.inj hrest).symm

/-- A configuration that is no mapping changes nothing. -/
theorem withBuildConfig_of_not_mapping {text : String} {value : Value}
    (hread : files.readText path = .ok text) (hparse : Value.parse text = .ok value)
    (hvalue : ∀ entries, value ≠ .mapping entries) :
    product.withBuildConfig files path = .ok product := by
  rw [withBuildConfig, FileSystem.readRequired, hread]
  simp only [Except.mapError, Except.ok_bind, hparse]
  cases value with
  | mapping entries => exact absurd rfl (hvalue entries)
  | _ => rfl

/-- What is set stays, and of what a configuration offers the rest is added. -/
theorem property?_addEntries (product : Product) (entries : Entries) (key : String) :
    (product.addEntries entries).property? key =
      (product.property? key).or ((scalarEntries entries).lookup key) :=
  Table.get?_foldl_insertNew _ _ _

/-- Merging keeps the identifier and the directory, and every property that is set; any other one
is taken from the first configuration that offers a value for it. -/
theorem property?_foldlM_withBuildConfig
    (hmerged : paths.foldlM (withBuildConfig files) product = .ok merged) :
    merged.id = product.id ∧ merged.benchmarkRoot = product.benchmarkRoot ∧
      ∀ key, merged.property? key = (product.property? key).or
        (paths.findSome? fun path =>
          (scalarEntries (configurationEntries files path)).lookup key) := by
  induction paths generalizing product with
  | nil =>
      obtain rfl := Except.ok.inj hmerged
      simp
  | cons path others ih =>
      rw [foldlM_cons] at hmerged
      obtain ⟨next, hnext, hothers⟩ := Except.bind_eq_ok_iff.mp hmerged
      obtain rfl := eq_addEntries_of_withBuildConfig hnext
      obtain ⟨hid, hroot, hproperties⟩ := ih hothers
      refine ⟨hid, hroot, fun key => ?_⟩
      rw [hproperties, property?_addEntries, findSome?_cons, Option.or_assoc]
      cases (scalarEntries (configurationEntries files path)).lookup key <;> rfl

end

/-! ## The environment -/

/-- The first configuration that sets a key sets it to a value. -/
def FirstConfigures (files : FileSystem) (paths : List Path) (key value : String) : Prop :=
  ∃ before path after, paths = before ++ path :: after ∧ Configures files path key value ∧
    ∀ earlier ∈ before, ∀ other, ¬ Configures files earlier key other

/-- What is true of a product into which build configurations have been merged.  The definition of
the product has some entries and stands in a directory. -/
structure IsEnvironment (files : FileSystem) (entries : Entries) (directory : Path)
    (paths : List Path) (product merged : Product) : Prop where
  id_eq : merged.id = product.id
  benchmarkRoot_eq : merged.benchmarkRoot = product.benchmarkRoot
  property_product : merged.property? "product" = some merged.id
  benchmarkRoot_eq_join : ∃ root, merged.property? "benchmark_root" = some root ∧
    merged.benchmarkRoot = directory.join root
  property_eq_some_iff : ∀ key, key ≠ "product" → ∀ value,
    merged.property? key = some value ↔
      Defines entries key value ∨
      (∀ other, ¬ Defines entries key other) ∧ FirstConfigures files paths key value
  property_eq_none_iff : ∀ key, key ≠ "product" →
    (merged.property? key = none ↔
      (∀ value, ¬ Defines entries key value) ∧
      ∀ path ∈ paths, ∀ value, ¬ Configures files path key value)

section

variable {files : FileSystem} {paths : List Path} {key value : String}

theorem findSome?_configurationEntries_eq_some_iff :
    (paths.findSome? fun path => (scalarEntries (configurationEntries files path)).lookup key) =
      some value ↔ FirstConfigures files paths key value := by
  rw [findSome?_eq_some_iff, FirstConfigures]
  simp only [lookup_configurationEntries_iff, Option.eq_none_iff_forall_ne_some, ne_eq]

theorem findSome?_configurationEntries_eq_none_iff :
    (paths.findSome? fun path => (scalarEntries (configurationEntries files path)).lookup key) =
      none ↔ ∀ path ∈ paths, ∀ value, ¬ Configures files path key value := by
  rw [findSome?_eq_none_iff]
  simp only [← lookup_configurationEntries_iff, Option.eq_none_iff_forall_ne_some, ne_eq]

end

/-- A product that is read off a definition keeps its identifier and its directory through all
build configurations, and both agree with the properties they come from.  Every other property is
what the definition sets it to, or else what the first configuration sets it to that does so at
all; a configuration that is no mapping sets nothing. -/
theorem isEnvironment_of_parse {text name : String} {directory : Path} {product merged : Product}
    {files : FileSystem} {paths : List Path} (hproduct : parse text name directory = .ok product)
    (hmerged : paths.foldlM (withBuildConfig files) product = .ok merged) :
    (∃ entries, Value.parse text = .ok (.mapping entries) ∧
      IsEnvironment files entries directory paths product merged) ∧
    ∀ path content value, files.readText path = .ok content → Value.parse content = .ok value →
      (∀ entries, value ≠ .mapping entries) →
        ∀ other : Product, other.withBuildConfig files path = .ok other := by
  refine ⟨?_, fun path content value hread hparse hvalue other =>
    withBuildConfig_of_not_mapping hread hparse hvalue⟩
  obtain ⟨entries, hparse, hentries⟩ := parse_eq_ok_iff.mp hproduct
  obtain ⟨root, hroot, hdirectory, hproperties⟩ := exists_of_ofEntries_eq_ok hentries
  obtain ⟨hid, hbenchmarkRoot, hmergedProperties⟩ := property?_foldlM_withBuildConfig hmerged
  have hdefined : ∀ key, key ≠ "product" → merged.property? key =
      ((Table.ofList (scalarEntries entries)).get? key).or (paths.findSome? fun path =>
        (scalarEntries (configurationEntries files path)).lookup key) := by
    intro key hkey
    rw [hmergedProperties, property?_of_ofEntries_eq_ok hentries hkey]
  refine ⟨entries, hparse, hid, hbenchmarkRoot, ?_, ⟨root, ?_, ?_⟩, ?_, ?_⟩
  · have hproductId : product.property? "product" = some product.id := by
      rw [property?, hproperties, Table.get?_insert, if_pos rfl]
    rw [hmergedProperties, hproductId, Option.some_or, hid]
  · rw [hdefined _ (by decide), get?_ofList_scalarEntries_iff.mpr hroot, Option.some_or]
  · rw [hbenchmarkRoot, hdirectory]
  · intro key hkey value
    rw [hdefined key hkey, Option.or_eq_some_iff, get?_ofList_scalarEntries_iff,
      findSome?_configurationEntries_eq_some_iff, Option.eq_none_iff_forall_ne_some]
    simp only [ne_eq, get?_ofList_scalarEntries_iff]
  · intro key hkey
    rw [hdefined key hkey, Option.or_eq_none_iff, findSome?_configurationEntries_eq_none_iff,
      Option.eq_none_iff_forall_ne_some]
    simp only [ne_eq, get?_ofList_scalarEntries_iff]

/-! ## A product and three build configurations -/

namespace Sample

/-- The name of the product is no scalar, and so it is left to the configurations. -/
def productFile : String := "product: server\nbenchmark_root: guide\nfull_name: [a, b]"

def configurations : FileSystem :=
  { root := .directory [("list.yml", .file (some "- full_name")),
    ("first.yml", .file (some "full_name: First\nproduct: other\nbenchmark_root: /")),
    ("second.yml", .file (some "full_name: Second"))], working := [] }

def configured : List Path := ["list.yml", "first.yml", "second.yml"]

end Sample

theorem isEnvironment_of_three_configurations :
    ∃ product merged, parse Sample.productFile "rhel" "/products" = .ok product ∧
      Sample.configured.foldlM (withBuildConfig Sample.configurations) product = .ok merged ∧
      (merged.id, merged.benchmarkRoot, merged.property? "full_name") =
        ("server", RawText.ofText "/products/guide", some "First") ∧
      ∃ entries, Value.parse Sample.productFile = .ok (.mapping entries) ∧
        IsEnvironment Sample.configurations entries "/products" Sample.configured product
          merged := by
  have hseen : (parse Sample.productFile "rhel" "/products" >>= fun product =>
      Sample.configured.foldlM (withBuildConfig Sample.configurations) product).toOption.map
        (fun merged => (merged.id, merged.benchmarkRoot, merged.property? "full_name")) =
        some ("server", RawText.ofText "/products/guide", some "First") := by
    decide +kernel
  obtain ⟨merged, hsteps, hviews⟩ := Except.exists_ok_of_map_toOption_eq_some hseen
  obtain ⟨product, hproduct, hmerged⟩ := Except.bind_eq_ok_iff.mp hsteps
  exact ⟨product, merged, hproduct, hmerged, hviews, (isEnvironment_of_parse hproduct hmerged).1⟩

end Compliance.Product
