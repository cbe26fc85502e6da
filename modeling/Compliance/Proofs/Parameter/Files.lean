import Compliance.Proofs.Files.Listing
import Compliance.Proofs.Parameter.Store
import Compliance.Proofs.Table

/-!
# Which files the parameters of a product come from

The store of a product holds a parameter for each identifier that some file defines, and
holds it as the last of these files in the order of the paths defines it
(`loadFrom_holds_last`).  A file that does not define a parameter has no part in this,
wherever it stands.  Among the options in one file it is the same: of the entries whose
keys read alike, the last one that has a scalar value counts.

## Strategy

Both are tables that are made from a list of items, of which some say what a key stands
for; what such a table holds is what the last of them says
(`Table.get?_ofList_filterMap_eq_some_iff`).  The files come in the order of their paths
(`FileTree.pairwise_filesBelow`), so that the last file in the list is the last one in this
order (`Table.get?_ofList_filterMap_eq_some_iff_of_pairwise`).
-/

namespace Compliance

open List

/-! ## What one file defines -/

/-- A string, a number or a truth value. -/
def Yaml.Value.IsScalar : Yaml.Value → Prop
  | .string _ | .integer _ | .number _ | .bool _ => True
  | _ => False

theorem Yaml.Value.isScalar_iff {value : Yaml.Value} :
    value.IsScalar ↔ ∃ text, value.scalarText? = some text := by
  cases value with
  | bool truth => cases truth <;> simp [IsScalar, scalarText?]
  | _ => simp [IsScalar, scalarText?]

namespace ParameterDefinition

open Compliance.Yaml

/-- The value of an option is the last scalar under a key that reads like its name. -/
def HasOption (entries : Entries) (name value : String) : Prop :=
  ∃ before key content after, entries = before ++ (key, content) :: after ∧
    key.scalarText? = some name ∧ content.scalarText? = some value ∧
    ∀ later ∈ after, later.1.scalarText? = some name → ¬ later.2.IsScalar

private theorem scalarOption_eq_some_iff {entry : Value × Value} {name value : String} :
    (do return (← entry.1.scalarText?, ← entry.2.scalarText?) : Option (String × String)) =
      some (name, value) ↔
      entry.1.scalarText? = some name ∧ entry.2.scalarText? = some value := by
  cases entry.1.scalarText? <;> cases entry.2.scalarText? <;> simp

theorem get?_optionsOf_mapping_iff {entries : Entries} {name value : String} :
    (optionsOf (some (.mapping entries))).get? name = some value ↔
      HasOption entries name value := by
  rw [optionsOf, scalarOptions, Table.get?_ofList_filterMap_eq_some_iff, HasOption]
  simp only [ne_eq, scalarOption_eq_some_iff, Prod.exists, Value.isScalar_iff]
  constructor
  · rintro ⟨before, key, content, after, hentries, ⟨hkey, hcontent⟩, hafter⟩
    refine ⟨before, key, content, after, hentries, hkey, hcontent, ?_⟩
    rintro later hlater hname ⟨other, hother⟩
    exact hafter later hlater other ⟨hname, hother⟩
  · rintro ⟨before, key, content, after, hentries, hkey, hcontent, hafter⟩
    refine ⟨before, key, content, after, hentries, ⟨hkey, hcontent⟩, ?_⟩
    rintro later hlater other ⟨hname, hother⟩
    exact hafter later hlater hname ⟨other, hother⟩

/-- An option is there if there is a scalar under a key that reads like its name. -/
theorem exists_get?_optionsOf_mapping_iff {entries : Entries} {name : String} :
    (∃ value, (optionsOf (some (.mapping entries))).get? name = some value) ↔
      ∃ entry ∈ entries, entry.1.scalarText? = some name ∧ entry.2.IsScalar := by
  rw [optionsOf, scalarOptions, Table.exists_get?_ofList_filterMap_iff]
  simp only [scalarOption_eq_some_iff, Value.isScalar_iff, exists_and_left]

/-- A definition can be read off a text that is a record whose options have a default value. -/
theorem parse_eq_ok_iff {text : String} {definition : ParameterDefinition} :
    parse text = .ok definition ↔
      ∃ description entries,
        readDocument (none, none) read text = .ok (description, some (.mapping entries)) ∧
        (∃ entry ∈ entries, entry.1.scalarText? = some defaultKey ∧ entry.2.IsScalar) ∧
        definition = ⟨cleaned (description.getD ""), optionsOf (some (.mapping entries))⟩ := by
  rw [parse, Except.bind_eq_ok_iff]
  simp only [Except.mapError_eq_ok_iff]
  constructor
  · rintro ⟨⟨description, options⟩, hread, hrest⟩
    simp only at hrest
    split at hrest
    · rename_i hcontains
      rw [Table.contains] at hcontains
      cases options with
      | none => cases hcontains
      | some value =>
          cases value with
          | mapping entries =>
              refine ⟨description, entries, hread, ?_, (Except.ok.inj hrest).symm⟩
              exact exists_get?_optionsOf_mapping_iff.mp (Option.isSome_iff_exists.mp hcontains)
          | _ => cases hcontains
    · cases hrest
  · rintro ⟨description, entries, hread, hdefault, rfl⟩
    refine ⟨(description, some (.mapping entries)), hread, ?_⟩
    have hcontains : (optionsOf (some (.mapping entries))).contains defaultKey = true :=
      Option.isSome_iff_exists.mpr (exists_get?_optionsOf_mapping_iff.mpr hdefault)
    simp only [hcontains, if_true]
    rfl

/-- What a file of a product defines: its text can be read once the placeholders are filled in, and
among the options is one for the default value. -/
structure Defines (product : Product) (text : String) (description : Option String)
    (entries : Entries) : Prop where
  read : readDocument (none, none) read (product.substitute text) =
    .ok (description, some (.mapping entries))
  chosen : ∃ entry ∈ entries, entry.1.scalarText? = some defaultKey ∧ entry.2.IsScalar

end ParameterDefinition

/-- A parameter as its definition describes it: of several options with one name the last counts. -/
structure Parameter.IsDescribedBy (parameter : Parameter) (id : String)
    (description : Option String) (entries : Yaml.Entries) : Prop extends
    parameter.IsDefined id where
  described : parameter.description = ParameterDefinition.cleaned (description.getD "")
  optional : ∀ name value, parameter.options.get? name = some value ↔
    ParameterDefinition.HasOption entries name value

namespace ParameterStore

open ParameterDefinition (Defines)

/-! ## The files of a store -/

theorem idOf_join_eq_some_iff (path : Path) {name : RawText} {id : String}
    (hname : Path.IsName name) :
    idOf (path.join name) = some id ↔ name = RawText.ofText (id ++ fileSuffix) := by
  have htake : ∀ stem : String, String.ofList ((stem ++ fileSuffix).toList.take
      ((stem ++ fileSuffix).length - fileSuffix.length)) = stem := by
    intro stem
    rw [← String.length_toList, ← String.length_toList, String.toList_append, length_append,
      Nat.add_sub_cancel, take_left, String.ofList_toList]
  rw [idOf, Path.fileName?_join path hname]
  simp only [Option.bind_eq_bind, Option.bind_some, Option.bind_eq_some_iff,
    RawText.text?_eq_some_iff]
  constructor
  · rintro ⟨text, rfl, hid⟩
    split at hid
    · rename_i hends
      obtain ⟨stem, hstem⟩ := FileTree.endsWith_iff.mp hends
      obtain rfl := RawText.ofText_inj.mp hstem
      rw [htake stem] at hid
      rw [Option.some.inj hid]
    · cases hid
  · rintro rfl
    refine ⟨_, rfl, ?_⟩
    rw [if_pos (FileTree.endsWith_iff.mpr ⟨id, rfl⟩), htake id]
    rfl

/-- A file defines a parameter if its name has the ending and its text can be read. -/
theorem parameterOf_eq_some_iff {product : Product} {found : FileTree.Found}
    {parameter : Parameter} :
    parameterOf product found = some parameter ↔
      ∃ id text description entries, idOf found.1 = some id ∧ found.2 = .ok text ∧
        Defines product text description entries ∧
        parameter = .ofDefinition id ⟨ParameterDefinition.cleaned (description.getD ""),
          ParameterDefinition.optionsOf (some (.mapping entries))⟩ := by
  rw [parameterOf]
  simp only [Option.bind_eq_bind, Option.bind_eq_some_iff, Except.toOption_eq_some_iff]
  constructor
  · rintro ⟨id, hid, text, htext, hrest⟩
    split at hrest
    · rename_i definition hparse
      obtain ⟨description, entries, hread, hchosen, rfl⟩ :=
        ParameterDefinition.parse_eq_ok_iff.mp hparse
      exact ⟨id, text, description, entries, hid, htext, ⟨hread, hchosen⟩,
        (Option.some.inj hrest).symm⟩
    · cases hrest
  · rintro ⟨id, text, description, entries, hid, htext, ⟨hread, hchosen⟩, rfl⟩
    refine ⟨id, hid, text, htext, ?_⟩
    rw [ParameterDefinition.parse_eq_ok_iff.mpr ⟨description, entries, hread, hchosen, rfl⟩]
    rfl

theorem isDescribedBy_of_parameterOf {product : Product} {found : FileTree.Found}
    {parameter : Parameter} (hfound : parameterOf product found = some parameter) :
    ∃ text description entries, found.2 = .ok text ∧ Defines product text description entries ∧
      parameter.IsDescribedBy parameter.id description entries := by
  obtain ⟨id, text, description, entries, -, htext, hdefines, hparameter⟩ :=
    parameterOf_eq_some_iff.mp hfound
  refine ⟨text, description, entries, htext, hdefines, isDefined_of_parameterOf hfound, ?_, ?_⟩
  · rw [hparameter]
    rfl
  · intro name value
    rw [hparameter]
    exact ParameterDefinition.get?_optionsOf_mapping_iff

def ofFound (product : Product) (found : List FileTree.Found) : ParameterStore :=
  (found.filterMap (parameterOf product)).foldl add ∅

private theorem ofFound_eq (product : Product) (found : List FileTree.Found) :
    ofFound product found = Table.ofList (found.filterMap fun file =>
      (parameterOf product file).map fun parameter => (parameter.id, parameter)) := by
  rw [ofFound, Table.ofList, ← map_filterMap, foldl_map]
  rfl

private theorem entryOf_eq_some_iff {product : Product} {file : FileTree.Found} {id : String}
    {parameter : Parameter} :
    ((parameterOf product file).map fun parameter => (parameter.id, parameter)) =
        some (id, parameter) ↔
      parameterOf product file = some parameter ∧ parameter.id = id := by
  rw [Option.map_eq_some_iff]
  constructor
  · rintro ⟨other, hother, heq⟩
    obtain ⟨rfl, rfl⟩ := Prod.mk.inj heq
    exact ⟨hother, rfl⟩
  · rintro ⟨hparameter, rfl⟩
    exact ⟨parameter, hparameter, rfl⟩

theorem exists_get_ofFound_iff {product : Product} {found : List FileTree.Found} {id : String} :
    (∃ parameter, (ofFound product found).get id = .ok parameter) ↔
      ∃ file ∈ found, ∃ parameter, parameterOf product file = some parameter ∧
        parameter.id = id := by
  simp only [get_eq_ok_iff, ofFound_eq, Table.exists_get?_ofList_filterMap_iff, entryOf_eq_some_iff]

/-- The last file that defines an identifier decides. -/
theorem get_ofFound_eq_ok_iff {product : Product} {found : List FileTree.Found}
    (hordered : found.Pairwise fun first second => first.1.Precedes second.1) {id : String}
    {parameter : Parameter} :
    (ofFound product found).get id = .ok parameter ↔
      ∃ file ∈ found, (parameterOf product file = some parameter ∧ parameter.id = id) ∧
        ∀ other ∈ found,
          (∃ otherParameter, parameterOf product other = some otherParameter ∧
            otherParameter.id = id) → other ≠ file → other.1.Precedes file.1 := by
  rw [get_eq_ok_iff, ofFound_eq, Table.get?_ofList_filterMap_eq_some_iff_of_pairwise hordered
    fun _ _ hprecedes => hprecedes.asymm]
  simp only [entryOf_eq_some_iff]

/-! ## The files of a tree -/

/-- The name of the file for an identifier. -/
def nameOf (id : String) : RawText := RawText.ofText (id ++ fileSuffix)

def DefinesAt (product : Product) (tree : FileTree) (id : String) (parents : List RawText)
    (description : Option String) (entries : Yaml.Entries) : Prop :=
  ∃ text, tree.get? (parents ++ [nameOf id]) = some (.file (some text)) ∧
    Defines product text description entries

/-- A store holds what the files below a directory define, as the last file for an identifier
describes it. -/
structure HoldsLast (product : Product) (tree : FileTree) (root : Path) (store : ParameterStore) :
    Prop where
  known : ∀ id, (∃ parameter, store.get id = .ok parameter) ↔
    ∃ parents description entries, DefinesAt product tree id parents description entries
  last : ∀ id parameter, store.get id = .ok parameter →
    ∃ parents description entries, DefinesAt product tree id parents description entries ∧
      parameter.IsDescribedBy id description entries ∧
      ∀ others otherDescription otherEntries,
        DefinesAt product tree id others otherDescription otherEntries → others ≠ parents →
          Path.Precedes (root.below (others ++ [nameOf id])) (root.below (parents ++ [nameOf id]))

section

variable {product : Product} {tree : FileTree} {root : Path}

theorem exists_found_of_definesAt (hnamed : tree.IsWellNamed) (root : Path) {id : String}
    {parents : List RawText} {description : Option String} {entries : Yaml.Entries}
    (hdefines : DefinesAt product tree id parents description entries) :
    ∃ found ∈ FileTree.filesBelow fileSuffix root tree, ∃ parameter,
      parameterOf product found = some parameter ∧ parameter.id = id ∧
      found.1 = root.below (parents ++ [nameOf id]) := by
  obtain ⟨text, hget, htext⟩ := hdefines
  have hname : Path.IsName (nameOf id) :=
    hnamed.isName_of_get? hget _ (mem_append_right _ (mem_singleton_self _))
  have hends : FileTree.endsWith fileSuffix (nameOf id) = true :=
    FileTree.endsWith_iff.mpr ⟨id, rfl⟩
  have hid : idOf (root.below (parents ++ [nameOf id])) = some id := by
    rw [Path.below_append_singleton]
    exact (idOf_join_eq_some_iff _ hname).mpr rfl
  have hfound : (root.below (parents ++ [nameOf id]), .ok text) ∈
      FileTree.filesBelow fileSuffix root tree :=
    (FileTree.mem_filesBelow_iff hnamed).mpr
      ⟨parents, _, hends, FileTree.readsAs_ok_iff.mpr hget, rfl⟩
  exact ⟨_, hfound, _,
    parameterOf_eq_some_iff.mpr ⟨id, text, description, entries, hid, rfl, htext, rfl⟩, rfl, rfl⟩

/-- What is found and defines a parameter is a file with the name for it. -/
theorem exists_definesAt_of_found (hnamed : tree.IsWellNamed) {found : FileTree.Found}
    (hfound : found ∈ FileTree.filesBelow fileSuffix root tree) {parameter : Parameter}
    (hparameter : parameterOf product found = some parameter) :
    ∃ parents description entries,
      DefinesAt product tree parameter.id parents description entries ∧
      parameter.IsDescribedBy parameter.id description entries ∧
      found.1 = root.below (parents ++ [nameOf parameter.id]) := by
  obtain ⟨parents, name, -, hreads, hpath⟩ := (FileTree.mem_filesBelow_iff hnamed).mp hfound
  obtain ⟨text, description, entries, htext, hdefines, hdescribed⟩ :=
    isDescribedBy_of_parameterOf hparameter
  rw [htext, FileTree.readsAs_ok_iff] at hreads
  have hname : Path.IsName name :=
    hnamed.isName_of_get? hreads _ (mem_append_right _ (mem_singleton_self _))
  obtain ⟨id, _, _, _, hid, -, -, hdefinition⟩ := parameterOf_eq_some_iff.mp hparameter
  rw [hpath, Path.below_append_singleton, idOf_join_eq_some_iff _ hname] at hid
  obtain rfl : parameter.id = id := by
    rw [hdefinition]
    rfl
  obtain rfl : name = nameOf parameter.id := hid
  exact ⟨parents, description, entries, ⟨text, hreads, hdefines⟩, hdescribed, hpath⟩

theorem holdsLast_ofFound (hnamed : tree.IsWellNamed) :
    HoldsLast product tree root
      (ofFound product (FileTree.filesBelow fileSuffix root tree)) := by
  constructor
  · intro id
    rw [exists_get_ofFound_iff]
    constructor
    · rintro ⟨found, hfound, parameter, hparameter, rfl⟩
      obtain ⟨parents, description, entries, hdefines, -, -⟩ :=
        exists_definesAt_of_found hnamed hfound hparameter
      exact ⟨parents, description, entries, hdefines⟩
    · rintro ⟨parents, description, entries, hdefines⟩
      obtain ⟨found, hfound, parameter, hparameter, hid, -⟩ :=
        exists_found_of_definesAt hnamed root hdefines
      exact ⟨found, hfound, parameter, hparameter, hid⟩
  · intro id parameter hget
    obtain ⟨found, hfound, ⟨hparameter, rfl⟩, hlast⟩ :=
      (get_ofFound_eq_ok_iff (FileTree.pairwise_filesBelow hnamed fileSuffix root)).mp hget
    obtain ⟨parents, description, entries, hdefines, hdescribed, hpath⟩ :=
      exists_definesAt_of_found hnamed hfound hparameter
    refine ⟨parents, description, entries, hdefines, hdescribed, ?_⟩
    intro others otherDescription otherEntries hothers hne
    obtain ⟨other, hother, otherParameter, hotherParameter, hid, hotherPath⟩ :=
      exists_found_of_definesAt hnamed root hothers
    rw [← hotherPath, ← hpath]
    refine hlast other hother ⟨otherParameter, hotherParameter, hid⟩ ?_
    rintro rfl
    obtain ⟨_, hget, _⟩ := hdefines
    obtain ⟨_, hotherGet, _⟩ := hothers
    have hplace := Path.eq_of_below_eq (hnamed.isName_of_get? hotherGet)
      (hnamed.isName_of_get? hget) (hotherPath.symm.trans hpath)
    exact hne (append_cancel_right hplace)

/-- The store of a product knows an identifier if some file below the directory defines it, and
holds the parameter as the last such file describes it.  No file makes the scan fail. -/
theorem loadFrom_holds_last {files : FileSystem} {entries : FileTree.Entries}
    (product : Product) (hroot : files.find root = .ok (.directory entries))
    (hnamed : (FileTree.directory entries).IsWellNamed) :
    ∃ store, loadFrom files product root = .ok store ∧
      HoldsLast product ((FileTree.directory entries).seenUnder root) root store ∧
      ((FileTree.directory entries).FitsUnder root →
        HoldsLast product (.directory entries) root store) := by
  have hholds : HoldsLast product ((FileTree.directory entries).seenUnder root) root
      (ofFound product _) := holdsLast_ofFound (hnamed.seenUnder root)
  refine ⟨_, ?_, hholds, fun hfits => ?_⟩
  · rw [loadFrom, FileSystem.filesWithSuffix_of_find hroot]
    rfl
  · rw [hnamed.seenUnder_eq_self hfits] at hholds ⊢
    exact hholds

end

/-! ## A limit that is defined several times

The last file has no text.  Of the other two the last one is in the directory whose name is the
greater one, although with the slash after it the path is the lesser text.
-/

namespace Sample

/-- Two of the keys read alike. -/
def keyedTwice : String := "options:\n  30: first\n  default: 1\n  \"30\": last"

def repeatedly : FileTree.Entries :=
  [("c", .directory [("limit.var", .file none)]),
    ("a-b", .directory [("limit.var", .file (some keyedTwice))]),
    ("a", .directory [("limit.var", .file (some "options:\n  default: 2"))])]

def repeatedFiles : FileSystem :=
  { root := .directory [("guide", .directory repeatedly)], working := [] }

theorem isWellNamed_repeatedly : (FileTree.directory repeatedly).IsWellNamed := by
  have hnames : ∀ name ∈ ["a", "a-b", "c", "limit.var"], Path.IsName (RawText.ofText name) := by
    decide
  simp only [forall_mem_cons] at hnames
  simp [repeatedly, FileTree.isWellNamed_directory_iff, hnames]

theorem filesBelow_repeatedly :
    FileTree.filesBelow fileSuffix "guide" (.directory repeatedly) =
      ([("guide/a/limit.var", .ok "options:\n  default: 2"),
        ("guide/a-b/limit.var", .ok keyedTwice),
        ("guide/c/limit.var", .error .notText)] : List FileTree.Found) := by
  have hends : FileTree.endsWith fileSuffix "limit.var" = true := by decide
  obtain ⟨ha, hab, hc⟩ :
      (Path.join "guide" "a").join "limit.var" = "guide/a/limit.var" ∧
        (Path.join "guide" "a-b").join "limit.var" = "guide/a-b/limit.var" ∧
        (Path.join "guide" "c").join "limit.var" = "guide/c/limit.var" := by decide
  simp only [repeatedly, FileTree.filesBelow, FileTree.filesOf, hends, if_true,
    FileTree.inOrder_singleton, flatMap_singleton, ha, hab, hc]
  rw [FileTree.inOrder_eq_of_perm (reverse_perm _).symm (by decide)]
  rfl

end Sample

theorem loadFrom_repeatedly :
    ∃ store, loadFrom Sample.repeatedFiles (.new "rhel" "guide") "guide" = .ok store ∧
      HoldsLast (.new "rhel" "guide") (.directory Sample.repeatedly) "guide" store ∧
      (store.get "limit").toOption.map (fun limit => (limit.default, limit.options.get? "30")) =
        some ("1", some "last") := by
  have hroot : Sample.repeatedFiles.find "guide" = .ok (.directory Sample.repeatedly) := by rfl
  have hseen : (FileTree.directory Sample.repeatedly).seenUnder "guide" =
      .directory Sample.repeatedly := by rfl
  obtain ⟨store, hload, hholds, -⟩ :=
    loadFrom_holds_last (.new "rhel" "guide") hroot Sample.isWellNamed_repeatedly
  rw [hseen] at hholds
  refine ⟨store, hload, hholds, ?_⟩
  rw [loadFrom, FileSystem.filesWithSuffix_of_find hroot, hseen] at hload
  obtain rfl := Except.ok.inj hload
  rw [Sample.filesBelow_repeatedly]
  decide +kernel

end ParameterStore

end Compliance
