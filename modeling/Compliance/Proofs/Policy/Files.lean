import Compliance.Proofs.Files.Listing
import Compliance.Proofs.Policy.Library
import Compliance.Proofs.Table

/-!
# Which files the policies of a directory come from

Every control file that is seen below a directory, at any depth, goes one of two ways: it
holds a policy (`HoldsAt`), or it cannot be used (`FailsAt`).  A library keeps both in the
order of the paths.  Of the policies with one identifier it has the one that comes last, and
of the files that cannot be used it has all, each with its fault (`AccountsFor`).

A policy that is looked for and not found may be in a file that cannot be used.  So the
failure tells of all these files, and what it says of each begins with the path.

## Strategy

One file adds to one of the two stores and leaves the other alone.  Hence the first one is a
table of what the files say (`policies_foldl_addFound`), and the second one a list of their
faults (`invalid_foldl_addFound`).  Both follow the list of files, of which `ListsFiles` says
everything, and a table of items in order has what the last of them says.
-/

namespace Compliance

open List

namespace PolicyLibrary

/-! ## One file -/

theorem policyOf_eq_ok_iff {product : Product} {found : FileTree.Found} {policy : ControlFile} :
    policyOf product found = .ok policy ↔
      ∃ text, found.2 = .ok text ∧ ControlFile.parse (product.substitute text) = .ok policy := by
  rw [policyOf, Except.bind_eq_ok_iff]
  simp only [Except.mapError_eq_ok_iff]

theorem policyOf_eq_error_iff {product : Product} {found : FileTree.Found}
    {fault : ContentFault} :
    policyOf product found = .error fault ↔
      (∃ cause, found.2 = .error cause ∧ fault = .unreadable found.1 cause) ∨
        ∃ text, found.2 = .ok text ∧ ∃ cause,
          ControlFile.parse (product.substitute text) = .error cause ∧
          fault = cause.inFile found.1 := by
  rw [policyOf, Except.bind_eq_error_iff]
  simp only [Except.mapError_eq_error_iff, Except.mapError_eq_ok_iff]

/-- A text that is no policy is malformed. -/
theorem exists_malformed_of_parse_eq_error {text : String} {fault : ContentFault}
    (hparse : ControlFile.parse text = .error fault) :
    ∃ cause, fault = .malformed none cause := by
  unfold ControlFile.parse at hparse
  rw [Except.bind_eq_error_iff] at hparse
  rcases hparse with hread | ⟨file, -, hfile⟩
  · obtain ⟨cause, -, rfl⟩ := Except.mapError_eq_error_iff.mp hread
    exact ⟨cause, rfl⟩
  · cases file with
    | some file => cases hfile
    | none => exact ⟨_, (Except.error.inj hfile).symm⟩

/-- What is said of a fault begins with the path of a file, after the kind of the fault.  The path
stands there as far as its octets can be shown. -/
def Names (path : Path) (remark : Remark) : Prop :=
  ∀ wording, ∃ kind ∈ ["IO error: ", "Parse error: "], ∃ words,
    remark.message wording = kind ++ path.shown ++ ": " ++ words

theorem names_unreadable (path : Path) (fault : FileFault) :
    Names path (.content (.unreadable path fault)) := by
  intro wording
  refine ⟨"IO error: ", mem_cons_self, fault.message, ?_⟩
  unfold Remark.message ContentFault.message
  dsimp only

theorem names_malformed (path : Path) (cause : Yaml.Fault) :
    Names path (.content (.malformed (some path) cause)) := by
  intro wording
  refine ⟨"Parse error: ", mem_cons_of_mem _ mem_cons_self, wording.yaml cause, ?_⟩
  unfold Remark.message ContentFault.message atFile
  simp only [String.append_assoc]

theorem names_of_policyOf_eq_error {product : Product} {found : FileTree.Found}
    {fault : ContentFault} (hpolicy : policyOf product found = .error fault) :
    Names found.1 (.content fault) := by
  rcases policyOf_eq_error_iff.mp hpolicy with ⟨cause, -, rfl⟩ | ⟨text, -, cause, hparse, rfl⟩
  · exact names_unreadable found.1 cause
  · obtain ⟨cause, rfl⟩ := exists_malformed_of_parse_eq_error hparse
    exact names_malformed found.1 cause

/-! ## One file after the other -/

/-- The path and the fault of a file that cannot be used. -/
def faultOf? (product : Product) (found : FileTree.Found) : Option (Path × ContentFault) :=
  match policyOf product found with
  | .ok _ => none
  | .error fault => some (found.1, fault)

/-- The identifier and the policy of a file that can be used. -/
def entryOf? (product : Product) (found : FileTree.Found) : Option (String × ControlFile) :=
  (policyOf product found).toOption.map fun policy => (policy.id, policy)

theorem faultOf?_eq_some_iff {product : Product} {found : FileTree.Found} {path : Path}
    {fault : ContentFault} :
    faultOf? product found = some (path, fault) ↔
      policyOf product found = .error fault ∧ path = found.1 := by
  unfold faultOf?
  cases policyOf product found <;> simp [and_comm, eq_comm]

theorem entryOf?_eq_some_iff {product : Product} {found : FileTree.Found} {id : String}
    {policy : ControlFile} :
    entryOf? product found = some (id, policy) ↔
      policyOf product found = .ok policy ∧ policy.id = id := by
  unfold entryOf?
  cases policyOf product found with
  | error fault => simp [Except.toOption]
  | ok other =>
      simp only [Except.toOption, Option.map_some, Option.some.injEq, Prod.mk.injEq,
        Except.ok.injEq]
      constructor
      · rintro ⟨rfl, rfl⟩
        exact ⟨rfl, rfl⟩
      · rintro ⟨rfl, rfl⟩
        exact ⟨rfl, rfl⟩

/-- A file adds its policy, or itself to those that cannot be used. -/
theorem addFound_cases (product : Product) (library : PolicyLibrary) (file : FileTree.Found) :
    (∃ policy, entryOf? product file = some (policy.id, policy) ∧ faultOf? product file = none ∧
        addFound product library file = library.add policy) ∨
      ∃ fault, entryOf? product file = none ∧ faultOf? product file = some (file.1, fault) ∧
        addFound product library file =
          { library with invalid := library.invalid ++ [(file.1, fault)] } := by
  unfold entryOf? faultOf? addFound
  cases policyOf product file with
  | ok policy => exact .inl ⟨policy, rfl, rfl, rfl⟩
  | error fault => exact .inr ⟨fault, rfl, rfl, rfl⟩

theorem invalid_foldl_addFound (product : Product) (found : List FileTree.Found)
    (library : PolicyLibrary) :
    (found.foldl (addFound product) library).invalid =
      library.invalid ++ found.filterMap (faultOf? product) := by
  induction found generalizing library with
  | nil => simp
  | cons file others ih =>
      rw [foldl_cons, ih]
      obtain ⟨policy, -, hnone, hadd⟩ | ⟨fault, -, hsome, hadd⟩ :=
        addFound_cases product library file
      · rw [hadd, filterMap_cons_none hnone]
        rfl
      · rw [hadd, filterMap_cons_some hsome, append_assoc, singleton_append]

theorem policies_foldl_addFound (product : Product) (found : List FileTree.Found)
    (library : PolicyLibrary) :
    (found.foldl (addFound product) library).policies =
      (found.filterMap (entryOf? product)).foldl
        (fun table entry => table.insert entry.1 entry.2) library.policies := by
  induction found generalizing library with
  | nil => rfl
  | cons file others ih =>
      rw [foldl_cons, ih]
      obtain ⟨policy, hsome, -, hadd⟩ | ⟨fault, hnone, -, hadd⟩ :=
        addFound_cases product library file
      · rw [hadd, filterMap_cons_some hsome, foldl_cons]
        rfl
      · rw [hadd, filterMap_cons_none hnone]

/-! ## The files of a directory -/

/-- The control file at a place holds a policy. -/
def HoldsAt (product : Product) (tree : FileTree) (place : List RawText) (policy : ControlFile) :
    Prop :=
  FileTree.HasSuffix fileSuffix place ∧
    ∃ text, tree.get? place = some (.file (some text)) ∧
      ControlFile.parse (product.substitute text) = .ok policy

/-- The control file at a place cannot be used: it cannot be read, or its text holds no policy. -/
inductive FailsAt (product : Product) (tree : FileTree) (root : Path) (place : List RawText) :
    ContentFault → Prop
  | unreadable {cause : FileFault} (hsuffix : FileTree.HasSuffix fileSuffix place)
      (hreads : tree.ReadsAs place (.error cause)) :
      FailsAt product tree root place (.unreadable (root.below place) cause)
  | malformed {text : String} {cause : ContentFault}
      (hsuffix : FileTree.HasSuffix fileSuffix place)
      (hget : tree.get? place = some (.file (some text)))
      (hparse : ControlFile.parse (product.substitute text) = .error cause) :
      FailsAt product tree root place (cause.inFile (root.below place))

/-- A library accounts for each control file below a directory exactly once. -/
structure AccountsFor (product : Product) (tree : FileTree) (root : Path)
    (library : PolicyLibrary) : Prop where
  /-- A file holds a policy, or it is one of those that cannot be used. -/
  once : ∀ place content, FileTree.HasSuffix fileSuffix place → tree.ReadsAs place content →
      ((∃ policy, HoldsAt product tree place policy) ∧
          root.below place ∉ library.invalid.map (·.1)) ∨
        (¬ ∃ policy, HoldsAt product tree place policy) ∧
          (library.invalid.map (·.1)).count (root.below place) = 1
  /-- An identifier stands for the policy with this identifier whose file comes last. -/
  last : ∀ id policy, library.policy? id = some policy ↔
    policy.id = id ∧ ∃ place, HoldsAt product tree place policy ∧
      ∀ other otherPolicy, HoldsAt product tree other otherPolicy → otherPolicy.id = id →
        other ≠ place → (root.below other).Precedes (root.below place)
  absent : ∀ id, library.policy? id = none ↔
    ∀ place policy, HoldsAt product tree place policy → policy.id ≠ id
  invalid : ∀ path fault, (path, fault) ∈ library.invalid ↔
    ∃ place, FailsAt product tree root place fault ∧ path = root.below place
  increasing : library.invalid.Pairwise fun first second => first.1.Precedes second.1
  /-- The failure to find a policy tells of all files that cannot be used, in their order. -/
  failure : ∀ id failure, library.controls id = .error failure ↔
    (∀ place policy, HoldsAt product tree place policy → policy.id ≠ id) ∧
      failure = .policyNotFound id (library.invalid.map fun file => .content file.2)
  named : ∀ file ∈ library.invalid, Names file.1 (.content file.2)

section

variable {product : Product} {tree : FileTree} {root : Path} {found : List FileTree.Found}

theorem exists_holdsAt_of_mem (hlists : tree.ListsFiles fileSuffix root found)
    {file : FileTree.Found} (hfile : file ∈ found) {policy : ControlFile}
    (hpolicy : policyOf product file = .ok policy) :
    ∃ place, HoldsAt product tree place policy ∧ file.1 = root.below place := by
  obtain ⟨path, content⟩ := file
  obtain ⟨text, rfl, hparse⟩ := policyOf_eq_ok_iff.mp hpolicy
  obtain ⟨place, hsuffix, hreads, hpath⟩ := (hlists.complete _ _).mp hfile
  exact ⟨place, ⟨hsuffix, text, FileTree.readsAs_ok_iff.mp hreads, hparse⟩, hpath⟩

theorem HoldsAt.exists_mem (hlists : tree.ListsFiles fileSuffix root found)
    {place : List RawText} {policy : ControlFile} (hholds : HoldsAt product tree place policy) :
    ∃ file ∈ found, policyOf product file = .ok policy ∧ file.1 = root.below place := by
  obtain ⟨hsuffix, text, hget, hparse⟩ := hholds
  refine ⟨(root.below place, .ok text), ?_, ?_, rfl⟩
  · exact (hlists.complete _ _).mpr ⟨place, hsuffix, FileTree.readsAs_ok_iff.mpr hget, rfl⟩
  · exact policyOf_eq_ok_iff.mpr ⟨text, rfl, hparse⟩

theorem exists_failsAt_iff (hlists : tree.ListsFiles fileSuffix root found) {path : Path}
    {fault : ContentFault} :
    (∃ place, FailsAt product tree root place fault ∧ path = root.below place) ↔
      ∃ content, (path, content) ∈ found ∧ policyOf product (path, content) = .error fault := by
  constructor
  · rintro ⟨place, hfails, rfl⟩
    cases hfails with
    | @unreadable cause hsuffix hreads =>
        refine ⟨.error cause, (hlists.complete _ _).mpr ⟨place, hsuffix, hreads, rfl⟩, ?_⟩
        exact policyOf_eq_error_iff.mpr (.inl ⟨cause, rfl, rfl⟩)
    | @malformed text cause hsuffix hget hparse =>
        have hreads := FileTree.readsAs_ok_iff.mpr hget
        refine ⟨.ok text, (hlists.complete _ _).mpr ⟨place, hsuffix, hreads, rfl⟩, ?_⟩
        exact policyOf_eq_error_iff.mpr (.inr ⟨text, rfl, cause, hparse, rfl⟩)
  · rintro ⟨content, hfile, hpolicy⟩
    obtain ⟨place, hsuffix, hreads, rfl⟩ := (hlists.complete _ _).mp hfile
    refine ⟨place, ?_, rfl⟩
    rcases policyOf_eq_error_iff.mp hpolicy with ⟨cause, rfl, rfl⟩ | ⟨text, rfl, cause, hparse, rfl⟩
    · exact .unreadable hsuffix hreads
    · exact .malformed hsuffix (FileTree.readsAs_ok_iff.mp hreads) hparse

theorem HoldsAt.place_eq (hnamed : tree.IsWellNamed) {place other : List RawText}
    {policy otherPolicy : ControlFile} (hholds : HoldsAt product tree place policy)
    (hother : HoldsAt product tree other otherPolicy)
    (hpath : root.below place = root.below other) : place = other := by
  obtain ⟨-, text, hget, -⟩ := hholds
  obtain ⟨-, otherText, hotherGet, -⟩ := hother
  exact Path.eq_of_below_eq (hnamed.isName_of_get? hget) (hnamed.isName_of_get? hotherGet) hpath

/-! ## The library of a list of files -/

variable (product found) in
/-- The library that a list of files makes. -/
def ofFound : PolicyLibrary := found.foldl (addFound product) empty

theorem mem_invalid_ofFound_iff {path : Path} {fault : ContentFault} :
    (path, fault) ∈ (ofFound product found).invalid ↔
      ∃ content, (path, content) ∈ found ∧ policyOf product (path, content) = .error fault := by
  rw [ofFound, invalid_foldl_addFound]
  simp only [empty, nil_append, mem_filterMap, faultOf?_eq_some_iff]
  constructor
  · rintro ⟨⟨_, content⟩, hfile, hpolicy, rfl⟩
    exact ⟨content, hfile, hpolicy⟩
  · rintro ⟨content, hfile, hpolicy⟩
    exact ⟨(path, content), hfile, hpolicy, rfl⟩

theorem pairwise_invalid_ofFound (hlists : tree.ListsFiles fileSuffix root found) :
    (ofFound product found).invalid.Pairwise fun first second => first.1.Precedes second.1 := by
  rw [ofFound, invalid_foldl_addFound]
  refine pairwise_filterMap.mpr (hlists.increasing.imp ?_)
  rintro first second hprecedes ⟨path, fault⟩ hfirst ⟨otherPath, otherFault⟩ hsecond
  rw [(faultOf?_eq_some_iff.mp hfirst).2, (faultOf?_eq_some_iff.mp hsecond).2]
  exact hprecedes

theorem policy?_ofFound (id : String) :
    (ofFound product found).policy? id =
      (Table.ofList (found.filterMap (entryOf? product))).get? id := by
  rw [policy?, ofFound, policies_foldl_addFound]
  rfl

theorem policy?_ofFound_eq_some_iff (hlists : tree.ListsFiles fileSuffix root found) {id : String}
    {policy : ControlFile} :
    (ofFound product found).policy? id = some policy ↔
      ∃ file ∈ found, entryOf? product file = some (id, policy) ∧
        ∀ other ∈ found, (∃ otherPolicy, entryOf? product other = some (id, otherPolicy)) →
          other ≠ file → other.1.Precedes file.1 := by
  rw [policy?_ofFound, Table.get?_ofList_filterMap_eq_some_iff_of_pairwise hlists.increasing
    fun _ _ hprecedes => hprecedes.asymm]

theorem policy?_ofFound_eq_none_iff (hlists : tree.ListsFiles fileSuffix root found)
    {id : String} :
    (ofFound product found).policy? id = none ↔
      ∀ place policy, HoldsAt product tree place policy → policy.id ≠ id := by
  have hsome : (∃ policy, (ofFound product found).policy? id = some policy) ↔
      ∃ file ∈ found, ∃ policy, policyOf product file = .ok policy ∧ policy.id = id := by
    simp only [policy?_ofFound, Table.exists_get?_ofList_filterMap_iff, entryOf?_eq_some_iff]
  rw [Option.eq_none_iff_forall_ne_some, ← not_exists, hsome]
  constructor
  · rintro hnone place policy hholds rfl
    obtain ⟨file, hfile, hpolicy, -⟩ := hholds.exists_mem hlists
    exact hnone ⟨file, hfile, policy, hpolicy, rfl⟩
  · rintro hnone ⟨file, hfile, policy, hpolicy, hid⟩
    obtain ⟨place, hholds, -⟩ := exists_holdsAt_of_mem hlists hfile hpolicy
    exact hnone place policy hholds hid

theorem controls_eq_error_iff {library : PolicyLibrary} {id : String} {failure : Failure} :
    library.controls id = .error failure ↔
      library.policy? id = none ∧ failure = library.notFound id := by
  rw [controls]
  cases library.policy? id <;> simp [eq_comm]

/-! ## The library of a directory -/

theorem accountsFor_ofFound (hnamed : tree.IsWellNamed)
    (hlists : tree.ListsFiles fileSuffix root found) :
    AccountsFor product tree root (ofFound product found) where
  once := by
    intro place content hsuffix hreads
    have hfile : (root.below place, content) ∈ found :=
      (hlists.complete _ _).mpr ⟨place, hsuffix, hreads, rfl⟩
    cases hpolicy : policyOf product (root.below place, content) with
    | ok policy =>
        obtain ⟨text, rfl, hparse⟩ := policyOf_eq_ok_iff.mp hpolicy
        refine .inl ⟨⟨policy, hsuffix, text, FileTree.readsAs_ok_iff.mp hreads, hparse⟩, ?_⟩
        intro hmem
        obtain ⟨⟨_, fault⟩, hinvalid, rfl⟩ := mem_map.mp hmem
        obtain ⟨other, hother, herror⟩ := mem_invalid_ofFound_iff.mp hinvalid
        rw [hlists.eq_of_path_eq hother hfile rfl, hpolicy] at herror
        cases herror
    | error fault =>
        refine .inr ⟨?_, ?_⟩
        · rintro ⟨policy, hholds⟩
          obtain ⟨other, hother, hok, hpath⟩ := hholds.exists_mem hlists
          rw [hlists.eq_of_path_eq hother hfile hpath, hpolicy] at hok
          cases hok
        · have hinvalid : (root.below place, fault) ∈ (ofFound product found).invalid :=
            mem_invalid_ofFound_iff.mpr ⟨content, hfile, hpolicy⟩
          have hnodup : ((ofFound product found).invalid.map (·.1)).Nodup :=
            Path.nodup_of_pairwise_precedes (pairwise_invalid_ofFound hlists)
          exact count_eq_one_of_mem hnodup (mem_map_of_mem hinvalid)
  last := by
    intro id policy
    rw [policy?_ofFound_eq_some_iff hlists]
    constructor
    · rintro ⟨file, hfile, hentry, hothers⟩
      obtain ⟨hpolicy, hid⟩ := entryOf?_eq_some_iff.mp hentry
      obtain ⟨place, hholds, hpath⟩ := exists_holdsAt_of_mem hlists hfile hpolicy
      refine ⟨hid, place, hholds, ?_⟩
      intro other otherPolicy hother hotherId hne
      obtain ⟨otherFile, hotherFile, hotherPolicy, hotherPath⟩ := hother.exists_mem hlists
      rw [← hpath, ← hotherPath]
      refine hothers otherFile hotherFile
        ⟨otherPolicy, entryOf?_eq_some_iff.mpr ⟨hotherPolicy, hotherId⟩⟩ ?_
      rintro rfl
      exact hne (hother.place_eq hnamed hholds (hotherPath.symm.trans hpath))
    · rintro ⟨hid, place, hholds, hothers⟩
      obtain ⟨file, hfile, hpolicy, hpath⟩ := hholds.exists_mem hlists
      refine ⟨file, hfile, entryOf?_eq_some_iff.mpr ⟨hpolicy, hid⟩, ?_⟩
      rintro other hotherFile ⟨otherPolicy, hentry⟩ hne
      obtain ⟨hotherPolicy, hotherId⟩ := entryOf?_eq_some_iff.mp hentry
      obtain ⟨otherPlace, hother, hotherPath⟩ :=
        exists_holdsAt_of_mem hlists hotherFile hotherPolicy
      rw [hpath, hotherPath]
      refine hothers otherPlace otherPolicy hother hotherId ?_
      rintro rfl
      exact hne (hlists.eq_of_path_eq hotherFile hfile (hotherPath.trans hpath.symm))
  absent := by
    intro id
    exact policy?_ofFound_eq_none_iff hlists
  invalid := by
    intro path fault
    rw [mem_invalid_ofFound_iff, exists_failsAt_iff hlists]
  increasing := pairwise_invalid_ofFound hlists
  failure := by
    intro id failure
    rw [controls_eq_error_iff, policy?_ofFound_eq_none_iff hlists]
    rfl
  named := by
    rintro ⟨path, fault⟩ hmem
    obtain ⟨content, -, hpolicy⟩ := mem_invalid_ofFound_iff.mp hmem
    have hnames := names_of_policyOf_eq_error hpolicy
    exact hnames

/-- A library can be loaded from each directory, and accounts for each control file below it. -/
theorem load_accounts_for_every_file (product : Product) {files : FileSystem}
    {entries : FileTree.Entries} (hroot : files.find root = .ok (.directory entries))
    (hnamed : (FileTree.directory entries).IsWellNamed) :
    ∃ library, load files product root = .ok library ∧
      AccountsFor product ((FileTree.directory entries).seenUnder root) root library ∧
      ((FileTree.directory entries).FitsUnder root →
        AccountsFor product (.directory entries) root library) := by
  have hseen := hnamed.seenUnder root
  have hlists := FileTree.listsFiles_filesBelow hseen fileSuffix root
  have haccounts : AccountsFor product ((FileTree.directory entries).seenUnder root) root
      (ofFound product _) := accountsFor_ofFound hseen hlists
  have hscan := FileSystem.filesWithSuffix_of_find hroot fileSuffix
  refine ⟨_, load_eq_ok_iff.mpr ⟨_, hscan, rfl⟩, haccounts, fun hfits => ?_⟩
  rw [hnamed.seenUnder_eq_self hfits] at haccounts ⊢
  exact haccounts

end

/-! ## A directory with two files of one policy

The path of the last one is the lesser text, since a full stop is less than a slash.  Of the
other files one holds no policy, one is no text, and one is not looked at: it holds no policy
either, but its name is no text.
-/

namespace Sample

def unkempt : FileTree.Entries :=
  [(FileSystem.Sample.strayName, .file (some "policy: [")),
    ("z", .directory [("c.yml", .file none)]), ("notes.txt", .file (some "policy: [")),
    ("b.yml", .file (some "policy: [")),
    ("a.yml", .file (some "policy: Last\nid: base")),
    ("a", .directory [("x.yml", .file (some "policy: First\nid: base"))])]

def unkemptFiles : FileSystem :=
  { root := .directory [("controls", .directory unkempt)], working := [] }

theorem find_unkempt : unkemptFiles.find "controls" = .ok (.directory unkempt) := by rfl

theorem seenUnder_unkempt :
    (FileTree.directory unkempt).seenUnder "controls" = .directory unkempt := by rfl

theorem isWellNamed_unkempt : (FileTree.directory unkempt).IsWellNamed := by
  have hnames : ∀ name ∈ ["a", "a.yml", "b.yml", "c.yml", "notes.txt", "x.yml", "z"],
      Path.IsName (RawText.ofText name) := by decide
  have hstray : Path.IsName FileSystem.Sample.strayName ∧
      ∀ name ∈ ["z", "notes.txt", "b.yml", "a.yml", "a"],
        FileSystem.Sample.strayName ≠ RawText.ofText name := by decide
  simp only [forall_mem_cons] at hnames hstray
  simp [unkempt, FileTree.isWellNamed_directory_iff, hnames, hstray]

theorem filesBelow_unkempt :
    FileTree.filesBelow fileSuffix "controls" (.directory unkempt) =
      ([("controls/a/x.yml", .ok "policy: First\nid: base"),
        ("controls/a.yml", .ok "policy: Last\nid: base"),
        ("controls/b.yml", .ok "policy: ["),
        ("controls/z/c.yml", .error .notText)] : List FileTree.Found) := by
  have hends : FileTree.endsWith fileSuffix "a.yml" = true ∧
      FileTree.endsWith fileSuffix "b.yml" = true ∧ FileTree.endsWith fileSuffix "c.yml" = true ∧
      FileTree.endsWith fileSuffix "x.yml" = true ∧
      FileTree.endsWith fileSuffix "notes.txt" = false ∧
      FileTree.endsWith fileSuffix FileSystem.Sample.strayName = false := by decide
  have hpaths : (Path.join "controls" "a").join "x.yml" = "controls/a/x.yml" ∧
      Path.join "controls" "a.yml" = "controls/a.yml" ∧
      Path.join "controls" "b.yml" = "controls/b.yml" ∧
      (Path.join "controls" "z").join "c.yml" = "controls/z/c.yml" := by decide
  simp only [unkempt, FileTree.filesBelow, FileTree.filesOf, hends, if_true, Bool.false_eq_true,
    if_false, FileTree.inOrder_singleton, flatMap_singleton, hpaths]
  rw [FileTree.inOrder_eq_of_perm (reverse_perm _).symm (by decide)]
  rfl

theorem load_eq_ok_of_unkempt {library : PolicyLibrary}
    (hload : load unkemptFiles (.new "rhel" "guide") "controls" = .ok library) :
    (library.policy? "base").map (·.policy) = some "Last" ∧
      library.invalid.map (·.1) = (["controls/b.yml", "controls/z/c.yml"] : List Path) := by
  obtain ⟨found, hfound, rfl⟩ := load_eq_ok_iff.mp hload
  rw [FileSystem.filesWithSuffix_of_find find_unkempt, seenUnder_unkempt, filesBelow_unkempt]
    at hfound
  obtain rfl := Except.ok.inj hfound
  decide +kernel

end Sample

theorem load_unkempt :
    ∃ library, load Sample.unkemptFiles (.new "rhel" "guide") "controls" = .ok library ∧
      AccountsFor (.new "rhel" "guide") (.directory Sample.unkempt) "controls" library ∧
      (library.policy? "base").map (·.policy) = some "Last" ∧
      library.invalid.map (·.1) = (["controls/b.yml", "controls/z/c.yml"] : List Path) := by
  obtain ⟨library, hload, haccounts, -⟩ :=
    load_accounts_for_every_file (.new "rhel" "guide") Sample.find_unkempt
      Sample.isWellNamed_unkempt
  rw [Sample.seenUnder_unkempt] at haccounts
  obtain ⟨hlast, hinvalid⟩ := Sample.load_eq_ok_of_unkempt hload
  exact ⟨library, hload, haccounts, hlast, hinvalid⟩

/-- A library has the policy of each file whose name ends, in octets, with the suffix, or the path
of the file is among those that cannot be used. -/
def AccountsForOctets (product : Product) (files : FileSystem) (root : Path)
    (entries : FileTree.Entries) : Prop :=
  ∃ library, load files product root = .ok library ∧
    ∀ parents name text, Text.octets fileSuffix <:+ name.octets →
      (FileTree.directory entries).get? (parents ++ [name]) = some (.file (some text)) →
      (∃ policy, ControlFile.parse (product.substitute text) = .ok policy) ∨
        root.below (parents ++ [name]) ∈ library.invalid.map (·.1)

/-- Neither a file whose name is no text is accounted for, nor one whose path is too long. -/
theorem not_accountsForOctets_unkempt_and_low :
    ¬ AccountsForOctets (.new "rhel" "guide") Sample.unkemptFiles "controls" Sample.unkempt ∧
      ¬ AccountsForOctets (.new "rhel" "guide") (FileSystem.Sample.filesOf FileSystem.Sample.low)
        FileSystem.Sample.longRoot FileSystem.Sample.low := by
  have hfault : (ControlFile.parse
      ((Product.new "rhel" "guide").substitute "policy: [")).toOption = none := by
    decide +kernel
  constructor
  · rintro ⟨library, hload, haccounts⟩
    obtain ⟨-, hinvalid⟩ := Sample.load_eq_ok_of_unkempt hload
    rcases haccounts [] FileSystem.Sample.strayName "policy: [" ⟨[0xFF], rfl⟩ rfl with
      ⟨policy, hparse⟩ | hmem
    · rw [hparse] at hfault
      cases hfault
    · rw [hinvalid] at hmem
      exact absurd hmem (by decide)
  · rintro ⟨library, hload, haccounts⟩
    obtain ⟨found, hfound, rfl⟩ := load_eq_ok_iff.mp hload
    obtain rfl := Except.ok.inj (hfound.symm.trans FileSystem.Sample.filesWithSuffix_low)
    rcases haccounts ["sub"] "low.yml" "policy: [" ⟨Text.octets "low", rfl⟩ rfl with
      ⟨policy, hparse⟩ | hmem
    · rw [hparse] at hfault
      cases hfault
    · cases hmem

end PolicyLibrary

end Compliance
