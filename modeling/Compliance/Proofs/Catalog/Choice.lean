import Compliance.Catalog.Profile
import Compliance.Proofs.Catalog.Flattening
import Compliance.Proofs.Catalog.Form
import Compliance.Proofs.Catalog.Reading
import Compliance.Proofs.Json.Printer
import Compliance.Proofs.Path

/-!
# The file that a profile resolves to

Two files may hold the catalogue of a profile.  One of them is passed over if it is not
there, or if its text is not JSON with an object under `catalog`; any other one settles the
matter, for better or for worse.  Each file does exactly one of the two
(`isPassedOver_or_settles`), so the profile resolves to what the first file settles that
is not passed over, and is not found if there is none.

Whether a text holds a catalogue and what it holds are told by two readings.  The first
takes the document for a value, in which the last of several members with a name counts;
the second takes it for a record, to which such members are a fault.  A file for which
they differ is not passed over: its fault is the result.

The first reading keeps the value whole, so it is also lost on JSON that no value can keep,
such as a number beyond the doubles.  A file with a catalogue is then passed over because of
something that the second reading would not even look at (`not_forall_lacksCatalog`).
-/

namespace Compliance

open Compliance.Json

/-! ## Texts that hold a catalogue -/

/-- A document is an object with an object under the name `catalog`; of several members with that
name the last one counts. -/
def Catalog.StandsIn (document : Json) : Prop :=
  ∃ before fields after, document = .object (before ++ (some "catalog", .object fields) :: after) ∧
    ∀ other ∈ after, other.1 ≠ some "catalog"

/-- A text is JSON with a catalogue. -/
def Catalog.HasCatalog (text : String) : Prop :=
  ∃ document, Json.parse text = .ok document ∧ StandsIn document

/-- Controls are those of the catalogue in a document: its controls in pre-order with their parts,
and the index of them knows the identifiers of the document. -/
structure Catalog.AreControlsOf (document : Json) (controls : List Control) : Prop where
  gathered : ∃ catalog, field? ["catalog"] "catalog" document = some catalog ∧
    GathersControls (Entry.group catalog).under controls
  known : ∀ id, (CatalogIndex.build controls).contains id = true ↔ DocumentCarries document id

/-- The value under a name is that of the last member with the name. -/
theorem Json.member?_object_eq_some_iff {name : String} {members : List (Option String × Json)}
    {value : Json} :
    (object members).member? name = some value ↔
      ∃ before after, members = before ++ (some name, value) :: after ∧
        ∀ other ∈ after, other.1 ≠ some name := by
  rw [member?, Option.map_eq_some_iff]
  simp only [List.find?_eq_some_iff_append, decide_eq_true_eq, Bool.not_eq_true',
    decide_eq_false_iff_not]
  constructor
  · rintro ⟨⟨_, _⟩, ⟨rfl, after, before, hmembers, hafter⟩, rfl⟩
    refine ⟨before.reverse, after.reverse, ?_, fun other hother => ?_⟩
    · rw [← List.reverse_reverse members, hmembers]
      simp
    · exact hafter other (List.mem_reverse.mp hother)
  · rintro ⟨before, after, rfl, hafter⟩
    refine ⟨(some name, value), ⟨rfl, after.reverse, before.reverse, by simp, ?_⟩, rfl⟩
    exact fun other hother => hafter other (List.mem_reverse.mp hother)

theorem Catalog.standsIn_iff {document : Json} :
    StandsIn document ↔ ∃ fields, document.member? "catalog" = some (.object fields) := by
  constructor
  · rintro ⟨before, fields, after, rfl, hafter⟩
    exact ⟨fields, member?_object_eq_some_iff.mpr ⟨before, after, rfl, hafter⟩⟩
  · rintro ⟨fields, hmember⟩
    cases document with
    | object members =>
        obtain ⟨before, after, rfl, hafter⟩ := member?_object_eq_some_iff.mp hmember
        exact ⟨before, fields, after, rfl, hafter⟩
    | _ => cases hmember

theorem Catalog.isDocument_eq_true_iff {text : String} :
    isDocument text = true ↔ ∃ document, Json.parse text = .ok document ∧
      isKeepable nestingLimit document = true ∧ StandsIn document := by
  have hmember : isDocument text = true ↔ ∃ document fields,
      Json.parseWhole text = .ok document ∧ document.member? "catalog" = some (.object fields) := by
    unfold isDocument
    cases Json.parseWhole text with
    | error fault => simp
    | ok document =>
        cases hvalue : document.member? "catalog" with
        | none => simp [hvalue]
        | some inner => cases inner <;> simp [hvalue]
  have hwhole : ∀ document, Json.parseWhole text = .ok document ↔
      Json.parse text = .ok document ∧ isKeepable nestingLimit document = true := by
    intro document
    rw [Json.parseWhole, Except.bind_eq_ok_iff]
    constructor
    · rintro ⟨value, hparse, hkept⟩
      split at hkept
      · rename_i hkeepable
        obtain rfl := Except.ok.inj hkept
        exact ⟨hparse, hkeepable⟩
      · cases hkept
    · rintro ⟨hparse, hkept⟩
      exact ⟨document, hparse, by rw [if_pos hkept]; rfl⟩
  simp only [hmember, hwhole, standsIn_iff, exists_and_left, and_assoc]

/-- A catalogue in a document that is kept is read if the document has the form of one. -/
theorem Catalog.exists_parse_iff {text : String} {document : Json}
    (hparse : Json.parse text = .ok document) (hkept : isKeepable nestingLimit document = true) :
    (∃ controls, parse text = .ok controls) ↔ IsDocumentRecord document := by
  rw [← exists_readDocument_iff hkept, parse, hparse]
  rfl

/-- What is read of a text are the controls of its document. -/
theorem Catalog.areControlsOf_of_parse {text : String} {document : Json} {controls : List Control}
    (hdocument : Json.parse text = .ok document) (hparse : parse text = .ok controls) :
    AreControlsOf document controls := by
  rw [parse, hdocument, Except.ok_bind] at hparse
  obtain ⟨catalog, hcatalog, hgroup⟩ := readDocument_eq_ok hparse
  exact ⟨⟨catalog, hcatalog, gathersControls_of_readGroup hgroup⟩,
    (contains_build_of_readDocument hparse).1⟩

namespace Profile

/-! ## What becomes of one file -/

section

variable {files : FileSystem} {path : Path}

/-- A file holds no catalogue: it is not there, or its text is not JSON with one. -/
inductive LacksCatalog (files : FileSystem) (path : Path) : Prop
  | noFile (hfind : ∀ content, files.find path ≠ .ok (.file content))
  | noCatalog {text : String} (hfind : files.find path = .ok (.file (some text)))
      (hcatalog : ¬ Catalog.HasCatalog text)

/-- A file is passed over: it holds no catalogue, or JSON that no value can keep. -/
inductive IsPassedOver (files : FileSystem) (path : Path) : Prop
  | lacking (hlacks : LacksCatalog files path)
  | unkept {text : String} {document : Json} (hfind : files.find path = .ok (.file (some text)))
      (hdocument : Json.parse text = .ok document)
      (hunkept : isKeepable nestingLimit document = false)

/-- What a file settles that is not passed over: its octets are no text, or its catalogue does not
have the form of one, or it has controls. -/
inductive Settles (files : FileSystem) (path : Path) : Except Failure (List Control) → Prop
  | notText (hfind : files.find path = .ok (.file none)) :
      Settles files path (.error (.unreadable path .notText))
  | faulty {text : String} {document : Json} {fault : Fault}
      (hfind : files.find path = .ok (.file (some text)))
      (hdocument : Json.parse text = .ok document)
      (hkept : isKeepable nestingLimit document = true) (hcatalog : Catalog.StandsIn document)
      (hform : ¬ Catalog.IsDocumentRecord document) (hparse : Catalog.parse text = .error fault) :
      Settles files path (.error (.json path (.json fault)))
  | controls {text : String} {document : Json} {controls : List Control}
      (hfind : files.find path = .ok (.file (some text)))
      (hdocument : Json.parse text = .ok document)
      (hkept : isKeepable nestingLimit document = true) (hcatalog : Catalog.StandsIn document)
      (hform : Catalog.IsDocumentRecord document)
      (hcontrols : Catalog.AreControlsOf document controls)
      (hparse : Catalog.parse text = .ok controls) : Settles files path (.ok controls)

theorem isFile_of_find_eq_file {content : Option String}
    (hfind : files.find path = .ok (.file content)) : files.isFile path = true := by
  rw [FileSystem.isFile, hfind]
  rfl

theorem readText_of_find_eq_file {text : String}
    (hfind : files.find path = .ok (.file (some text))) : files.readText path = .ok text := by
  rw [FileSystem.readText, hfind]
  rfl

/-- A file with a text is passed over if its text is none that a catalogue is looked for in. -/
theorem isPassedOver_of_isDocument {text : String}
    (hfind : files.find path = .ok (.file (some text)))
    (hnone : ¬ Catalog.isDocument text = true) : IsPassedOver files path := by
  by_cases hcatalog : Catalog.HasCatalog text
  · obtain ⟨document, hdocument, hstands⟩ := hcatalog
    refine .unkept hfind hdocument (Bool.eq_false_iff.mpr fun hkept => hnone ?_)
    exact Catalog.isDocument_eq_true_iff.mpr ⟨document, hdocument, hkept, hstands⟩
  · exact .lacking (.noCatalog hfind hcatalog)

theorem catalogAt?_eq_ok_none_of_isDocument {text : String}
    (hfind : files.find path = .ok (.file (some text)))
    (hnone : ¬ Catalog.isDocument text = true) : catalogAt? files path = .ok none := by
  have hread : files.readRequired path = .ok text := by
    rw [FileSystem.readRequired, readText_of_find_eq_file hfind]
    rfl
  rw [catalogAt?, if_pos (isFile_of_find_eq_file hfind), hread, Except.ok_bind, if_neg hnone]
  rfl

theorem catalogAt?_of_isPassedOver (hpassed : IsPassedOver files path) :
    catalogAt? files path = .ok none := by
  obtain (hnone | ⟨hfind, hcatalog⟩) | ⟨hfind, hparse, hunkept⟩ := hpassed
  · have hnofile : ¬ files.isFile path = true := by
      rw [FileSystem.isFile]
      cases htree : files.find path with
      | error fault => exact Bool.false_ne_true
      | ok tree =>
          cases tree with
          | directory entries => exact Bool.false_ne_true
          | other fault => exact Bool.false_ne_true
          | file content => exact absurd htree (hnone content)
    rw [catalogAt?, if_neg hnofile]
  · refine catalogAt?_eq_ok_none_of_isDocument hfind fun hdocument => hcatalog ?_
    obtain ⟨document, hparse, -, hstands⟩ := Catalog.isDocument_eq_true_iff.mp hdocument
    exact ⟨document, hparse, hstands⟩
  · refine catalogAt?_eq_ok_none_of_isDocument hfind fun hdocument => ?_
    obtain ⟨other, hother, hkept, -⟩ := Catalog.isDocument_eq_true_iff.mp hdocument
    obtain rfl := Except.ok.inj (hparse.symm.trans hother)
    rw [hunkept] at hkept
    cases hkept

/-- A text with a catalogue is read as one, and what that gives is all there is to it. -/
theorem catalogAt?_of_isDocument {text : String} (hfind : files.find path = .ok (.file (some text)))
    (hdocument : Catalog.isDocument text = true) :
    catalogAt? files path =
      ((Catalog.parse text).mapError fun fault => .json path (.json fault)).map some := by
  have hread : files.readRequired path = .ok text := by
    rw [FileSystem.readRequired, readText_of_find_eq_file hfind]
    rfl
  rw [catalogAt?, if_pos (isFile_of_find_eq_file hfind), hread, Except.ok_bind, if_pos hdocument]
  cases Catalog.parse text <;> rfl

theorem catalogAt?_of_settles {result : Except Failure (List Control)}
    (hsettles : Settles files path result) : catalogAt? files path = result.map some := by
  cases hsettles with
  | notText hfind =>
      rw [catalogAt?, if_pos (isFile_of_find_eq_file hfind), FileSystem.readRequired,
        FileSystem.readText, hfind]
      rfl
  | faulty hfind hdocument hkept hcatalog _ hparse =>
      rw [catalogAt?_of_isDocument hfind
        (Catalog.isDocument_eq_true_iff.mpr ⟨_, hdocument, hkept, hcatalog⟩), hparse]
      rfl
  | controls hfind hdocument hkept hcatalog _ _ hparse =>
      rw [catalogAt?_of_isDocument hfind
        (Catalog.isDocument_eq_true_iff.mpr ⟨_, hdocument, hkept, hcatalog⟩), hparse]
      rfl

theorem isPassedOver_or_settles (files : FileSystem) (path : Path) :
    IsPassedOver files path ∨ ∃ result, Settles files path result := by
  by_cases hfile : ∃ content, files.find path = .ok (.file content)
  · obtain ⟨_ | text, hfind⟩ := hfile
    · exact .inr ⟨_, .notText hfind⟩
    by_cases hdocument : Catalog.isDocument text = true
    · obtain ⟨document, hdocument, hkept, hcatalog⟩ := Catalog.isDocument_eq_true_iff.mp hdocument
      have hform := Catalog.exists_parse_iff hdocument hkept
      cases hparse : Catalog.parse text with
      | error fault =>
          refine .inr ⟨_, .faulty hfind hdocument hkept hcatalog (hform.not.mp ?_) hparse⟩
          simp [hparse]
      | ok controls =>
          exact .inr ⟨_, .controls hfind hdocument hkept hcatalog (hform.mp ⟨controls, hparse⟩)
            (Catalog.areControlsOf_of_parse hdocument hparse) hparse⟩
    · exact .inl (isPassedOver_of_isDocument hfind hdocument)
  · exact .inl (.lacking (.noFile (not_exists.mp hfile)))

end

/-! ## The first file that settles the matter -/

section

variable {files : FileSystem} {paths others : List Path} {path : Path}
  {result : Except Failure (List Control)}

theorem firstCatalog?_append_of_isPassedOver
    (hpaths : ∀ earlier ∈ paths, IsPassedOver files earlier) (others : List Path) :
    firstCatalog? files (paths ++ others) = firstCatalog? files others := by
  induction paths with
  | nil => rfl
  | cons path rest ih =>
      obtain ⟨hpath, hrest⟩ := List.forall_mem_cons.mp hpaths
      rw [List.cons_append, firstCatalog?, catalogAt?_of_isPassedOver hpath, Except.ok_bind]
      exact ih hrest

theorem firstCatalog?_cons_of_settles (hsettles : Settles files path result) :
    firstCatalog? files (path :: others) = result.map some := by
  rw [firstCatalog?, catalogAt?_of_settles hsettles]
  cases result <;> rfl

/-- Only files that are passed over never make a difference. -/
theorem firstCatalog?_cons_eq_iff :
    (∀ others, firstCatalog? files (path :: others) = firstCatalog? files others) ↔
      IsPassedOver files path := by
  constructor
  · intro hsame
    rcases isPassedOver_or_settles files path with hpassed | ⟨result, hsettles⟩
    · exact hpassed
    · -- with nothing after it, the file would have to settle that there is no catalogue
      have hnone := hsame []
      rw [firstCatalog?_cons_of_settles hsettles] at hnone
      cases result <;> cases hnone
  · exact fun hpassed others =>
      firstCatalog?_append_of_isPassedOver (List.forall_mem_singleton.mpr hpassed) others

/-- A list of files is passed over, or some file is the first one that settles the matter. -/
theorem forall_isPassedOver_or_exists_settles (files : FileSystem) (paths : List Path) :
    (∀ path ∈ paths, IsPassedOver files path) ∨
      ∃ before path after result, paths = before ++ path :: after ∧
        (∀ earlier ∈ before, IsPassedOver files earlier) ∧ Settles files path result := by
  induction paths with
  | nil => exact .inl fun path hpath => absurd hpath List.not_mem_nil
  | cons path rest ih =>
      rcases isPassedOver_or_settles files path with hpassed | ⟨result, hsettles⟩
      · rcases ih with hrest | ⟨before, later, after, result, rfl, hbefore, hsettles⟩
        · exact .inl (List.forall_mem_cons.mpr ⟨hpassed, hrest⟩)
        · exact .inr ⟨path :: before, later, after, result, rfl,
            List.forall_mem_cons.mpr ⟨hpassed, hbefore⟩, hsettles⟩
      · exact .inr ⟨[], path, rest, result, rfl, fun _ hnone => absurd hnone List.not_mem_nil,
          hsettles⟩

end

/-! ## What a profile resolves to -/

section

variable {files : FileSystem} {profile : Profile} {result : Except Failure (List Control)}

/-- What a profile resolves to: what the first of its files settles that is not passed over, or that
the profile is not found. -/
inductive IsResolution (files : FileSystem) (profile : Profile) :
    Except Failure (List Control) → Prop
  | settled {before after : List Path} {path : Path} {result : Except Failure (List Control)}
      (hcandidates : profile.candidates = before ++ path :: after)
      (hbefore : ∀ earlier ∈ before, IsPassedOver files earlier)
      (hsettles : Settles files path result) : IsResolution files profile result
  | notFound (hcandidates : ∀ path ∈ profile.candidates, IsPassedOver files path) :
      IsResolution files profile (.error (.profileNotFound profile.href profile.path))

theorem resolve_eq_of_isResolution (hresolution : IsResolution files profile result) :
    profile.resolve files = result := by
  cases hresolution with
  | settled hcandidates hbefore hsettles =>
      rw [resolve, hcandidates, firstCatalog?_append_of_isPassedOver hbefore,
        firstCatalog?_cons_of_settles hsettles]
      cases result <;> rfl
  | notFound hcandidates =>
      rw [resolve, ← List.append_nil profile.candidates,
        firstCatalog?_append_of_isPassedOver hcandidates]
      rfl

theorem exists_isResolution (files : FileSystem) (profile : Profile) :
    ∃ result, IsResolution files profile result := by
  rcases forall_isPassedOver_or_exists_settles files profile.candidates with
    hpassed | ⟨before, path, after, result, hcandidates, hbefore, hsettles⟩
  · exact ⟨_, .notFound hpassed⟩
  · exact ⟨result, .settled hcandidates hbefore hsettles⟩

theorem resolve_eq_iff : profile.resolve files = result ↔ IsResolution files profile result := by
  refine ⟨?_, resolve_eq_of_isResolution⟩
  rintro rfl
  obtain ⟨result, hresolution⟩ := exists_isResolution files profile
  rwa [resolve_eq_of_isResolution hresolution]

theorem resolve_eq_profileNotFound_iff {reference : String} {path : Path} :
    profile.resolve files = .error (.profileNotFound reference path) ↔
      reference = profile.href ∧ path = profile.path ∧
        ∀ candidate ∈ profile.candidates, IsPassedOver files candidate := by
  rw [resolve_eq_iff]
  constructor
  · intro hresolution
    cases hresolution with
    | settled _ _ hsettles => nomatch hsettles
    | notFound hcandidates => exact ⟨rfl, rfl, hcandidates⟩
  · rintro ⟨rfl, rfl, hcandidates⟩
    exact .notFound hcandidates

/-- The catalogue may stand beside the profile, if its path has a parent, or in its place. -/
theorem candidates_eq (profile : Profile) :
    (profile.path.parent? = none → profile.candidates = [profile.path]) ∧
    ∀ parent, profile.path.parent? = some parent →
      profile.candidates = [parent.join resolvedFile, profile.path] ∧
        (parent.join resolvedFile).steps =
          profile.path.steps.dropLast ++ [RawText.ofText resolvedFile] := by
  refine ⟨fun hparent => by simp [candidates, hparent], fun parent hparent => ⟨?_, ?_⟩⟩
  · simp [candidates, hparent]
  · rw [Path.steps_join parent (by decide), Path.steps_of_parent? hparent]

end

/-- A profile resolves to what the first of its files settles that is not passed over: a fault if
it has no text, a fault if its catalogue cannot be read, and the controls of its catalogue
otherwise.  Exactly the files that are missing or whose text holds no catalogue are passed over,
and the profile is not found exactly if all its files are. -/
theorem resolve_takes_first_settled (files : FileSystem) (profile : Profile) :
    ((profile.path.parent? = none → profile.candidates = [profile.path]) ∧
      ∀ parent, profile.path.parent? = some parent →
        profile.candidates = [parent.join resolvedFile, profile.path] ∧
          (parent.join resolvedFile).steps =
            profile.path.steps.dropLast ++ [RawText.ofText resolvedFile]) ∧
    (∀ path, (∀ others, firstCatalog? files (path :: others) = firstCatalog? files others) ↔
      IsPassedOver files path) ∧
    (∀ result, profile.resolve files = result ↔ IsResolution files profile result) ∧
    ∀ reference path, profile.resolve files = .error (.profileNotFound reference path) ↔
      reference = profile.href ∧ path = profile.path ∧
        ∀ candidate ∈ profile.candidates, IsPassedOver files candidate :=
  ⟨candidates_eq profile, fun _ => firstCatalog?_cons_eq_iff, fun _ => resolve_eq_iff,
    fun _ _ => resolve_eq_profileNotFound_iff⟩

/-! ## Profiles to look at -/

namespace Sample

/-- A document with two catalogues, of which the last one is an object. -/
def doubled : Json := .object [(some "catalog", .array []), (some "catalog", .object [])]

/-- A catalogue with one control. -/
def single : Json :=
  .object [(some "controls", .array [.object [(some "id", .text "ac-1")]])]

/-- The catalogue with one control, beside a number that is no double. -/
def boundless : Json :=
  .object [(some "catalog", single), (some "x", .number false 1 400)]

/-- Beside the first profile stands a list, and in its place the document with two catalogues.  The
other profiles have a file in their place alone. -/
def tree : FileSystem :=
  { root := .directory [
    ("p", .directory [("profile.json", .file (some doubled.pretty)),
      ("resolved-catalog.json", .file (some "[\"catalog\"]"))]),
    ("single.json", .file (some (object [(some "catalog", single)]).pretty)),
    ("boundless.json", .file (some boundless.pretty))], working := [] }

def profile (name : String) : Profile := Profile.ofName ("file://" ++ name) "vendor"

theorem isPassedOver_list : IsPassedOver tree "p/resolved-catalog.json" := by
  have hfind : tree.find "p/resolved-catalog.json" = .ok (.file (some "[\"catalog\"]")) := rfl
  exact isPassedOver_of_isDocument hfind (by decide +kernel)

/-- No file stands beside the profiles at the top. -/
theorem isPassedOver_none : IsPassedOver tree "resolved-catalog.json" := by
  refine .lacking (.noFile fun content hfind => ?_)
  have hnone : tree.find "resolved-catalog.json" = .error .notFound := rfl
  rw [hnone] at hfind
  cases hfind

/-- For the one reading the document holds a catalogue, and for the other it has a fault. -/
theorem settles_doubled : Settles tree "p/profile.json"
    (.error (.json "p/profile.json" (.json (.repeatedMember "catalog")))) := by
  have hfind : tree.find "p/profile.json" = .ok (.file (some doubled.pretty)) := rfl
  have hcatalog : Catalog.StandsIn doubled :=
    ⟨[(some "catalog", .array [])], [], [], rfl, fun _ hnone => absurd hnone List.not_mem_nil⟩
  have hform : ¬ Catalog.IsDocumentRecord doubled := by
    rintro ⟨⟨honce⟩, -⟩
    exact absurd (honce "catalog" (List.mem_singleton_self _)) (by decide)
  have hparse : Catalog.parse doubled.pretty = .error (.repeatedMember "catalog") := by
    rw [Catalog.parse, Json.parse_pretty]
    rfl
  exact .faulty hfind (Json.parse_pretty _) (by decide) hcatalog hform hparse

theorem settles_single : Settles tree "single.json" (.ok [.mk "ac-1" none none []]) := by
  have hfind : tree.find "single.json" =
      .ok (.file (some (object [(some "catalog", single)]).pretty)) := rfl
  have hparsed := Json.parse_pretty (object [(some "catalog", single)])
  have hcatalog : Catalog.StandsIn (object [(some "catalog", single)]) :=
    ⟨[], _, [], rfl, fun _ hnone => absurd hnone List.not_mem_nil⟩
  have hparse : Catalog.parse (object [(some "catalog", single)]).pretty =
      .ok [.mk "ac-1" none none []] := by
    rw [Catalog.parse, hparsed]
    rfl
  exact .controls hfind hparsed (by decide) hcatalog
    ((Catalog.exists_parse_iff hparsed (by decide)).mp ⟨_, hparse⟩)
    (Catalog.areControlsOf_of_parse hparsed hparse) hparse

/-- The document with the number holds a catalogue, but no value keeps it. -/
theorem isPassedOver_boundless : IsPassedOver tree "boundless.json" := by
  have hfind : tree.find "boundless.json" = .ok (.file (some boundless.pretty)) := rfl
  exact .unkept hfind (Json.parse_pretty _) (by decide +kernel)

theorem not_lacksCatalog_boundless : ¬ LacksCatalog tree "boundless.json" := by
  have hfind : tree.find "boundless.json" = .ok (.file (some boundless.pretty)) := rfl
  have hcatalog : Catalog.HasCatalog boundless.pretty :=
    ⟨boundless, Json.parse_pretty _, [], _, [(some "x", .number false 1 400)], rfl, by simp⟩
  rintro (hnone | ⟨hother, hnone⟩)
  · exact hnone _ hfind
  · obtain rfl : boundless.pretty = _ := by simpa using hfind.symm.trans hother
    exact hnone hcatalog

end Sample

/-- The one profile resolves to the fault of its catalogue, and the other one to the control. -/
theorem resolve_doubled_and_single :
    (Sample.profile "p/profile.json").resolve Sample.tree =
        .error (.json "p/profile.json" (.json (.repeatedMember "catalog"))) ∧
      (Sample.profile "single.json").resolve Sample.tree = .ok [.mk "ac-1" none none []] := by
  have hdoubled : (Sample.profile "p/profile.json").candidates =
      ["p/resolved-catalog.json"] ++ "p/profile.json" :: [] := by decide +kernel
  have hsingle : (Sample.profile "single.json").candidates =
      ["resolved-catalog.json"] ++ "single.json" :: [] := by decide +kernel
  constructor
  · exact ((resolve_takes_first_settled Sample.tree _).2.2.1 _).mpr (.settled hdoubled
      (List.forall_mem_singleton.mpr Sample.isPassedOver_list) Sample.settles_doubled)
  · exact ((resolve_takes_first_settled Sample.tree _).2.2.1 _).mpr (.settled hsingle
      (List.forall_mem_singleton.mpr Sample.isPassedOver_none) Sample.settles_single)

/-- A profile may not be found though there is a file with its catalogue. -/
theorem not_forall_lacksCatalog :
    ¬ ∀ (files : FileSystem) (profile : Profile),
      profile.resolve files = .error (.profileNotFound profile.href profile.path) →
        ∀ candidate ∈ profile.candidates, LacksCatalog files candidate := by
  intro hlacks
  have hcandidates : (Sample.profile "boundless.json").candidates =
      ["resolved-catalog.json", "boundless.json"] := by decide +kernel
  refine Sample.not_lacksCatalog_boundless
    (hlacks Sample.tree (Sample.profile "boundless.json") ?_ _ (by simp [hcandidates]))
  refine resolve_eq_profileNotFound_iff.mpr ⟨rfl, rfl, ?_⟩
  rw [hcandidates]
  exact List.forall_mem_cons.mpr ⟨Sample.isPassedOver_none,
    List.forall_mem_singleton.mpr Sample.isPassedOver_boundless⟩

end Profile

end Compliance
