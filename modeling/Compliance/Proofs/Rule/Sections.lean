import Compliance.Proofs.Product.Qualified
import Compliance.Proofs.Rule.References
import Compliance.Proofs.Yaml.Decimal
import Compliance.Proofs.Yaml.Fields
import Compliance.Proofs.Yaml.Reading

/-!
# Section numbers as references

A section number of a standard, as in `cis: 5.1`, is a decimal if it stands without quotes.  So
its rule refers to what the decimal is written as when it has been read, and not to its text
(`Refers.get?_references`): `5.10` is written as `5.1`, and two sections become one.  Which
section numbers keep their text is known from their digits alone (`references_keep_decimals_iff`).

## Strategy

The document of a definition is read twice, with either decimal in the gap of a frame.  Each step
from the document to the definition is shown to leave everything but the value of the decimal as
it is: reading nodes, resolving qualified keys, and reading the fields of the record.
-/

namespace Compliance

open List Compliance.Yaml Compliance.Yaml.Scalar

namespace RuleDefinition

/-! ## A decimal in the text of a definition -/

/-- The references to a standard in the text of a definition count for a product: the name of the
standard reads as a text, and no entry is qualified for the product. -/
structure CountsFor (product : Product) (standard text : String) : Prop where
  word : Scalar.ofPlain standard.toList = .ok (.string standard)
  plain : ∀ entries inner, Value.parse (product.substitute text) = .ok (.mapping entries) →
    Value.lookup "references" entries = some (.mapping inner) →
    product.IsPlainAmong "references" entries ∧ product.IsPlainAmong standard inner

/-- In the text of a definition a decimal stands under a standard in the references, without
quotes, and it counts for the product. -/
structure Refers (product : Product) (standard : String) (decimal : PlainDecimal) (text : String) :
    Prop where
  written : ∃ root inner anchor, Document.parse (product.substitute text) = .ok ⟨some root⟩ ∧
    inner.IsUnder "references" root ∧
    (Node.scalar anchor none (String.ofList decimal.text) .plain).IsUnder standard inner
  counts : CountsFor product standard text

theorem ofPlain_references :
    Scalar.ofPlain "references".toList = .ok (.string "references") := by
  rfl

section

variable {product : Product} {standard text : String} {decimal : PlainDecimal}

/-- The decimal is read. -/
theorem Refers.exists_parse (hrefers : Refers product standard decimal text) {value : Value}
    (hvalue : Value.parse (product.substitute text) = .ok value) :
    ∃ entries inner, value = .mapping entries ∧
      Value.lookup "references" entries = some (.mapping inner) ∧
      Value.lookup standard inner = some decimal.value := by
  obtain ⟨root, node, anchor, hdocument, hreferences, hstandard⟩ := hrefers.written
  rw [Value.parse, readDocument, hdocument, Except.ok_bind] at hvalue
  obtain ⟨⟨_, jumps⟩, hread, hresult⟩ := Except.bind_eq_ok_iff.mp hvalue
  obtain rfl := Except.ok.inj hresult
  obtain ⟨entries, references, before, after, rfl, hlookup, hread⟩ :=
    Value.lookup_of_isUnder hreferences ofPlain_references hread
  obtain ⟨inner, found, _, _, rfl, hlookup', hread⟩ :=
    Value.lookup_of_isUnder hstandard hrefers.counts.word hread
  have hscalar : Scalar.value none .plain (String.ofList decimal.text) = .ok found :=
    Value.read_scalar hread
  obtain rfl : decimal.value = found := by
    refine Except.ok.inj (decimal.ofPlain_text.symm.trans ?_)
    rwa [Scalar.value, Scalar.ofStyle, String.toList_ofList] at hscalar
  exact ⟨entries, inner, rfl, hlookup, hlookup'⟩

theorem normalize_value (product : Product) (decimal : PlainDecimal) :
    product.normalize decimal.value = decimal.value := by
  unfold PlainDecimal.value
  cases decimal.double <;> rfl

/-- The references are what stands under their name, and other references may stand there. -/
theorem read_mapping {definition : RuleDefinition} {entries inner : Entries}
    (hread : read (.mapping entries) = .ok definition)
    (hlookup : Value.lookup "references" entries = some (.mapping inner)) :
    definition.references = inner ∧
      ∀ others, read (.mapping (Value.store (.string "references") (.mapping others) entries)) =
        .ok { definition with references := others } := by
  obtain ⟨found, hfields, hread⟩ := Except.bind_eq_ok_iff.mp hread
  obtain ⟨title, htitle, hread⟩ := Except.bind_eq_ok_iff.mp hread
  obtain ⟨description, hdescription, hread⟩ := Except.bind_eq_ok_iff.mp hread
  obtain ⟨severity, hseverity, hread⟩ := Except.bind_eq_ok_iff.mp hread
  obtain ⟨references, hreferences, hread⟩ := Except.bind_eq_ok_iff.mp hread
  obtain ⟨template, htemplate, hread⟩ := Except.bind_eq_ok_iff.mp hread
  obtain rfl := Except.ok.inj hread
  have hforall := Value.fields_eq_ok_iff.mp hfields
  have hmem := Value.mem_of_lookup hforall hlookup
  have hone := Value.length_filter_le_one_of_fieldOr hreferences
  constructor
  · rw [Value.fieldOr_of_mem hmem hone] at hreferences
    exact (Except.ok.inj hreferences).symm
  · intro others
    have hfields' := Value.fields_eq_ok_iff.mpr
      (Value.areFields_store (.mapping others) hforall hlookup hone)
    refine Except.bind_eq_ok_iff.mpr ⟨_, hfields', ?_⟩
    rw [Value.fieldOr_restated (by decide), htitle, Except.ok_bind,
      Value.fieldOr_restated (by decide), hdescription, Except.ok_bind,
      Value.fieldOr_restated (by decide), hseverity, Except.ok_bind,
      Value.fieldOr_restated_self hmem hone, Value.fieldOr_restated (by decide), htemplate]
    rfl

/-- The record is read from a mapping in which the references have the decimal. -/
theorem Refers.exists_read {definition : RuleDefinition}
    (hrefers : Refers product standard decimal text)
    (hwritten : definition.IsWrittenIn product text) :
    ∃ entries inner result,
      Value.parse (product.substitute text) = .ok (.mapping entries) ∧
      Value.lookup "references" entries = some (.mapping inner) ∧
      Value.lookup standard inner = some decimal.value ∧
      product.normalize (.mapping entries) = .mapping result ∧
      product.normalize (.mapping inner) = .mapping definition.references ∧
      Value.lookup "references" result = some (.mapping definition.references) ∧
      read (.mapping result) = .ok definition := by
  obtain ⟨value, hvalue, hread⟩ := hwritten
  obtain ⟨entries, inner, rfl, hlookup, hstandard⟩ := hrefers.exists_parse hvalue
  obtain ⟨hplain, -⟩ := hrefers.counts.plain entries inner hvalue hlookup
  obtain ⟨result, hresult⟩ : ∃ result, product.normalize (.mapping entries) = .mapping result :=
    ⟨_, product.normalize_mapping entries⟩
  obtain ⟨references, hreferences⟩ : ∃ references,
      product.normalize (.mapping inner) = .mapping references :=
    ⟨_, product.normalize_mapping inner⟩
  have hlookup' : Value.lookup "references" result = some (.mapping references) := by
    rw [Product.lookup_of_normalize hresult hplain, hlookup, Option.map_some, hreferences]
  rw [hresult] at hread
  obtain ⟨rfl, -⟩ := read_mapping hread hlookup'
  exact ⟨entries, inner, result, hvalue, hlookup, hstandard, hresult, hreferences, hlookup', hread⟩

/-- The decimal is the value of the standard in the definition. -/
theorem Refers.lookup_eq {definition : RuleDefinition}
    (hrefers : Refers product standard decimal text)
    (hwritten : definition.IsWrittenIn product text) :
    Value.lookup standard definition.references = some decimal.value := by
  obtain ⟨entries, inner, result, hvalue, hlookup, hstandard, -, hreferences, -, -⟩ :=
    hrefers.exists_read hwritten
  obtain ⟨-, hplain⟩ := hrefers.counts.plain entries inner hvalue hlookup
  rw [Product.lookup_of_normalize hreferences hplain, hstandard, Option.map_some, normalize_value]

end

/-! ## Another decimal in its place -/

/-- The document of a definition with a gap for what is written under a standard in the
references. -/
structure ReferenceFrame where
  record : MappingFrame
  references : MappingFrame
  name_record : record.name = "references"

namespace ReferenceFrame

variable (frame : ReferenceFrame) {product : Product} {first second : PlainDecimal}
  {text text' : String}

/-- The document with a decimal in the gap, without quotes. -/
def root (decimal : PlainDecimal) : Node :=
  frame.record.fill (frame.references.fill (.plain (String.ofList decimal.text)))

/-- A text holds the document with a decimal in the gap. -/
def Holds (product : Product) (decimal : PlainDecimal) (text : String) : Prop :=
  Document.parse (product.substitute text) = .ok ⟨some (frame.root decimal)⟩

/-- Aliases stand for the same whichever decimal is in the gap. -/
theorem read_root (first second : PlainDecimal) (room : ℕ) :
    Value.read ⟨some (frame.root first)⟩ room = Value.read ⟨some (frame.root second)⟩ room := by
  have hanchored : (frame.root first).anchored = (frame.root second).anchored :=
    frame.record.anchored_fill_congr (frame.references.anchored_fill_congr rfl)
  have hweight : (frame.root first).weight = (frame.root second).weight :=
    frame.record.weight_fill_congr (frame.references.weight_fill_congr rfl)
  refine Value.read_congr (fun number => ?_) ?_ room
  · rw [Document.anchored?, Document.anchored?, Option.map_some, Option.map_some, hanchored]
  · rw [Document.aliasLimit, Document.aliasLimit, Option.map_some, Option.map_some, hweight]

/-- In the place of a decimal another one is read. -/
theorem parse_of_holds (hword : Scalar.ofPlain frame.references.name.toList =
      .ok (.string frame.references.name))
    (hfirst : frame.Holds product first text) (hsecond : frame.Holds product second text')
    {entries inner : Entries}
    (hvalue : Value.parse (product.substitute text) = .ok (.mapping entries))
    (hlookup : Value.lookup "references" entries = some (.mapping inner))
    (hstandard : Value.lookup frame.references.name inner = some first.value) :
    Value.parse (product.substitute text') = .ok (.mapping (Value.store (.string "references")
      (.mapping (Value.store (.string frame.references.name) second.value inner)) entries)) := by
  have hplain (decimal : PlainDecimal) :
      Scalar.ofPlain (String.ofList decimal.text).toList = .ok decimal.value := by
    rw [String.toList_ofList, decimal.ofPlain_text]
  rw [Value.parse, readDocument, hfirst, Except.ok_bind] at hvalue
  rw [Value.parse, readDocument, hsecond, Except.ok_bind]
  obtain ⟨⟨_, jumps⟩, hread, hresult⟩ := Except.bind_eq_ok_iff.mp hvalue
  obtain rfl := Except.ok.inj hresult
  refine Except.bind_eq_ok_iff.mpr ⟨(_, jumps), ?_, rfl⟩
  rw [frame.read_root second first]
  rw [← frame.name_record] at hlookup ⊢
  have hrecord : Scalar.ofPlain frame.record.name.toList = .ok (.string frame.record.name) := by
    rw [frame.name_record, ofPlain_references]
  refine frame.record.read_fill hrecord (fun hreferences => ?_) hread hlookup
  refine frame.references.read_fill hword (fun {start stop} hscalar => ?_) hreferences hstandard
  -- a scalar is no alias, so that nothing is counted
  have hself := Except.ok.inj ((Value.read_plain (hplain first)).symm.trans hscalar)
  obtain rfl : start = stop := (Prod.mk.inj hself).2
  exact Value.read_plain (hplain second)

/-- A text with a decimal in the gap refers to it. -/
theorem refers_of_holds (hholds : frame.Holds product first text)
    (hcounts : CountsFor product frame.references.name text) :
    Refers product frame.references.name first text := by
  refine ⟨⟨_, _, none, hholds, ?_, frame.references.isUnder_fill _⟩, hcounts⟩
  rw [← frame.name_record]
  exact frame.record.isUnder_fill _

/-- With another decimal in the gap the definition has another value under the standard, and is
the same apart from that. -/
theorem isWrittenIn_of_holds {definition : RuleDefinition}
    (hcounts : CountsFor product frame.references.name text)
    (hfirst : frame.Holds product first text) (hsecond : frame.Holds product second text')
    (hwritten : definition.IsWrittenIn product text) :
    IsWrittenIn { definition with
      references := Value.store (.string frame.references.name) second.value
        definition.references } product text' := by
  obtain ⟨entries, inner, result, hvalue, hlookup, hstandard, hresult, hreferences, hlookup',
    hread⟩ := (frame.refers_of_holds hfirst hcounts).exists_read hwritten
  obtain ⟨hplain, hplain'⟩ := hcounts.plain entries inner hvalue hlookup
  refine ⟨_, frame.parse_of_holds hcounts.word hfirst hsecond hvalue hlookup hstandard,
    ?_⟩
  rw [Product.normalize_store hresult hplain (by simp [hlookup]),
    Product.normalize_store hreferences hplain' (by simp [hstandard]), normalize_value]
  exact (read_mapping hread hlookup').2 _

end ReferenceFrame

end RuleDefinition

namespace RuleRepository

/-! ## Rules that refer to decimals -/

section

variable {repository : RuleRepository} {overrides : Table String} {id standard : String}
  {decimal : PlainDecimal} {rule : Rule}

/-- The definition of a rule refers to a decimal. -/
def Refers (repository : RuleRepository) (id standard : String) (decimal : PlainDecimal) : Prop :=
  ∃ directory text, repository.locator.LocatesFirst id directory ∧
    repository.files.readText (directory.join RuleDefinition.fileName) = .ok text ∧
    RuleDefinition.Refers repository.product standard decimal text

/-- What a decimal is written as is one reference. -/
theorem isReference_written (decimal : PlainDecimal) :
    RuleDefinition.IsReference (String.ofList decimal.written) := by
  have hsigns : ∀ c ∈ ['.', 'e', '-'], Text.isBlank c = false ∧ c ≠ ',' := by
    simp [Text.isBlank]
  have hchars : ∀ c ∈ decimal.written, Text.isBlank c = false ∧ c ≠ ',' := by
    intro c hc
    rcases decimal.isDigit_or_mem_of_mem_written hc with hdigit | hsign
    · exact ⟨isBlank_of_isDigit hdigit, ne_of_isDigit hdigit (by decide)⟩
    · exact hsigns c hsign
  rw [RuleDefinition.IsReference, String.toList_ofList]
  refine ⟨?_, ⟨fun c hc => ?_, fun c hc => ?_⟩, fun hcomma => (hchars _ hcomma).2 rfl⟩
  · simpa [← String.toList_inj] using decimal.written_ne_nil
  · exact (hchars c (mem_of_mem_head? hc)).1
  · exact (hchars c (mem_of_getLast? hc)).1

theorem referencesTo_of_lookup {definition : RuleDefinition}
    (hlookup : Value.lookup standard definition.references = some decimal.value) :
    definition.referencesTo standard = [String.ofList decimal.written] := by
  rw [RuleDefinition.referencesTo_of_hasScalar ⟨_, hlookup, decimal.scalarText?_value⟩,
    RuleDefinition.referenceList_of_isReference (isReference_written decimal)]

/-- A rule is read from the text in its directory. -/
theorem HasOrigin.isWrittenIn {origin : Origin} (horigin : repository.HasOrigin id origin)
    {directory : Path} {text : String} (hlocated : repository.locator.LocatesFirst id directory)
    (hread : repository.files.readText (directory.join RuleDefinition.fileName) = .ok text) :
    origin.definition.IsWrittenIn repository.product text := by
  have hlocate := RuleLocator.locate_eq_some_iff.mpr hlocated
  obtain rfl : origin.directory = directory :=
    Option.some.inj (horigin.located.symm.trans hlocate)
  obtain ⟨found, hfound, hwritten⟩ := RuleDefinition.load_eq_ok_iff.mp horigin.read
  obtain rfl : found = text := Except.ok.inj (hfound.symm.trans hread)
  exact hwritten

/-- A rule that refers to a decimal has what this is written as as its only reference to the
standard. -/
theorem Refers.get?_references (hrefers : repository.Refers id standard decimal)
    (hload : repository.loadRule overrides id = .ok rule) :
    rule.references.get? standard = some [String.ofList decimal.written] := by
  obtain ⟨origin, horigin, rfl⟩ := loadRule_eq_ok_iff.mp hload
  obtain ⟨directory, text, hlocated, hread, hrefers⟩ := hrefers
  have hlookup := hrefers.lookup_eq (horigin.isWrittenIn hlocated hread)
  refine (get?_references_unbound id origin.directory origin.definition standard).trans ?_
  rw [referencesTo_of_lookup hlookup, if_neg (cons_ne_nil _ _)]

end

/-- Two systems of files have definitions of a rule that differ only in the decimal that stands
under a standard in the references. -/
def DifferOnlyIn (repository : RuleRepository) (files : FileSystem) (id standard : String)
    (first second : PlainDecimal) : Prop :=
  ∃ directory text text', ∃ frame : RuleDefinition.ReferenceFrame,
    repository.locator.LocatesFirst id directory ∧
    repository.files.readText (directory.join RuleDefinition.fileName) = .ok text ∧
    files.readText (directory.join RuleDefinition.fileName) = .ok text' ∧
    frame.references.name = standard ∧ frame.Holds repository.product first text ∧
    frame.Holds repository.product second text' ∧
    RuleDefinition.CountsFor repository.product standard text

section

variable {repository : RuleRepository} {files : FileSystem} {overrides : Table String}
  {id standard : String} {first second : PlainDecimal} {rule : Rule}

theorem DifferOnlyIn.refers
    (hdiffer : repository.DifferOnlyIn files id standard first second) :
    repository.Refers id standard first := by
  obtain ⟨directory, text, text', frame, hlocated, hread, -, rfl, hfirst, -, hcounts⟩ := hdiffer
  exact ⟨directory, text, hlocated, hread, frame.refers_of_holds hfirst hcounts⟩

/-- With another decimal a rule loads as well, and differs only in its references to the
standard. -/
theorem DifferOnlyIn.exists_loadRule
    (hdiffer : repository.DifferOnlyIn files id standard first second)
    (hload : repository.loadRule overrides id = .ok rule) :
    ∃ rule', { repository with files }.loadRule overrides id = .ok rule' ∧
      rule'.references.get? standard = some [String.ofList second.written] ∧
      rule' = { rule with references := rule'.references } ∧
      ∀ other ≠ standard, rule'.references.get? other = rule.references.get? other := by
  obtain ⟨origin, horigin, rfl⟩ := loadRule_eq_ok_iff.mp hload
  obtain ⟨directory, text, text', frame, hlocated, hread, hread', rfl, hfirst, hsecond, hcounts⟩ :=
    hdiffer
  have hwritten := frame.isWrittenIn_of_holds hcounts hfirst hsecond
    (horigin.isWrittenIn hlocated hread)
  obtain rfl : origin.directory = directory :=
    Option.some.inj (horigin.located.symm.trans (RuleLocator.locate_eq_some_iff.mpr hlocated))
  generalize hchanged : ({ origin.definition with
    references := Value.store (.string frame.references.name) second.value
      origin.definition.references } : RuleDefinition) = changed at hwritten
  have hlookup (other : String) : Value.lookup other changed.references =
      if other = frame.references.name then some second.value
      else Value.lookup other origin.definition.references := by
    rw [← hchanged, Value.lookup_store]
  have horigin' : { repository with files }.HasOrigin id { origin with definition := changed } := by
    refine ⟨horigin.located, RuleDefinition.load_eq_ok_iff.mpr ⟨text', hread', hwritten⟩, ?_, ?_,
      horigin.stored⟩
    · rw [← hchanged]
      exact horigin.described
    · rw [← hchanged]
      exact horigin.named
  have hget (other : String) := get?_references_unbound id origin.directory changed other
  refine ⟨_, horigin'.loadRule overrides, ?_, ?_, ?_⟩
  · refine (hget _).trans ?_
    rw [referencesTo_of_lookup (by rw [hlookup, if_pos rfl]), if_neg (cons_ne_nil _ _)]
  · obtain ⟨_, hrule⟩ := exists_unbound_eq id origin.directory origin.definition
    obtain ⟨_, hrule'⟩ := exists_unbound_eq id origin.directory changed
    rw [Origin.rule, Origin.rule, hrule, hrule', ← hchanged]
    rfl
  · intro other hother
    have hsame : changed.referencesTo other = origin.definition.referencesTo other := by
      rw [RuleDefinition.referencesTo, hlookup, if_neg hother, RuleDefinition.referencesTo]
    refine (hget other).trans ?_
    rw [hsame]
    exact (get?_references_unbound id origin.directory origin.definition other).symm

end

end RuleRepository

/-- A rule whose definition refers to a decimal without quotes has what the decimal is written as
as its reference, and this is the decimal if and only if it keeps its text.  With another decimal
in its place the rule loads as well and differs in nothing but this reference, so that two decimals
that keep their texts are told apart, and others may be not. -/
theorem references_keep_decimals_iff (standard : String) :
    (∀ (repository : RuleRepository) (overrides : Table String) (id : String)
      (decimal : PlainDecimal) (rule : Rule),
      repository.Refers id standard decimal → repository.loadRule overrides id = .ok rule →
        rule.references.get? standard = some [String.ofList decimal.written] ∧
        (rule.references.get? standard = some [String.ofList decimal.text] ↔
          decimal.KeepsText)) ∧
    ∀ (repository : RuleRepository) (files : FileSystem) (overrides : Table String) (id : String)
      (first second : PlainDecimal) (rule : Rule),
      repository.DifferOnlyIn files id standard first second →
      repository.loadRule overrides id = .ok rule →
        ∃ rule', { repository with files }.loadRule overrides id = .ok rule' ∧
          rule' = { rule with references := rule'.references } ∧
          (∀ other ≠ standard, rule'.references.get? other = rule.references.get? other) ∧
          (rule.references.get? standard = some [String.ofList first.text] ∧
            rule'.references.get? standard = some [String.ofList second.text] ↔
              first.KeepsText ∧ second.KeepsText) := by
  have hkeeps (decimal : PlainDecimal) :
      some [String.ofList decimal.written] = some [String.ofList decimal.text] ↔
        decimal.KeepsText := by
    rw [← decimal.written_eq_text_iff]
    simp [← String.toList_inj]
  constructor
  · intro repository overrides id decimal rule hrefers hload
    have hget := hrefers.get?_references hload
    rw [hget]
    exact ⟨rfl, hkeeps decimal⟩
  · intro repository files overrides id first second rule hdiffer hload
    have hget := hdiffer.refers.get?_references hload
    obtain ⟨rule', hload', hget', hrule, hothers⟩ := hdiffer.exists_loadRule hload
    refine ⟨rule', hload', hrule, hothers, ?_⟩
    rw [hget, hget', hkeeps, hkeeps]

/-! ## Two sections that become one -/

namespace Sample

/-- The section number 5.1. -/
def fiveOne : PlainDecimal := ⟨['5'], ['1'], by decide, by decide, by simp⟩

/-- The section number 5.10. -/
def fiveTen : PlainDecimal := ⟨['5'], ['1', '0'], by decide, by decide, by simp⟩

/-- A definition that refers to a section. -/
def sectionText (decimal : PlainDecimal) : String :=
  "description: Limit sessions\nreferences:\n  cis: " ++ String.ofList decimal.text

def sectionFiles (decimal : PlainDecimal) : FileSystem :=
  { root := .directory [("limits", .directory [("rule.yml", .file (some (sectionText decimal)))])],
    working := [] }

def sectionRepository (decimal : PlainDecimal) : RuleRepository :=
  { repository with
    files := sectionFiles decimal
    locator := [.scan (Table.ofList [("limits", "/limits")])] }

def sectionFrame : RuleDefinition.ReferenceFrame where
  record := ⟨[(.plain "description", .plain "Limit sessions")], "references", []⟩
  references := ⟨[], "cis", []⟩
  name_record := rfl

/-- The tokens of the definition. -/
def sectionTokens (decimal : PlainDecimal) : List Token :=
  [.blockMappingStart, .key, .scalar "description" .plain, .value,
    .scalar "Limit sessions" .plain, .key, .scalar "references" .plain, .value,
    .blockMappingStart, .key, .scalar "cis" .plain, .value,
    .scalar (String.ofList decimal.text) .plain, .blockEnd, .blockEnd, .streamEnd]

theorem first_sectionTokens (decimal : PlainDecimal) :
    Document.first (sectionTokens decimal) =
      .ok (⟨some (sectionFrame.root decimal)⟩, [.streamEnd]) := by
  rfl

theorem holds_sectionText {decimal : PlainDecimal}
    (hscan : Token.scan (repository.product.substitute (sectionText decimal)) =
      .ok (sectionTokens decimal)) :
    sectionFrame.Holds repository.product decimal (sectionText decimal) := by
  rw [RuleDefinition.ReferenceFrame.Holds, Document.parse, hscan, Except.ok_bind,
    first_sectionTokens]
  rfl

theorem countsFor_fiveOne :
    RuleDefinition.CountsFor repository.product "cis" (sectionText fiveOne) := by
  refine ⟨rfl, fun entries inner hvalue hlookup => ?_⟩
  -- of the value only the keys are looked at
  have hseen : ((Value.parse (repository.product.substitute (sectionText fiveOne))).toOption.bind
      fun value => value.readEntries.toOption).map (fun entries => (entries.map (·.1.text?),
        (Value.lookup "references" entries).bind fun references =>
          references.readEntries.toOption.map fun inner => inner.map (·.1.text?))) =
        some ([some "description", some "references"], some [some "cis"]) := by
    decide +kernel
  rw [hvalue] at hseen
  obtain ⟨houter, hinner⟩ := Prod.mk.inj (Option.some.inj hseen)
  rw [hlookup] at hinner
  replace hinner := Option.some.inj hinner
  have hplain : ∀ {name : String} {entries : Entries} {texts : List (Option String)},
      entries.map (·.1.text?) = texts → '@' ∉ name.toList →
      some (name ++ "@" ++ repository.product.id) ∉ texts →
      repository.product.IsPlainAmong name entries := by
    rintro name entries _ rfl hname hnone
    refine ⟨hname, fun key hkey htext => hnone ?_⟩
    obtain ⟨entry, hentry, rfl⟩ := mem_map.mp hkey
    exact mem_map.mpr ⟨entry, hentry, htext⟩
  exact ⟨hplain houter (by decide) (by decide), hplain hinner (by decide) (by decide)⟩

theorem differOnlyIn_fiveOne : (sectionRepository fiveOne).DifferOnlyIn (sectionFiles fiveTen)
    "limits" "cis" fiveOne fiveTen := by
  refine ⟨"/limits", sectionText fiveOne, sectionText fiveTen, sectionFrame, ?_, ?_, ?_, rfl,
    holds_sectionText (by decide +kernel), holds_sectionText (by decide +kernel),
    countsFor_fiveOne⟩
  · exact RuleLocator.locate_eq_some_iff.mp (by decide +kernel)
  · decide +kernel
  · decide +kernel

/-- Both sections are listed as the first one. -/
theorem exists_loadRule_section : ∃ rule rule',
    (sectionRepository fiveOne).loadRule ∅ "limits" = .ok rule ∧
    (sectionRepository fiveTen).loadRule ∅ "limits" = .ok rule' ∧
    rule.references.entries = [("cis", ["5.1"])] ∧
    rule'.references.entries = [("cis", ["5.1"])] := by
  have hseen : ((sectionRepository fiveOne).loadRule ∅ "limits").toOption.map
      (fun rule => rule.references.entries) = some [("cis", ["5.1"])] := by
    decide +kernel
  have hseen' : ((sectionRepository fiveTen).loadRule ∅ "limits").toOption.map
      (fun rule => rule.references.entries) = some [("cis", ["5.1"])] := by
    decide +kernel
  obtain ⟨rule, hload, hrule⟩ := Except.exists_ok_of_map_toOption_eq_some hseen
  obtain ⟨rule', hload', hrule'⟩ := Except.exists_ok_of_map_toOption_eq_some hseen'
  exact ⟨rule, rule', hload, hload', hrule, hrule'⟩

end Sample

/-- The section 5.1 keeps its text and 5.10 does not, so that the two rules refer to one section. -/
theorem references_keep_decimals_iff_of_sections :
    (∃ rule, (Sample.sectionRepository Sample.fiveOne).loadRule ∅ "limits" = .ok rule ∧
      rule.references.get? "cis" = some [String.ofList Sample.fiveOne.written]) ∧
    Sample.fiveOne.KeepsText ∧ ¬ Sample.fiveTen.KeepsText := by
  obtain ⟨rule, rule', hload, hload', hrule, hrule'⟩ := Sample.exists_loadRule_section
  obtain ⟨hlisted, hdiffer⟩ := references_keep_decimals_iff "cis"
  obtain ⟨hget, hkept⟩ := hlisted _ _ _ _ _ Sample.differOnlyIn_fiveOne.refers hload
  obtain ⟨found, hfound, -, -, hboth⟩ := hdiffer _ _ _ _ _ _ _ Sample.differOnlyIn_fiveOne hload
  obtain rfl : rule' = found := Except.ok.inj (hload'.symm.trans hfound)
  have hone : Sample.fiveOne.KeepsText := by
    rw [← hkept, Table.get?, hrule]
    decide
  refine ⟨⟨rule, hload, hget⟩, hone, fun hten => ?_⟩
  have hsecond := (hboth.mpr ⟨hone, hten⟩).2
  rw [Table.get?, hrule'] at hsecond
  exact absurd hsecond (by decide)

/-- Rules that differ only in their section numbers may have equal references. -/
theorem not_forall_references_keep_decimals :
    ¬ ∀ (repository : RuleRepository) (files : FileSystem) (overrides : Table String)
      (id standard : String) (first second : PlainDecimal) (rule rule' : Rule),
      first.text ≠ second.text → repository.DifferOnlyIn files id standard first second →
      repository.loadRule overrides id = .ok rule →
      { repository with files }.loadRule overrides id = .ok rule' →
        rule.references.get? standard ≠ rule'.references.get? standard ∧
        rule.references.get? standard = some [String.ofList first.text] ∧
        rule'.references.get? standard = some [String.ofList second.text] := by
  intro hkeep
  obtain ⟨rule, rule', hload, hload', hrule, hrule'⟩ := Sample.exists_loadRule_section
  obtain ⟨hne, -, -⟩ := hkeep _ _ _ _ _ _ _ rule rule' (by decide) Sample.differOnlyIn_fiveOne
    hload hload'
  rw [Table.get?, hrule, Table.get?, hrule'] at hne
  exact hne rfl

end Compliance
