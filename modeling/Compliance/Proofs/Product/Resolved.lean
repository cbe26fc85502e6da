import Compliance.Proofs.Product.Qualified
import Mathlib.Logic.Relation

/-!
# Resolved values

A value is resolved if no key that is reached in it is qualified.  Whatever the product,
normalising gives a resolved value (`isResolved_normalize`) and leaves a resolved value alone
(`normalizeFor_eq_self`), so that a second pass changes nothing.

Entries that are meant for other products are dropped before anything is stored.  So it is
no matter how many of them a value has, or where: one of them that is put into a mapping at
any level makes no difference (`normalizeFor_eq_of_insertion`), neither to the entries of the
result nor to their order, and hence any number of them that come and go make none.
-/

namespace Compliance.Product

open Compliance.Yaml List

/-! ## Values that are left alone -/

/-- No mapping that is reached in the value has a qualified key. -/
def IsResolved (value : Value) : Prop :=
  ∀ entries, value.Reaches (.mapping entries) → ∀ key ∈ entries.map (·.1), ¬ IsQualified key

theorem IsResolved.of_mem_sequence {items : List Value} (hresolved : IsResolved (.sequence items))
    {item : Value} (hitem : item ∈ items) : IsResolved item := by
  intro entries hreaches
  exact hresolved entries (.item hitem hreaches)

theorem IsResolved.of_mem_mapping {entries : Entries} (hresolved : IsResolved (.mapping entries))
    {entry : Value × Value} (hentry : entry ∈ entries) : IsResolved entry.2 := by
  intro inner hreaches
  exact hresolved inner (.entry hentry hreaches)

theorem nameFor?_eq_none_of_not_isQualified {product : String} {key : Value}
    (hkey : ¬ IsQualified key) : nameFor? product key = none := by
  have hnone : qualified? key = none := by
    rw [← Option.isNone_iff_eq_none, isNone_qualified?_iff]
    exact hkey
  rw [nameFor?_eq_bind_qualified?, hnone, Option.bind_none]

/-- Without qualified keys there is nothing to drop and nothing to store. -/
theorem select_eq_self {product : String} {entries : Entries}
    (hplain : ∀ key ∈ entries.map (·.1), ¬ IsQualified key) : select product entries = entries := by
  have hkey : ∀ entry ∈ entries, ¬ IsQualified entry.1 := by
    intro entry hentry
    exact hplain entry.1 (mem_map_of_mem hentry)
  have hnamed : named product entries = [] := by
    unfold named
    rw [filterMap_eq_nil_iff]
    intro entry hentry
    rw [nameFor?_eq_none_of_not_isQualified (hkey entry hentry), Option.map_none]
  have hkept : entries.filter (fun entry => ¬ IsQualified entry.1) = entries := by
    rw [filter_eq_self]
    intro entry hentry
    simpa using hkey entry hentry
  rw [select_eq_storeAll, hnamed, hkept]
  rfl

mutual

/-- A resolved value holds for every product as it is. -/
theorem normalizeFor_eq_self (product : String) (value : Value) (hresolved : IsResolved value) :
    normalizeFor product value = value := by
  cases value with
  | mapping entries =>
      have hentries := normalizeEntriesFor_eq_self product entries fun entry hentry =>
        hresolved.of_mem_mapping hentry
      rw [normalizeFor, hentries, select_eq_self (hresolved entries (.refl _))]
  | sequence items =>
      rw [normalizeFor, normalizeItemsFor_eq_self product items fun item hitem =>
        hresolved.of_mem_sequence hitem]
  | _ => rfl

theorem normalizeItemsFor_eq_self (product : String) (items : List Value)
    (hresolved : ∀ item ∈ items, IsResolved item) : normalizeItemsFor product items = items := by
  cases items with
  | nil => rfl
  | cons item others =>
      rw [forall_mem_cons] at hresolved
      rw [normalizeItemsFor, normalizeFor_eq_self product item hresolved.1,
        normalizeItemsFor_eq_self product others hresolved.2]

theorem normalizeEntriesFor_eq_self (product : String) (entries : Entries)
    (hresolved : ∀ entry ∈ entries, IsResolved entry.2) :
    normalizeEntriesFor product entries = entries := by
  cases entries with
  | nil => rfl
  | cons entry others =>
      rw [forall_mem_cons] at hresolved
      rw [normalizeEntriesFor, normalizeFor_eq_self product entry.2 hresolved.1,
        normalizeEntriesFor_eq_self product others hresolved.2]

end

/-- A normalised value is resolved. -/
theorem isResolved_normalize (product : Product) (value : Value) :
    IsResolved (product.normalize value) := by
  intro entries hreaches
  -- a mapping in the result is the result for a mapping
  obtain ⟨source, -, hsource⟩ := exists_reaches_of_reaches_normalizeFor hreaches
  cases source with
  | mapping sources =>
      have hresolves := normalize_mapping product sources
      unfold normalize at hresolves
      rw [hresolves, Value.mapping.injEq] at hsource
      rw [hsource]
      exact (resolves_select product sources).plain
  | _ => cases hsource

/-! ## Entries for other products -/

/-- A key is meant for another product: after its first `@` stands something else. -/
def IsForeign (product : String) (key : Value) : Prop :=
  ∃ name owner : String, '@' ∉ name.toList ∧ key.text? = some (name ++ "@" ++ owner) ∧
    owner ≠ product

theorem isForeign_iff {product : String} {key : Value} :
    IsForeign product key ↔ IsQualified key ∧ nameFor? product key = none := by
  constructor
  · rintro ⟨name, owner, hname, htext, howner⟩
    have hcut : qualified? key = some (name, owner) := by
      rw [qualified?_eq_some_iff, nameFor?_eq_some_iff]
      exact ⟨hname, htext⟩
    constructor
    · refine ⟨_, htext, ?_⟩
      simp [String.toList_append]
    · rw [nameFor?_eq_bind_qualified?, hcut, Option.bind_some, if_neg howner]
  · rintro ⟨hqualified, hnone⟩
    have hcut : qualified? key ≠ none := by
      intro heq
      rw [← Option.isNone_iff_eq_none, isNone_qualified?_iff] at heq
      exact heq hqualified
    obtain ⟨⟨name, owner⟩, hcut⟩ := Option.ne_none_iff_exists'.mp hcut
    obtain ⟨hname, htext⟩ := nameFor?_eq_some_iff.mp (qualified?_eq_some_iff.mp hcut)
    refine ⟨name, owner, hname, htext, ?_⟩
    rintro rfl
    rw [qualified?_eq_some_iff.mp hcut] at hnone
    cases hnone

/-- An entry for another product makes no difference to a mapping, wherever it stands. -/
theorem select_insert_foreign {product : String} {key : Value} (hforeign : IsForeign product key)
    (before after : Entries) (value : Value) :
    select product (before ++ (key, value) :: after) = select product (before ++ after) := by
  rw [← select_filter_nameFor?, ← select_filter_nameFor? product (before ++ after),
    filter_append, filter_append, filter_cons_of_neg (by simpa using isForeign_iff.mp hforeign)]

/-- An entry for another product is put into a mapping, which is reached in the first value through
items of sequences and values of mappings. -/
inductive Insertion (product : String) : Value → Value → Prop
  | here (before after : Entries) {key value : Value} (hforeign : IsForeign product key) :
      Insertion product (.mapping (before ++ after)) (.mapping (before ++ (key, value) :: after))
  | item (before after : List Value) {first second : Value}
      (hitem : Insertion product first second) :
      Insertion product (.sequence (before ++ first :: after))
        (.sequence (before ++ second :: after))
  | entry (before after : Entries) {key first second : Value}
      (hentry : Insertion product first second) :
      Insertion product (.mapping (before ++ (key, first) :: after))
        (.mapping (before ++ (key, second) :: after))

theorem normalizeFor_eq_of_insertion {product : String} {first second : Value}
    (hinsertion : Insertion product first second) :
    normalizeFor product first = normalizeFor product second := by
  induction hinsertion with
  | here before after hforeign =>
      rw [normalizeFor, normalizeFor, normalizeEntriesFor_eq_map, normalizeEntriesFor_eq_map,
        map_append, map_append, map_cons, select_insert_foreign hforeign]
  | item before after _ ih =>
      rw [normalizeFor, normalizeFor, normalizeItemsFor_eq_map, normalizeItemsFor_eq_map,
        map_append, map_append, map_cons, map_cons, ih]
  | entry before after _ ih =>
      rw [normalizeFor, normalizeFor, normalizeEntriesFor_eq_map, normalizeEntriesFor_eq_map,
        map_append, map_append, map_cons, map_cons, ih]

/-- Entries for other products may come and go one after the other. -/
theorem normalizeFor_eq_of_eqvGen_insertion {product : String} {first second : Value}
    (hsame : Relation.EqvGen (Insertion product) first second) :
    normalizeFor product first = normalizeFor product second := by
  induction hsame with
  | rel first second hinsertion => exact normalizeFor_eq_of_insertion hinsertion
  | refl value => rfl
  | symm first second _ ih => exact ih.symm
  | trans first second third _ _ ih ih' => exact ih.trans ih'

/-- The values that are left alone are the resolved ones, to which all results belong, so that a
second pass changes nothing.  Entries for other products that are put in or taken out, any number of
them and at any level, make no difference. -/
theorem normalize_idempotent_and_blind (product : Product) :
    (∀ value, product.normalize (product.normalize value) = product.normalize value) ∧
    (∀ value, product.normalize value = value ↔ IsResolved value) ∧
    ∀ first second, Relation.EqvGen (Insertion product.id) first second →
      product.normalize first = product.normalize second := by
  refine ⟨?idempotent, ?fixed, ?blind⟩
  case idempotent =>
    intro value
    exact normalizeFor_eq_self product.id _ (isResolved_normalize product value)
  case fixed =>
    intro value
    constructor
    · intro hsame
      rw [← hsame]
      exact isResolved_normalize product value
    · exact normalizeFor_eq_self product.id value
  case blind =>
    intro first second hsame
    exact normalizeFor_eq_of_eqvGen_insertion hsame

/-! ## Entries that come and go

The template of `Sample` has an entry for the product `rhel9@beta`.  It is taken out, and one for
another product, with a key under a tag, is put in before the others.
-/

namespace Sample

/-- The template with other entries for other products. -/
def retargeted : Entries :=
  (.tagged "hint" (.string "variable@sle15"), .mapping []) :: (template.take 3 ++ template.drop 4)

/-- The definition with other entries for other products. -/
def retargetedDefinition : Value :=
  .mapping [(.string "templates", .sequence [.mapping retargeted])]

theorem eqvGen_insertion_definition :
    Relation.EqvGen (Insertion rhel9.id) definition retargetedDefinition := by
  have hbeta : IsForeign rhel9.id (.string "size@rhel9@beta") :=
    ⟨"size", "rhel9@beta", by decide, rfl, by decide⟩
  have hsle : IsForeign rhel9.id (.tagged "hint" (.string "variable@sle15")) :=
    ⟨"variable", "sle15", by decide, rfl, by decide⟩
  have hlift : ∀ {first second : Value}, Insertion rhel9.id first second →
      Insertion rhel9.id (.mapping [(.string "templates", .sequence [first])])
        (.mapping [(.string "templates", .sequence [second])]) := by
    intro first second hinsertion
    exact .entry [] [] (.item [] [] hinsertion)
  -- both values come from the one without either of the two entries
  have htaken : Insertion rhel9.id (.mapping (template.take 3 ++ template.drop 4))
      (.mapping template) := .here (template.take 3) (template.drop 4) hbeta
  have hput : Insertion rhel9.id (.mapping (template.take 3 ++ template.drop 4))
      (.mapping retargeted) := .here [] (template.take 3 ++ template.drop 4) hsle
  exact .trans _ _ _ (.symm _ _ (.rel _ _ (hlift htaken))) (.rel _ _ (hlift hput))

end Sample

theorem normalize_retargeted :
    Sample.rhel9.normalize (Sample.rhel9.normalize Sample.definition) =
        .mapping [(.string "templates", .sequence [.mapping Sample.resolved])] ∧
      Relation.EqvGen (Insertion Sample.rhel9.id) Sample.definition Sample.retargetedDefinition ∧
      Sample.rhel9.normalize Sample.definition =
        Sample.rhel9.normalize Sample.retargetedDefinition := by
  obtain ⟨hidempotent, -, hblind⟩ := normalize_idempotent_and_blind Sample.rhel9
  refine ⟨?_, Sample.eqvGen_insertion_definition, hblind _ _ Sample.eqvGen_insertion_definition⟩
  rw [hidempotent]
  rfl

end Compliance.Product
