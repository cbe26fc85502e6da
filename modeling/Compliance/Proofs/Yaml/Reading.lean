import Compliance.Proofs.Except
import Compliance.Proofs.Yaml.Entries
import Compliance.Yaml.Value.Reader

/-!
# Entries that are read

In a document a value is written under the plain name of an entry of a mapping (`IsUnder`).  The
mapping is read as one in which the name stands for what is written under it, since no key of a
mapping may be repeated (`lookup_of_isUnder`).

A mapping with a gap for what is written under one name is a `MappingFrame`.  When other things are
filled in that are read one wherever the other is, then the mapping is read again, and the other
value is stored under the name (`read_fill`).

## Strategy

While the entries are read, those before the gap are the same, and those after it are told apart
only by the value under the name, which no check looks at (`entriesOf_replaced`).
-/

namespace Compliance.Yaml

open List

namespace Node

/-- A plain scalar without an anchor and a tag. -/
def plain (text : String) : Node := .scalar none none text .plain

/-- A node is written under a plain name in a mapping without a tag. -/
def IsUnder (node : Node) (name : String) (mapping : Node) : Prop :=
  ∃ anchor entries key, mapping = .mapping anchor none entries ∧
    (.scalar key none name .plain, node) ∈ entries

end Node

namespace Value

/-- No key is equal to an earlier one. -/
def DistinctKeys (entries : Entries) : Prop :=
  entries.Pairwise fun first second => second.1.same first.1 = false

/-- With distinct keys a name stands for the value of each entry that has it. -/
theorem lookup_of_mem {name : String} {value : Value} {entries : Entries}
    (hdistinct : DistinctKeys entries) (hmem : (string name, value) ∈ entries) :
    lookup name entries = some value := by
  induction entries with
  | nil => cases hmem
  | cons entry others ih =>
      obtain ⟨hfirst, hothers⟩ := pairwise_cons.mp hdistinct
      rcases mem_cons.mp hmem with rfl | hmem
      · exact lookup_cons_self name value others
      · have hne : entry.1 ≠ string name := by
          intro heq
          have hsame := hfirst _ hmem
          rw [heq, same_string_iff.mpr rfl] at hsame
          cases hsame
        rw [lookup_cons_of_ne hne, ih hothers hmem]

/-! ## Reading the entries of a mapping -/

section

variable {read : Node → Reading Value} {jumps jumps' : Nat} {name : String}

/-- The entries that have been read are kept, and each node gives one more. -/
theorem entriesOf_eq_ok {nodes : List (Node × Node)} {taken result : Entries}
    (hread : (entriesOf read nodes taken).run jumps = .ok (result, jumps'))
    (hdistinct : DistinctKeys taken.reverse) :
    DistinctKeys result ∧ (∀ entry ∈ taken, entry ∈ result) ∧
      ∀ node ∈ nodes, ∃ key value before between after,
        (read node.1).run before = .ok (key, between) ∧
          (read node.2).run between = .ok (value, after) ∧ (key, value) ∈ result := by
  induction nodes generalizing taken jumps with
  | nil =>
      obtain ⟨rfl, -⟩ := Prod.mk.inj (Except.ok.inj hread)
      exact ⟨hdistinct, fun entry hentry => mem_reverse.mpr hentry, by simp⟩
  | cons node nodes ih =>
      obtain ⟨⟨key, between⟩, hkey, hread⟩ := Except.bind_eq_ok_iff.mp hread
      simp only at hread
      split at hread
      · cases hread
      · rename_i hfresh
        obtain ⟨⟨value, after⟩, hvalue, hread⟩ := Except.bind_eq_ok_iff.mp hread
        have hnext : DistinctKeys ((key, value) :: taken).reverse := by
          rw [DistinctKeys, reverse_cons, pairwise_append]
          refine ⟨hdistinct, pairwise_singleton _ _, fun first hfirst second hsecond => ?_⟩
          obtain rfl := mem_singleton.mp hsecond
          simp only [hasKey, any_eq_true, not_exists, not_and, Bool.not_eq_true] at hfresh
          exact hfresh first (mem_reverse.mp hfirst)
        obtain ⟨hresult, hkept, hnodes⟩ := ih hread hnext
        refine ⟨hresult, fun entry hentry => hkept entry (mem_cons_of_mem _ hentry), ?_⟩
        rw [forall_mem_cons]
        exact ⟨⟨key, value, jumps, between, after, hkey, hvalue, hkept _ mem_cons_self⟩, hnodes⟩

/-- Another value could have been read before, and nothing else would be read differently. -/
theorem entriesOf_replaced {nodes : List (Node × Node)} {earlier entries : Entries} {old : Value}
    (value : Value) (later : Entries) (hfresh : hasKey (string name) earlier = false)
    (hread : (entriesOf read nodes (later ++ (string name, old) :: earlier)).run jumps =
      .ok (entries, jumps')) :
    (entriesOf read nodes (later ++ (string name, value) :: earlier)).run jumps =
      .ok (store (string name) value entries, jumps') := by
  induction nodes generalizing later jumps with
  | nil =>
      obtain ⟨rfl, rfl⟩ := Prod.mk.inj (Except.ok.inj hread)
      have hfresh' : hasKey (string name) earlier.reverse = false := by
        rwa [hasKey, any_reverse]
      simp only [entriesOf, reverse_append, reverse_cons, append_assoc, singleton_append]
      rw [store_append_cons hfresh']
      rfl
  | cons node nodes ih =>
      obtain ⟨⟨key, between⟩, hkey, hread⟩ := Except.bind_eq_ok_iff.mp hread
      have hkeys : hasKey key (later ++ (string name, value) :: earlier) =
          hasKey key (later ++ (string name, old) :: earlier) := by
        simp [hasKey]
      simp only at hread
      split at hread
      · cases hread
      · rename_i hnew
        obtain ⟨⟨inner, after⟩, hinner, hread⟩ := Except.bind_eq_ok_iff.mp hread
        refine Except.bind_eq_ok_iff.mpr ⟨_, hkey, ?_⟩
        simp only [hkeys, hnew]
        exact Except.bind_eq_ok_iff.mpr ⟨_, hinner, ih ((key, inner) :: later) hread⟩

/-- If a node is read wherever another one is, then it is read in the place of that one, and its
value is stored in the place of the other value. -/
theorem entriesOf_changed {key node node' : Node} {old value : Value}
    (hkey : ∀ jumps, (read key).run jumps = .ok (string name, jumps))
    (hnode : ∀ {jumps jumps'}, (read node).run jumps = .ok (old, jumps') →
      (read node').run jumps = .ok (value, jumps'))
    {front back : List (Node × Node)} {taken entries : Entries}
    (hread : (entriesOf read (front ++ (key, node) :: back) taken).run jumps =
      .ok (entries, jumps'))
    (hlookup : lookup name entries = some old) :
    (entriesOf read (front ++ (key, node') :: back) taken).run jumps =
      .ok (store (string name) value entries, jumps') := by
  induction front generalizing taken jumps with
  | nil =>
      obtain ⟨⟨found, between⟩, hfound, hread⟩ := Except.bind_eq_ok_iff.mp hread
      obtain ⟨rfl, rfl⟩ := Prod.mk.inj (Except.ok.inj ((hkey jumps).symm.trans hfound))
      simp only at hread
      split at hread
      · cases hread
      · rename_i hfresh
        obtain ⟨⟨first, after⟩, hfirst, hread⟩ := Except.bind_eq_ok_iff.mp hread
        have hreplaced (value : Value) :=
          entriesOf_replaced value [] (Bool.eq_false_iff.mpr hfresh) hread
        -- what is stored with the value that has been read is what has been read
        obtain rfl : first = old := by
          have hsame := Except.ok.inj (hread.symm.trans (hreplaced first))
          rw [(Prod.mk.inj hsame).1, lookup_store, if_pos rfl] at hlookup
          exact Option.some.inj hlookup
        refine Except.bind_eq_ok_iff.mpr ⟨_, hfound, ?_⟩
        simp only [hfresh]
        exact Except.bind_eq_ok_iff.mpr ⟨_, hnode hfirst, hreplaced value⟩
  | cons entry front ih =>
      obtain ⟨⟨found, between⟩, hfound, hread⟩ := Except.bind_eq_ok_iff.mp hread
      simp only at hread
      split at hread
      · cases hread
      · rename_i hfresh
        obtain ⟨⟨first, after⟩, hfirst, hread⟩ := Except.bind_eq_ok_iff.mp hread
        refine Except.bind_eq_ok_iff.mpr ⟨_, hfound, ?_⟩
        simp only [hfresh]
        exact Except.bind_eq_ok_iff.mpr ⟨_, hfirst, ih hread⟩

end

/-! ## Reading nodes -/

section

variable {document : Document} {room jumps jumps' : Nat} {value : Value}

theorem read_scalar {anchor : Option Nat} {tag : Option String} {text : String} {style : Style}
    (hread : (read document room (.scalar anchor tag text style)).run jumps =
      .ok (value, jumps')) : Scalar.value tag style text = .ok value := by
  have hrun : (read document room (.scalar anchor tag text style)).run jumps =
      (do return (← Scalar.value tag style text, jumps)) := by
    cases room <;> rfl
  rw [hrun] at hread
  obtain ⟨scalar, hscalar, hread⟩ := Except.bind_eq_ok_iff.mp hread
  obtain ⟨rfl, -⟩ := Prod.mk.inj (Except.ok.inj hread)
  exact hscalar

theorem read_plain {text : String} (hvalue : Scalar.ofPlain text.toList = .ok value) :
    (read document room (.plain text)).run jumps = .ok (value, jumps) := by
  have hrun : (read document room (.plain text)).run jumps =
      (do return (← Scalar.ofPlain text.toList, jumps)) := by
    cases room <;> rfl
  rw [hrun, hvalue]
  rfl

theorem read_mapping {anchor : Option Nat} {nodes : List (Node × Node)} :
    (read document (room + 1) (.mapping anchor none nodes)).run jumps = .ok (value, jumps') ↔
    ∃ entries, value = .mapping entries ∧
      (entriesOf (read document room) nodes []).run jumps = .ok (entries, jumps') := by
  constructor
  · intro hread
    obtain ⟨⟨entries, after⟩, hentries, hread⟩ := Except.bind_eq_ok_iff.mp hread
    obtain ⟨rfl, rfl⟩ := Prod.mk.inj (Except.ok.inj hread)
    exact ⟨entries, rfl, hentries⟩
  · rintro ⟨entries, rfl, hentries⟩
    exact Except.bind_eq_ok_iff.mpr ⟨_, hentries, rfl⟩

/-- A name that reads as a text stands for what is written under it. -/
theorem lookup_of_isUnder {node mapping : Node} {name : String} (hunder : node.IsUnder name mapping)
    (hname : Scalar.ofPlain name.toList = .ok (.string name))
    (hread : (read document (room + 1) mapping).run jumps = .ok (value, jumps')) :
    ∃ entries inner before after, value = .mapping entries ∧ lookup name entries = some inner ∧
      (read document room node).run before = .ok (inner, after) := by
  obtain ⟨anchor, nodes, key, rfl, hmem⟩ := hunder
  obtain ⟨entries, rfl, hentries⟩ := read_mapping.mp hread
  obtain ⟨hdistinct, -, hnodes⟩ := entriesOf_eq_ok hentries .nil
  obtain ⟨found, inner, start, before, after, hkey, hinner, hentry⟩ := hnodes _ hmem
  obtain rfl := Except.ok.inj (hname.symm.trans (read_scalar hkey))
  exact ⟨entries, inner, before, after, rfl, lookup_of_mem hdistinct hentry, hinner⟩

end

theorem follow_congr {first second : Document}
    (hanchored : ∀ number, first.anchored? number = second.anchored? number)
    (hlimit : first.aliasLimit = second.aliasLimit) : follow first = follow second := by
  funext node
  cases node <;> simp only [follow, hanchored, hlimit]

/-- A document counts only for what its aliases stand for and for how many of them are followed. -/
theorem read_congr {first second : Document}
    (hanchored : ∀ number, first.anchored? number = second.anchored? number)
    (hlimit : first.aliasLimit = second.aliasLimit) (room : Nat) :
    read first room = read second room := by
  have hfollow := follow_congr hanchored hlimit
  induction room with
  | zero =>
      funext node
      rw [read, read, hfollow]
  | succ room ih =>
      funext node
      rw [read, read, hfollow, ih]

end Value

/-! ## Mappings with a gap -/

/-- A mapping without an anchor and a tag in which what is written under a name is left out. -/
structure MappingFrame where
  before : List (Node × Node)
  name : String
  after : List (Node × Node)

namespace MappingFrame

variable (frame : MappingFrame)

/-- The mapping with a node under the name. -/
def fill (node : Node) : Node :=
  .mapping none none (frame.before ++ (.plain frame.name, node) :: frame.after)

theorem isUnder_fill (node : Node) : node.IsUnder frame.name (frame.fill node) :=
  ⟨none, _, none, rfl, by simp [Node.plain]⟩

/-- The anchored nodes are those around the gap and those of what is filled in. -/
theorem anchored_fill_congr {first second : Node} (hsame : first.anchored = second.anchored) :
    (frame.fill first).anchored = (frame.fill second).anchored := by
  have happend : ∀ front back : List (Node × Node),
      Node.anchoredEntries (front ++ back) =
        Node.anchoredEntries front ++ Node.anchoredEntries back := by
    intro front back
    induction front with
    | nil => rfl
    | cons entry front ih => simp [Node.anchoredEntries, ih]
  simp [fill, Node.anchored, happend, Node.anchoredEntries, hsame]

theorem weight_fill_congr {first second : Node} (hsame : first.weight = second.weight) :
    (frame.fill first).weight = (frame.fill second).weight := by
  have happend : ∀ front back : List (Node × Node),
      Node.weightOfEntries (front ++ back) =
        Node.weightOfEntries front + Node.weightOfEntries back := by
    intro front back
    induction front with
    | nil => simp [Node.weightOfEntries]
    | cons entry front ih => simp [Node.weightOfEntries, ih, Nat.add_assoc]
  simp [fill, Node.weight, happend, Node.weightOfEntries, hsame]

/-- If a node is read wherever another one is, then the mapping with it is read, and the value of
the node is stored in the mapping with the other one. -/
theorem read_fill {document : Document} {room jumps jumps' : Nat} {node node' : Node}
    {entries : Entries} {old value : Value}
    (hname : Scalar.ofPlain frame.name.toList = .ok (.string frame.name))
    (hnode : ∀ {jumps jumps'}, (Value.read document room node).run jumps = .ok (old, jumps') →
      (Value.read document room node').run jumps = .ok (value, jumps'))
    (hread : (Value.read document (room + 1) (frame.fill node)).run jumps =
      .ok (.mapping entries, jumps'))
    (hlookup : Value.lookup frame.name entries = some old) :
    (Value.read document (room + 1) (frame.fill node')).run jumps =
      .ok (.mapping (Value.store (.string frame.name) value entries), jumps') := by
  obtain ⟨_, heq, hentries⟩ := Value.read_mapping.mp hread
  obtain rfl := Value.mapping.inj heq
  refine Value.read_mapping.mpr ⟨_, rfl, ?_⟩
  exact Value.entriesOf_changed (fun _ => Value.read_plain hname) hnode hentries hlookup

end MappingFrame

end Compliance.Yaml
