import Compliance.Proofs.Decimal.Digits
import Compliance.Rule

/-!
# Rule sets

The number in the identifier of a rule set can be read back, leading zeros or
not, so rules at different places never share a rule set.  For this reason the
flat list of the properties falls apart again: the rule set of a rule is one block
of the list (`isBlock_ofRules`), and the properties in it are that rule's
properties, all of them and in their order (`inRuleSet_ofRules`).
-/

namespace Compliance

/-! ## Identifiers -/

/-- An identifier has one number, even among different totals. -/
theorem eq_of_ruleSetId_eq {first second total other : Nat}
    (heq : ruleSetId first total = ruleSetId second other) : first = second := by
  have hdigits := congrArg String.toList heq
  simp only [ruleSetId, String.toList_append, String.toList_ofList,
    List.append_cancel_left_eq] at hdigits
  have hnumber := congrArg (fun digits => Nat.ofDigitChars 10 digits 0) hdigits
  simpa only [ofDigitChars_padded] using hnumber

namespace Property

/-! ## Views of a list of properties -/

/-- The properties of one rule set. -/
def inRuleSet (ruleSet : String) (properties : List Property) : List Property :=
  properties.filter fun property => property.ruleSet = ruleSet

/-- The values of the properties with a name. -/
def valuesOf (name : String) (properties : List Property) : List String :=
  (properties.filter fun property => property.name = name).map (·.value)

/-- The names and values, without the rule sets. -/
def contents (properties : List Property) : List (String × String) :=
  properties.map fun property => (property.name, property.value)

theorem valuesOf_append (name : String) (first second : List Property) :
    valuesOf name (first ++ second) = valuesOf name first ++ valuesOf name second := by
  simp [valuesOf]

theorem inRuleSet_append (ruleSet : String) (first second : List Property) :
    inRuleSet ruleSet (first ++ second) = inRuleSet ruleSet first ++ inRuleSet ruleSet second :=
  List.filter_append first second

/-! ## The properties of one rule -/

theorem ruleSet_of_mem_ofRule {ruleSet : String} {rule : Rule} {property : Property}
    (hmem : property ∈ ofRule ruleSet rule) : property.ruleSet = ruleSet := by
  simp only [ofRule, List.mem_cons, List.mem_flatMap, ofParameter, List.not_mem_nil,
    or_false] at hmem
  rcases hmem with rfl | rfl | ⟨parameter, -, rfl | rfl | rfl | rfl⟩ <;> rfl

private theorem valuesOf_parameters (name ruleSet : String) (parameters : List Parameter) :
    valuesOf name (parameters.flatMap (ofParameter ruleSet)) =
      parameters.flatMap fun parameter => valuesOf name (ofParameter ruleSet parameter) := by
  induction parameters with
  | nil => rfl
  | cons parameter others ih => rw [List.flatMap_cons, valuesOf_append, ih, List.flatMap_cons]

/-- A rule has one property with its identifier. -/
theorem valuesOf_ruleId_ofRule (ruleSet : String) (rule : Rule) :
    valuesOf ruleId (ofRule ruleSet rule) = [rule.id] := by
  have hnone : ∀ parameter, valuesOf ruleId (ofParameter ruleSet parameter) = [] := by
    simp [valuesOf, ofParameter, ruleId, parameterId, parameterDescription, parameterDefault,
      parameterAlternatives]
  calc valuesOf ruleId (ofRule ruleSet rule)
      = rule.id :: valuesOf ruleId (rule.parameters.flatMap (ofParameter ruleSet)) := by
        simp [valuesOf, ofRule, ruleId, ruleDescription]
    _ = [rule.id] := by simp [valuesOf_parameters, hnone]

/-- A rule names each of its parameters once. -/
theorem valuesOf_parameterId_ofRule (ruleSet : String) (rule : Rule) :
    valuesOf parameterId (ofRule ruleSet rule) = rule.parameters.map Parameter.id := by
  have hone : ∀ parameter, valuesOf parameterId (ofParameter ruleSet parameter) =
      [parameter.id] := by
    simp [valuesOf, ofParameter, parameterId, parameterDescription, parameterDefault,
      parameterAlternatives]
  calc valuesOf parameterId (ofRule ruleSet rule)
      = valuesOf parameterId (rule.parameters.flatMap (ofParameter ruleSet)) := by
        simp [valuesOf, ofRule, ruleId, ruleDescription, parameterId]
    _ = rule.parameters.map Parameter.id := by
        simp only [valuesOf_parameters, hone, List.map_eq_flatMap]

/-- A rule has one default value for each of its parameters. -/
theorem valuesOf_parameterDefault_ofRule (ruleSet : String) (rule : Rule) :
    valuesOf parameterDefault (ofRule ruleSet rule) = rule.parameters.map Parameter.default := by
  have hone : ∀ parameter, valuesOf parameterDefault (ofParameter ruleSet parameter) =
      [parameter.default] := by
    simp [valuesOf, ofParameter, parameterId, parameterDescription, parameterDefault,
      parameterAlternatives]
  calc valuesOf parameterDefault (ofRule ruleSet rule)
      = valuesOf parameterDefault (rule.parameters.flatMap (ofParameter ruleSet)) := by
        simp [valuesOf, ofRule, ruleId, ruleDescription, parameterDefault]
    _ = rule.parameters.map Parameter.default := by
        simp only [valuesOf_parameters, hone, List.map_eq_flatMap]

/-! ## The properties of all rules -/

theorem mem_ofRulesFrom {total start : Nat} {rules : List Rule} {property : Property} :
    property ∈ ofRulesFrom total start rules ↔
      ∃ index, ∃ hindex : index < rules.length,
        property ∈ ofRule (ruleSetId (start + index) total) rules[index] := by
  induction rules generalizing start with
  | nil => simp [ofRulesFrom]
  | cons rule others ih =>
      rw [ofRulesFrom, List.mem_append, ih]
      constructor
      · rintro (hfirst | ⟨index, hindex, hmem⟩)
        · exact ⟨0, by simp, hfirst⟩
        · refine ⟨index + 1, by simpa using hindex, ?_⟩
          rwa [Nat.add_right_comm] at hmem
      · rintro ⟨_ | index, hindex, hmem⟩
        · exact .inl hmem
        · refine .inr ⟨index, by simpa using hindex, ?_⟩
          rw [Nat.add_right_comm]
          exact hmem

theorem inRuleSet_ofRule_self (ruleSet : String) (rule : Rule) :
    inRuleSet ruleSet (ofRule ruleSet rule) = ofRule ruleSet rule :=
  List.filter_eq_self.mpr fun _ hmem => by simpa using ruleSet_of_mem_ofRule hmem

theorem ofRulesFrom_append (total start : Nat) (first second : List Rule) :
    ofRulesFrom total start (first ++ second) =
      ofRulesFrom total start first ++ ofRulesFrom total (start + first.length) second := by
  induction first generalizing start with
  | nil => rfl
  | cons rule others ih =>
      rw [List.cons_append, ofRulesFrom, ofRulesFrom, ih, List.append_assoc, List.length_cons,
        Nat.add_right_comm, Nat.add_assoc]

/-- Rules with other numbers leave nothing in a rule set. -/
theorem inRuleSet_ofRulesFrom_eq_nil {number other total start : Nat} {rules : List Rule}
    (hnumber : ∀ index < rules.length, start + index ≠ number) :
    inRuleSet (ruleSetId number other) (ofRulesFrom total start rules) = [] := by
  refine List.filter_eq_nil_iff.mpr fun property hmem => ?_
  obtain ⟨index, hindex, hrule⟩ := mem_ofRulesFrom.mp hmem
  rw [ruleSet_of_mem_ofRule hrule, decide_eq_true_iff]
  exact fun heq => hnumber index hindex (eq_of_ruleSetId_eq heq)

/-- The properties of a rule set stand in a list as one block, and nowhere else. -/
def IsBlock (ruleSet : String) (block properties : List Property) : Prop :=
  ∃ before after, properties = before ++ block ++ after ∧ inRuleSet ruleSet before = [] ∧
    inRuleSet ruleSet block = block ∧ inRuleSet ruleSet after = []

theorem IsBlock.inRuleSet_eq {ruleSet : String} {block properties : List Property}
    (hblock : IsBlock ruleSet block properties) : inRuleSet ruleSet properties = block := by
  obtain ⟨before, after, rfl, hbefore, hself, hafter⟩ := hblock
  rw [inRuleSet_append, inRuleSet_append, hbefore, hself, hafter, List.nil_append,
    List.append_nil]

/-- The rule set of a rule is the block of its properties. -/
theorem isBlock_ofRules {rules : List Rule} {index : Nat} (hindex : index < rules.length) :
    IsBlock (ruleSetId index rules.length) (ofRule (ruleSetId index rules.length) rules[index])
      (ofRules rules) := by
  -- the rules before and after have other numbers
  have hsplit : rules = rules.take index ++ rules[index] :: rules.drop (index + 1) := by simp
  have hlength : (rules.take index).length = index := List.length_take_of_le (Nat.le_of_lt hindex)
  refine ⟨ofRulesFrom rules.length 0 (rules.take index),
    ofRulesFrom rules.length (index + 1) (rules.drop (index + 1)), ?_, ?_,
    inRuleSet_ofRule_self _ _, ?_⟩
  · calc ofRules rules
        = ofRulesFrom rules.length 0
            (rules.take index ++ rules[index] :: rules.drop (index + 1)) := by
          rw [← hsplit, ofRules]
      _ = _ := by
          rw [ofRulesFrom_append, hlength, Nat.zero_add, ofRulesFrom, List.append_assoc]
  · exact inRuleSet_ofRulesFrom_eq_nil fun place hplace => by omega
  · exact inRuleSet_ofRulesFrom_eq_nil fun place hplace => by omega

/-- The properties of the rule set of a rule are the properties of the rule. -/
theorem inRuleSet_ofRules {rules : List Rule} {index : Nat} (hindex : index < rules.length) :
    inRuleSet (ruleSetId index rules.length) (ofRules rules) =
      ofRule (ruleSetId index rules.length) rules[index] :=
  (isBlock_ofRules hindex).inRuleSet_eq

/-- Every property belongs to the rule set of some rule. -/
theorem exists_index_of_mem_ofRules {rules : List Rule} {property : Property}
    (hmem : property ∈ ofRules rules) :
    ∃ index, index < rules.length ∧ property.ruleSet = ruleSetId index rules.length := by
  obtain ⟨index, hindex, hrule⟩ := mem_ofRulesFrom.mp hmem
  exact ⟨index, hindex, by simpa using ruleSet_of_mem_ofRule hrule⟩

/-- The rules are named in their order. -/
theorem valuesOf_ruleId_ofRules (rules : List Rule) :
    valuesOf ruleId (ofRules rules) = rules.map Rule.id := by
  have hfrom : ∀ (total start : Nat),
      valuesOf ruleId (ofRulesFrom total start rules) = rules.map Rule.id := by
    intro total
    induction rules with
    | nil => exact fun start => rfl
    | cons rule others ih =>
        intro start
        rw [ofRulesFrom, valuesOf_append, valuesOf_ruleId_ofRule, ih, List.singleton_append,
          List.map_cons]
  exact hfrom _ _

end Property

end Compliance
