import Compliance.Proofs.RuleSet
import Mathlib.Data.List.Forall2

/-!
# What a list of properties says about its rules

A rule is listed by its identifier, its description and its parameters, each with
four texts.  Since every parameter has four properties, and the properties of a
rule are those of its rule set, two lists of properties are the same only if the
rules that they list are the same in all of this, rule by rule and parameter by
parameter.  What else is known about a rule, such as its severity or where the
value of a parameter comes from, is not listed.
-/

namespace Compliance

/-- Two parameters are listed with the same texts. -/
def Parameter.ListedAlike (first second : Parameter) : Prop :=
  first.id = second.id ∧ first.description = second.description ∧
    first.default = second.default ∧ first.optionsText = second.optionsText

/-- Two rules are listed with the same texts, and so are their parameters. -/
def Rule.ListedAlike (first second : Rule) : Prop :=
  first.id = second.id ∧ first.description = second.description ∧
    List.Forall₂ Parameter.ListedAlike first.parameters second.parameters

namespace Property

/-! ## One rule -/

/-- The names and values of the properties of a parameter. -/
def parameterContents (parameter : Parameter) : List (String × String) :=
  [(parameterId, parameter.id), (parameterDescription, parameter.description),
    (parameterDefault, parameter.default), (parameterAlternatives, parameter.optionsText)]

theorem contents_ofRule (ruleSet : String) (rule : Rule) :
    contents (ofRule ruleSet rule) =
      (ruleId, rule.id) :: (ruleDescription, rule.description) ::
        rule.parameters.flatMap parameterContents := by
  simp only [contents, ofRule, List.map_cons, List.map_flatMap]
  rfl

theorem parameterContents_eq_iff {first second : Parameter} :
    parameterContents first = parameterContents second ↔ first.ListedAlike second := by
  simp [parameterContents, Parameter.ListedAlike]

/-- The properties of parameters, of which each one has four, tell the parameters apart. -/
theorem flatMap_parameterContents_eq_iff {parameters others : List Parameter} :
    parameters.flatMap parameterContents = others.flatMap parameterContents ↔
      List.Forall₂ Parameter.ListedAlike parameters others := by
  induction parameters generalizing others with
  | nil =>
      cases others with
      | nil => simp
      | cons other others => simp [parameterContents]
  | cons parameter parameters ih =>
      cases others with
      | nil => simp [parameterContents]
      | cons other others =>
          -- four properties on both sides, so that both lists are cut at the same place
          have hlength : (parameterContents parameter).length =
              (parameterContents other).length := rfl
          rw [List.flatMap_cons, List.flatMap_cons,
            List.append_eq_append_iff_of_size_eq_left hlength, parameterContents_eq_iff, ih,
            List.forall₂_cons]

theorem contents_ofRule_eq_iff {ruleSet other : String} {first second : Rule} :
    contents (ofRule ruleSet first) = contents (ofRule other second) ↔
      first.ListedAlike second := by
  simp [contents_ofRule, Rule.ListedAlike, flatMap_parameterContents_eq_iff]

/-- The properties of a rule are their names and values with the rule set. -/
theorem map_contents_ofRule (ruleSet : String) (rule : Rule) :
    (contents (ofRule ruleSet rule)).map (fun entry => Property.mk entry.1 entry.2 ruleSet) =
      ofRule ruleSet rule := by
  rw [contents, List.map_map]
  refine (List.map_congr_left fun property hmem => ?_).trans (List.map_id _)
  rw [Function.comp_apply, ← ruleSet_of_mem_ofRule hmem]
  rfl

theorem ofRule_eq_iff {ruleSet : String} {first second : Rule} :
    ofRule ruleSet first = ofRule ruleSet second ↔ first.ListedAlike second := by
  rw [← @contents_ofRule_eq_iff ruleSet ruleSet]
  constructor
  · exact congrArg contents
  · intro hcontents
    rw [← map_contents_ofRule, hcontents, map_contents_ofRule]

theorem length_ofRule (ruleSet : String) (rule : Rule) :
    (ofRule ruleSet rule).length = 2 + 4 * rule.parameters.length := by
  have hfour : ∀ parameter, (ofParameter ruleSet parameter).length = 4 := fun _ => rfl
  simp only [ofRule, List.length_cons, List.length_flatMap, hfour, List.map_const',
    List.sum_replicate_nat]
  omega

/-! ## All rules -/

/-- The properties are the blocks of the rules in their order. -/
theorem ofRulesFrom_eq_flatten (total start : Nat) (rules : List Rule) :
    ofRulesFrom total start rules =
      (rules.mapIdx fun index rule => ofRule (ruleSetId (start + index) total) rule).flatten := by
  induction rules generalizing start with
  | nil => rfl
  | cons rule others ih =>
      simp only [ofRulesFrom, ih, List.mapIdx_cons, List.flatten_cons, Nat.add_zero,
        Nat.add_right_comm, Nat.add_assoc]

theorem length_ofRulesFrom (total start : Nat) (rules : List Rule) :
    (ofRulesFrom total start rules).length =
      (rules.map fun rule => 2 + 4 * rule.parameters.length).sum := by
  induction rules generalizing start with
  | nil => rfl
  | cons rule others ih =>
      rw [ofRulesFrom, List.length_append, length_ofRule, ih, List.map_cons, List.sum_cons]

/-- Rules that are listed alike have the same properties. -/
theorem ofRulesFrom_eq_of_listedAlike {total : Nat} {rules others : List Rule}
    (halike : List.Forall₂ Rule.ListedAlike rules others) (start : Nat) :
    ofRulesFrom total start rules = ofRulesFrom total start others := by
  induction halike generalizing start with
  | nil => rfl
  | cons hhead _ ih => rw [ofRulesFrom, ofRulesFrom, ofRule_eq_iff.mpr hhead, ih]

/-- Rules with the same properties are listed alike. -/
theorem listedAlike_of_ofRules_eq {rules others : List Rule}
    (heq : ofRules rules = ofRules others) : List.Forall₂ Rule.ListedAlike rules others := by
  have hlength : rules.length = others.length := by
    simpa [valuesOf_ruleId_ofRules] using congrArg List.length (congrArg (valuesOf ruleId) heq)
  refine List.forall₂_iff_get.mpr ⟨hlength, fun index hindex hother => ?_⟩
  -- the rule sets have the same identifiers in both lists, whose totals are the same
  have hrule := inRuleSet_ofRules hindex
  rw [heq, hlength, inRuleSet_ofRules hother] at hrule
  exact ofRule_eq_iff.mp hrule.symm

/-- The list of properties falls apart into the rule sets of the rules, and so it tells everything
that is listed of the rules. -/
theorem ofRules_eq_flatten_and_eq_iff (rules : List Rule) :
    ofRules rules =
        (rules.mapIdx fun index rule => ofRule (ruleSetId index rules.length) rule).flatten ∧
      (∀ index : Fin rules.length,
        IsBlock (ruleSetId index rules.length)
            (ofRule (ruleSetId index rules.length) rules[index]) (ofRules rules) ∧
          inRuleSet (ruleSetId index rules.length) (ofRules rules) =
            ofRule (ruleSetId index rules.length) rules[index]) ∧
      (ofRules rules).length = (rules.map fun rule => 2 + 4 * rule.parameters.length).sum ∧
      ∀ others : List Rule,
        ofRules rules = ofRules others ↔ List.Forall₂ Rule.ListedAlike rules others := by
  refine ⟨?_, fun index => ⟨isBlock_ofRules index.isLt, inRuleSet_ofRules index.isLt⟩,
    length_ofRulesFrom _ _ _, fun others => ⟨listedAlike_of_ofRules_eq, fun halike => ?_⟩⟩
  · simpa [ofRules] using ofRulesFrom_eq_flatten rules.length 0 rules
  · rw [ofRules, ofRules, halike.length_eq]
    exact ofRulesFrom_eq_of_listedAlike halike 0

end Property

end Compliance
