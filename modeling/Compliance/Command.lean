import Compliance.CommandLine
import Compliance.Generator
import Compliance.Report
import Compliance.Settings.File

/-!
# Carrying out commands

A command is carried out in a fixed order: its settings are loaded, the log
filter is checked, and then the command itself runs.  The only command that
changes files is the one that builds, and it does so as its last step.
-/

namespace Compliance

/-- The words for the faults of documents, settings files and log filters. -/
structure CommandWording extends Wording where
  toml : Toml.Fault → String
  logFilter : LogFilter.Fault → String

/-- The words of the faults themselves. -/
def CommandWording.plain : CommandWording :=
  { Wording.plain with
    toml := Toml.Fault.message
    logFilter := LogFilter.Fault.message }

/-- Why a command fails. -/
inductive CommandFailure where
  | settings (fault : SettingsFault)
  | logFilter (fault : LogFilter.Fault)
  | content (failure : Failure)
deriving Repr, DecidableEq, Inhabited

namespace CommandFailure

/-- The failure in words. -/
def message (wording : CommandWording) : CommandFailure → String
  | settings fault => fault.message wording.toml
  | logFilter fault =>
    "Failed to initialize logging: Invalid log filter: " ++ wording.logFilter fault
  | content failure => failure.message wording.toWording

/-- The exit code of a command that fails. -/
def exitCode : CommandFailure → Nat
  | content failure => if failure.isPrecondition then 2 else 1
  | _ => 1

end CommandFailure

/-- What a command finds when it is carried out. -/
structure Surroundings where
  files : FileSystem
  stamp : Stamp
  /-- The log filter that takes the place of the one in the settings. -/
  logFilter : Option String := none

/-- What a command prints. -/
inductive Printout where
  | report (report : Report)
  | document (value : Json)
  | version (text : String)
  | help

/-- How a command ends. -/
inductive Verdict where
  | done (printout : Printout)
  | failed (failure : CommandFailure)
  | misused (fault : CommandLineFault)

/-- The exit code of a command. -/
def Verdict.exitCode : Verdict → Nat
  | done _ => 0
  | failed failure => failure.exitCode
  | misused _ => 2

/-- How a command ends, with the files as it leaves them. -/
structure Result where
  files : FileSystem
  verdict : Verdict

/-! ## Single commands -/

namespace Settings

/-- All that is needed to load the rules of the product of the settings. -/
def repository (settings : Settings) (files : FileSystem) :
    Except CommandFailure RuleRepository := do
  let id ← settings.product.mapError .settings
  let load : Except Failure RuleRepository := do
    let product ← Product.load files settings.root id
    let product ← match settings.paths.buildConfig with
      | some path => product.withBuildConfig files path
      | none => pure product
    let parameters ← ParameterStore.load files product
    let locator ← RuleLocator.forProduct files product settings.paths.ruleIndex
    return { files, product, parameters, locator }
  load.mapError .content

/-- Loads rules and prints them with their properties. -/
def printRules (settings : Settings) (files : FileSystem) (entries : List String)
    (format : Format) : Except CommandFailure Printout := do
  let repository ← settings.repository files
  let rules ← (repository.load entries).mapError .content
  match format with
  | .table => return .report (Report.rules repository.product rules)
  | .json => return .document (Report.rulesDocument rules)

/-- Looks names up in the catalogue of the profile and prints what they stand for. -/
def printResolution (settings : Settings) (files : FileSystem) (names : List String)
    (format : Format) : Except CommandFailure Printout := do
  let name ← settings.profile.mapError .settings
  let profile := Profile.ofName name settings.vendor
  let controls ← (profile.resolve files).mapError .content
  let index := CatalogIndex.build controls
  match format with
  | .table => return .report (Report.resolution profile index names)
  | .json => return .document (Report.resolutionDocument index names)

/-- What is to be written: the definition, what the policy implements, and the file. -/
structure Draft where
  definition : ComponentDefinition
  implementation : Implementation
  output : Path

/-- The definition that the settings ask for. -/
def draft (settings : Settings) (surroundings : Surroundings) : Except CommandFailure Draft := do
  let files := surroundings.files
  let output ← settings.output.mapError .settings
  let type ← settings.componentType.mapError .settings
  let needed ← settings.generator.mapError .settings
  let make : Except Failure Draft := do
    let generator ← Generator.setUp files needed
    let implementation ← generator.implementation
    let definition ← generator.assemble files surroundings.stamp type implementation
    return { definition, implementation, output }
  make.mapError .content

/-- The number of the properties of the first component of a definition. -/
def propertyCount (definition : ComponentDefinition) : Nat :=
  (definition.components.head?.map fun component => component.properties.length).getD 0

/-- Writes the definition that the settings ask for, and reports on it. -/
def writeDefinition (settings : Settings) (surroundings : Surroundings) : Result :=
  match settings.draft surroundings with
  | .error failure => ⟨surroundings.files, .failed failure⟩
  | .ok { definition, implementation, output } =>
    match definition.write surroundings.files output with
    | (files, some failure) => ⟨files, .failed (.content failure)⟩
    | (files, none) =>
      ⟨files, .done (.report (Report.built implementation (propertyCount definition) output))⟩

end Settings

/-! ## Invocations -/

namespace Invocation

/-- The log filter has to be one, unless verbosity is asked for. -/
def checkLogFilter (invocation : Invocation) (settings : Settings) (surroundings : Surroundings) :
    Except LogFilter.Fault Unit :=
  if invocation.verbose then .ok ()
  else LogFilter.checkChosen surroundings.logFilter settings.logging.filter

/-- The settings that hold for an invocation. -/
def settings (invocation : Invocation) (surroundings : Surroundings) :
    Except CommandFailure Settings := do
  let loaded ←
    (Settings.load surroundings.files invocation.settingsFile).mapError .settings
  (invocation.checkLogFilter loaded surroundings).mapError .logFilter
  return (loaded.overriddenBy invocation.paths invocation.build).withDefaults surroundings.files

/-- Carries out an invocation. -/
def run (invocation : Invocation) (surroundings : Surroundings) : Result :=
  let files := surroundings.files
  let printed (printout : Except CommandFailure Printout) : Result :=
    match printout with
    | .ok printout => ⟨files, .done printout⟩
    | .error failure => ⟨files, .failed failure⟩
  match invocation.settings surroundings with
  | .error failure => ⟨files, .failed failure⟩
  | .ok settings =>
    match invocation.command with
    | .build => settings.writeDefinition surroundings
    | .rules entries format => printed (settings.printRules files entries format)
    | .resolve names format => printed (settings.printResolution files names format)

/-- The name and the version of the program, or of one of its commands. -/
def version (command : Option CommandName) : String :=
  "compdef" ++ (command.elim "" fun command => "-" ++ command.word) ++ " 0.1.0"

/-- Carries out a command line. -/
def runLine (arguments : List String) (surroundings : Surroundings) : Result :=
  match parse arguments with
  | .ok invocation => invocation.run surroundings
  | .error .help => ⟨surroundings.files, .done .help⟩
  | .error (.version command) => ⟨surroundings.files, .done (.version (version command))⟩
  | .error (.misused fault) => ⟨surroundings.files, .misused fault⟩

end Invocation

/-! ## Printing -/

/-- How the program is used. -/
def usage : Report :=
  [[.title "compdef", .plain " builds component definitions from compliance content"],
    Report.blank,
    [.plain "  compdef build [-o FILE] [-p PROFILE] [--product ID] [-c POLICY]"],
    [.plain "  compdef rules [--product ID] [--format table|json] ENTRY..."],
    [.plain "  compdef resolve [-p PROFILE] [--format table|json] NAME..."],
    Report.blank,
    [.plain "  every command: [-r ROOT] [-v VENDOR] [-j INDEX] [-b BUILD-CONFIG] [--config FILE]"],
    [.plain "                 [--verbose] [--help] [--version]"]]

/-- The text of a printout. -/
def Printout.render (styled : Bool) : Printout → String
  | report lines => lines.render styled
  | document value => value.pretty ++ "\n"
  | version text => text ++ "\n"
  | help => usage.render styled

/-- What a command says on the side about its end: why it failed or how it is used. -/
def Verdict.complaint (wording : CommandWording) : Verdict → Report
  | done _ => []
  | failed failure => [Report.failure (failure.message wording)]
  | misused fault => Report.failure fault.message :: Report.blank :: usage

/-- What a command prints. -/
def Verdict.output (styled : Bool) : Verdict → String
  | done printout => printout.render styled
  | _ => ""

end Compliance
