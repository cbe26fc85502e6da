import Compliance.Component
import Compliance.Generator
import Compliance.LogFilter
import Compliance.Toml.Basic

/-!
# Settings

Settings say where the content is and what to do with it.  A settings file and
the command line both give settings, and the command line wins; what neither of
them gives is derived from the root of the content tree, which has to be settled
first.
-/

namespace Compliance

/-! ## Groups of settings -/

/-- Where the content is. -/
structure PathSettings where
  root : Option Path := none
  vendor : Option Path := none
  ruleIndex : Option Path := none
  buildConfig : Option Path := none
deriving Repr, DecidableEq, Inhabited

/-- What is to be built. -/
structure BuildSettings where
  product : Option String := none
  profile : Option String := none
  policy : Option String := none
  componentType : Option String := none
  output : Option Path := none
deriving Repr, DecidableEq, Inhabited

/-- How log events are written. -/
inductive LogFormat where
  | pretty
  | json
  | compact
deriving Repr, DecidableEq, Inhabited

/-- The word for a format. -/
def LogFormat.word : LogFormat → String
  | pretty => "pretty"
  | json => "json"
  | compact => "compact"

/-- What is logged, and how. -/
structure LogSettings where
  filter : Option String := none
  format : LogFormat := .pretty
deriving Repr, DecidableEq, Inhabited

/-- All settings. -/
structure Settings where
  paths : PathSettings := {}
  build : BuildSettings := {}
  logging : LogSettings := {}
deriving Repr, DecidableEq, Inhabited

/-! ## Faults -/

/-- What is wrong with settings. -/
inductive SettingsFault where
  | notFound (path : Path)
  | unreadable (path : Path) (fault : FileFault)
  | malformed (path : Path) (fault : Toml.Fault)
  | missing (name : String)
  | invalid (name reason : String)
deriving Repr, DecidableEq, Inhabited

/-- The fault in words, with the words for the faults of settings files. -/
def SettingsFault.message (toml : Toml.Fault → String) : SettingsFault → String
  | notFound path => "Configuration file not found: " ++ path.shown
  | unreadable path fault =>
    "Failed to read configuration file " ++ path.shown ++ ": " ++ fault.message
  | malformed path fault =>
    "Failed to parse configuration file " ++ path.shown ++ ": " ++ toml fault
  | missing name =>
    "Missing required configuration: " ++ name ++ " (set it in compdef.toml or pass --" ++ name ++
      ")"
  | invalid name reason => "Invalid value for " ++ name ++ ": " ++ reason

/-! ## Precedence -/

/-- The settings of the first group that are given, and those of the second for the others. -/
def PathSettings.over (first second : PathSettings) : PathSettings :=
  { root := first.root <|> second.root
    vendor := first.vendor <|> second.vendor
    ruleIndex := first.ruleIndex <|> second.ruleIndex
    buildConfig := first.buildConfig <|> second.buildConfig }

/-- The settings of the first group that are given, and those of the second for the others. -/
def BuildSettings.over (first second : BuildSettings) : BuildSettings :=
  { product := first.product <|> second.product
    profile := first.profile <|> second.profile
    policy := first.policy <|> second.policy
    componentType := first.componentType <|> second.componentType
    output := first.output <|> second.output }

namespace Settings

/-- Settings with others in front of them. -/
def overriddenBy (settings : Settings) (paths : PathSettings) (build : BuildSettings) : Settings :=
  { settings with paths := paths.over settings.paths, build := build.over settings.build }

/-! ## Defaults -/

/-- The root of the content tree when none is set. -/
def defaultRoot : Path := "."

/-- The name of the directory with profiles in a content tree. -/
def vendorDirectory : Path := "vendor"

/-- Where a content tree has its index of rule directories. -/
def indexFile : Path := "build/rule_dirs.json"

/-- Where a content tree has its build configuration. -/
def buildConfigFile : Path := "build/build_config.yml"

/-- The root of the content tree. -/
def root (settings : Settings) : Path := settings.paths.root.getD defaultRoot

/-- The directory with profiles. -/
def vendor (settings : Settings) : Path :=
  settings.paths.vendor.getD (settings.root.join vendorDirectory)

/-- A path that leads to a file. -/
def existing (files : FileSystem) (path : Path) : Option Path :=
  if files.isFile path then some path else none

/-- Sets the paths that are not set. The index and the build configuration of the content tree are
taken only if they are there. -/
def withDefaults (settings : Settings) (files : FileSystem) : Settings :=
  let file (path : Path) : Option Path := existing files (settings.root.join path)
  { settings with
    paths :=
      { root := some settings.root
        vendor := some settings.vendor
        ruleIndex := settings.paths.ruleIndex <|> file indexFile
        buildConfig := settings.paths.buildConfig <|> file buildConfigFile } }

/-! ## What has to be set -/

/-- A setting that has to be there. -/
def required {α : Type} (name : String) (value : Option α) : Except SettingsFault α :=
  match value with
  | some value => .ok value
  | none => .error (.missing name)

/-- The product. -/
def product (settings : Settings) : Except SettingsFault String :=
  required "product" settings.build.product

/-- The profile. -/
def profile (settings : Settings) : Except SettingsFault String :=
  required "profile" settings.build.profile

/-- The policy. -/
def policy (settings : Settings) : Except SettingsFault String :=
  required "policy" settings.build.policy

/-- The file to write to. -/
def output (settings : Settings) : Except SettingsFault Path :=
  required "output" settings.build.output

/-- The type of the component; a service unless something else is set. -/
def componentType (settings : Settings) : Except SettingsFault ComponentType :=
  match settings.build.componentType with
  | none => .ok .service
  | some word => (ComponentType.parse word).mapError (.invalid "component_type")

/-- What a generator needs to know. Of the settings that are missing the profile is named first,
then the policy, and then the product. -/
def generator (settings : Settings) : Except SettingsFault GeneratorSettings := do
  let profile ← settings.profile
  let policy ← settings.policy
  let product ← settings.product
  return {
    root := settings.root
    vendor := settings.vendor
    product, profile, policy
    ruleIndex := settings.paths.ruleIndex
    buildConfig := settings.paths.buildConfig }

end Settings

end Compliance
