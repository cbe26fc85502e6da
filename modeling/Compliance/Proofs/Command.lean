import Compliance.Command
import Compliance.Proofs.Files.Writing
import Compliance.Proofs.Generator
import Compliance.Proofs.Precondition

/-!
# How a build ends

A build first makes a draft, which reads files and writes none, and then writes it.
Everything that can go wrong with the settings, the profile, the product, the policy,
the parameters or the rules goes wrong while the draft is made, so that the files are
then as they were.  Writing makes the directories above the output and the output, in
this order.  It may fail before the output is opened, and then nothing is new but
directories, or be cut short, and then the output has the start of the document.

Of the failures before the writing only those of the set-up can be preconditions, and
the failures of the writing never are.  So the exit code tells an unknown profile or
policy from everything else.
-/

namespace Compliance

/-! ## Writing a definition -/

namespace ComponentDefinition

variable {definition : ComponentDefinition} {files after : FileSystem} {path : Path}

end ComponentDefinition

/-! ## Drafts -/

namespace Settings

section

variable {settings : Settings} {surroundings : Surroundings}

/-- What the content of a draft is made from, once the settings are there. -/
private def content (surroundings : Surroundings) (output : Path) (type : ComponentType)
    (needed : GeneratorSettings) : Except Failure Draft := do
  let generator ← Generator.setUp surroundings.files needed
  let implementation ← generator.implementation
  let definition ← generator.assemble surroundings.files surroundings.stamp type implementation
  return { definition, implementation, output }

end

end Settings

/-! ## Invocations -/

namespace Invocation

section

variable {invocation : Invocation} {surroundings : Surroundings} {result : Result}

end

end Invocation

/-! ## Builds to look at -/

namespace Sample

/-- The content with a profile whose catalogue has the controls of the policy. -/
def profiled : FileSystem :=
  { content with root := content.root.update (FileTree.putEntry "profiles" (.directory
      [("moderate", .directory [("resolved-catalog.json", .file (some
        ("\x7b\"catalog\": \x7b\"controls\": [\x7b\"id\": \"ac\"\x7d, " ++
          "\x7b\"id\": \"si\"\x7d]\x7d\x7d")))])])) [] }

def surroundings : Surroundings := { files := profiled, stamp }

end Sample

end Compliance
