import Assay.File.Tree
import Assay.Plugin.Compiled
import Assay.Plugin.Program
import Assay.Text.Sha256
import Assay.Text.WordChar

/-!
# Loading plugins

A plugin is loaded from a file under a name of its own, which is made of the name of the file and a
digest of its path: plugins with files of the same name do not touch each other. A file without a
program is a source text. It defines no analyzers, but it must be a module.
-/

namespace Assay.Plugin

/-- The name in front of the names of all plugins. -/
def namesStart : String := "analyzer_host_plugins."

/-- The name of a plugin without the digest: characters that do not belong in words become low
lines. -/
def plainModuleName (path : Path) : String :=
  namesStart ++ String.ofList (path.stem.toList.map fun c => if Text.isWordChar c then c else '_')

/-- The name of the plugin at a path. -/
def moduleName (path : Path) : String :=
  let digest := Text.Sha256.hex (Text.Utf8.encode path.toString)
  plainModuleName path ++ "_" ++ String.ofList (digest.toList.take 12)

/-- The endings of files that can be loaded. -/
def loadableEndings : List String := [".py", ".pyc", ".so"]

/-- The plugin that a program makes if it stands at a path. -/
def Program.pluginAt (program : Program) (path : Path) : Except Failure Module := do
  return { (← program.run (moduleName path)) with file := path.toString }

/-- Load the plugin at a path. -/
def load (tree : FileTree Program) (path : Path) : Except Failure Module := do
  let path ← tree.resolve path
  if loadableEndings.any fun ending => path.toString.endsWith ending then
    match tree.program? path with
    | some program => program.pluginAt path
    | none =>
        compile path (← tree.readBytes path)
        return { name := moduleName path, file := path.toString }
  else throw (.of "ImportError" ("cannot create an import spec for " ++ path.toString))

end Assay.Plugin
