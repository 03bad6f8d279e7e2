import PodSwap.Fingerprint
import PodSwap.Settings
import PodSwap.Yaml.Load

/-!
# Command line

Checks a spec that comes on standard input and says how it reads: which pod it selects in which
namespace, what it runs there, and the fingerprint that its replacements carry. A spec that cannot
be used is reported on standard error.
-/

namespace PodSwap

/-- How a spec selects its pod, in words. -/
def Selection.describe : Selection → String
  | .imageName name => "image " ++ name
  | .labels table => "labels " ++ ",".intercalate (table.toList.map fun e => e.1 ++ "=" ++ e.2)

/-- How a spec reads, line by line. -/
def Spec.describe (spec : Spec) (defaultNamespace : String) : Except Error (List String) := do
  let selection ← spec.selection
  return [
    "selects: " ++ selection.describe,
    "namespace: " ++ spec.nsOr defaultNamespace,
    "container: " ++ spec.container.getD "any",
    "image: " ++ spec.image.getD "unchanged",
    "patches: " ++ toString spec.patches.length,
    "fingerprint: " ++ Fingerprint.ofSpec spec]

/-- All lines of a stream. -/
partial def readAll (input : IO.FS.Stream) (text : String) : IO String := do
  let line ← input.getLine
  if line.isEmpty then return text else readAll input (text ++ line)

end PodSwap

open PodSwap in
/-- Checks the spec on standard input, given the namespace to take where the spec names none. -/
def main (args : List String) : IO UInt32 := do
  let text ← readAll (← IO.getStdin) ""
  let settings : Settings := {}
  let described := do
    let spec ← Spec.ofYaml text
    spec.describe (args.headD settings.defaultNamespace)
  match described with
  | .ok lines =>
    for line in lines do IO.println line
    return 0
  | .error e =>
    IO.eprintln e.message
    return 1
