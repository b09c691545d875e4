import Xsd.CommandLine.Run

/-!
# The program

Reads the files that the arguments lead to, and writes the answer.
-/

namespace Xsd.CommandLine

/-- Why a file cannot be read. -/
def faultOf : IO.Error → FileFault
  | .noFileOrDirectory _ _ _ => .missing
  | .inappropriateType _ _ _ => .isDirectory
  | .permissionDenied _ _ _ => .denied
  | e => .other (toString e)

/-- The text of a file. -/
def readFile (path : String) : IO (Except FileFault String) := do
  try
    let bytes ← IO.FS.readBinFile path
    match Text.ofUtf8 bytes.toList with
    | .ok text => return .ok text
    | .error _ => return .error .notText
  catch e => return .error (faultOf e)

/-- Files by path. -/
abbrev Known := List (String × Except FileFault String)

/-- Read files, and those to which they refer. -/
partial def gather (known : Known) : List String → IO Known
  | [] => return known
  | path :: rest => do
    if (known.lookup path).isSome then gather known rest
    else
      let text ← readFile path
      let next := match text with
        | .ok text => references path text
        | .error _ => []
      gather ((path, text) :: known) (next ++ rest)

def filesOf (known : Known) : Files :=
  ⟨fun path => (known.lookup path).getD (.error .missing), known.length⟩

end Xsd.CommandLine

open Xsd.CommandLine in
def main (arguments : List String) : IO UInt32 := do
  let paths := match readCommand arguments with
    | .ok command => sources command
    | .error _ => []
  let known ← gather [] paths
  let outcome := run (filesOf known) arguments
  (← IO.getStdout).putStr outcome.output
  (← IO.getStderr).putStr outcome.errorText
  return outcome.code.toUInt32
