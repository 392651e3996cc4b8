/-
**The program.**

Reads the arguments, the environment and the configuration file, and prints what the command leaves.
-/

import TryConfirmCancel.CommandLine

open TryConfirmCancel TryConfirmCancel.CommandLine

def readContent (path : String) : IO (Except FileFault Bytes) := do
  try
    let bytes ← IO.FS.readBinFile path
    return .ok bytes.data.toList
  catch
    | .noFileOrDirectory .. => return .error .notFound
    | error => return .error (.other (toString error))

def main (arguments : List String) : IO UInt32 := do
  let given ← IO.getEnv configVariable
  let invocation := Invocation.of (fun name => if name = configVariable then given else none) arguments
  let content ← match invocation.file? with
    | some path => readContent path
    | none => pure (.error .notFound)
  let outcome := invocation.outcome fun _ => content
  IO.print outcome.output
  IO.eprint outcome.errors
  return .ofNat outcome.code
