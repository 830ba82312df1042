import Federation.Command.Run
import Std.Time.DateTime.Timestamp

namespace Federation.Command

def setVariables : IO (List (String × String)) :=
  (globalOptions.filterMap fun o => o.2.1).filterMapM fun name => do
    return (← IO.getEnv name).map (name, ·)

def fileReason : IO.Error → String
  | .noFileOrDirectory .. => "No such file or directory (os error 2)"
  | .permissionDenied .. => "Permission denied (os error 13)"
  | .inappropriateType .. => "Is a directory (os error 21)"
  | e => toString e

def readFile (file : String) : IO (Except String (List UInt8)) := do
  try return .ok (← IO.FS.readBinFile file).toList
  catch e => return .error (fileReason e)

/-- Nothing outside answers: requests find no way out, and there is no login tool. -/
def offline : Surroundings Unit where
  exchange _ s := (.error ["client error (Connect)"], s)
  runTool _ s := (.error "No such file or directory (os error 2)", s)
  clock _ := 0

def now : IO Instant := do
  let t ← Std.Time.Timestamp.now
  let nanoseconds := t.toNanosecondsSinceUnixEpoch.toInt
  return ⟨nanoseconds.fdiv (Int.pow 10 9), (nanoseconds.fmod (Int.pow 10 9)).toNat⟩

def newRunId : IO Uuid := do
  let high ← IO.rand 0 (Nat.pow 2 48 - 1)
  let middle ← IO.rand 0 (Nat.pow 2 12 - 1)
  let low ← IO.rand 0 (Nat.pow 2 62 - 1)
  return ⟨high * Nat.pow 2 80 + Nat.pow 2 78 + middle * Nat.pow 2 64 + Nat.pow 2 63 + low⟩

def perform (args : List String) : IO Result := do
  match Invocation.ofArguments (← setVariables) args with
  | .error why => return why.result
  | .ok i =>
    let content ← match i.task.file? with
      | some file => readFile file
      | none => pure (.error "")
    let time ← now
    return (run offline i ⟨← newRunId, time, time⟩ content ()).1

end Federation.Command

def main (args : List String) : IO UInt32 := do
  let result ← Federation.Command.perform args
  IO.print result.output
  IO.eprint result.complaints
  return result.status.toUInt32
