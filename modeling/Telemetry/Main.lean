import Std.Time.DateTime.Timestamp
import Telemetry.Command.Run

/-!
# The program

What a run needs from the outside is gathered here: the variables it may look up, the file it reads
and the time. What it does with them is `Command.run`.
-/

namespace Telemetry.Command

/-- The point in time that it is now. -/
def now : IO Log.Clock := do
  let d := (← Std.Time.Timestamp.now).toDurationSinceUnixEpoch
  pure (.ofUnix (d.second.val.toNat * 1000000 + d.nano.val.toNat / 1000))

/-- The number of an error, which may be given as a negative word. -/
def numberOf (code : UInt32) : Nat :=
  if code < 0x80000000 then code.toNat else (0 - code).toNat

/-- The fault of a failed reading. -/
def faultOf (e : IO.Error) : Document.FileFault :=
  let number := match e with
    | .noFileOrDirectory _ code _ => numberOf code
    | .permissionDenied _ code _ => numberOf code
    | .inappropriateType _ code _ => numberOf code
    | .invalidArgument _ code _ => numberOf code
    | .otherError code _ => numberOf code
    | _ => 0
  (Document.FileFault.ofNumber? number).getD (.refused (toString e) number)

/-- The bytes of a file. -/
def contentsOf (path : String) : IO (Except Document.FileFault Bytes) := do
  try
    pure (.ok (← IO.FS.readBinFile path).toList)
  catch e => pure (.error (faultOf e))

/-- The values of variables. -/
def environmentOf (names : List String) : IO Lookup := do
  let values ← names.mapM fun name => do pure (name, ← IO.getEnv name)
  pure fun name => (values.lookup name).join

/-- Makes the file of a rolled log. -/
def startRolling (r : Log.Rolling) : IO Unit := do
  unless r.directory.isEmpty do IO.FS.createDirAll r.directory
  discard (IO.FS.Handle.mk (r.path (← now)) .append)

/-- Runs the program. The log is set up first, so a document is read when its folder is there. -/
def execute (p : Program) (arguments : List String) : IO UInt32 := do
  let setup := Log.Setup.ofEnvironment (← environmentOf Log.Setup.variableNames)
  if let some r := setup.rolling then startRolling r
  let path := fileAsked? arguments
  let contents ← match path with
    | some path => contentsOf path
    | none => pure (.error .absent)
  let references := match path with
    | some path => Document.referenceNamesInFile path contents
    | none => []
  let env ← environmentOf references
  let outcome := run p ⟨env, fun _ => contents⟩ arguments
  for line in outcome.shown setup (← now).timestamp do IO.println line
  if let some complaint := outcome.complaint then IO.eprintln complaint
  pure (UInt32.ofNat outcome.status)

end Telemetry.Command

/-- The program without plugins. -/
def main (arguments : List String) : IO UInt32 := Telemetry.Command.execute {} arguments
