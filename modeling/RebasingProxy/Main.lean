import RebasingProxy.Startup

/-! # The program

Reads arguments, environment and configuration file, and reports what the start comes to.
-/
namespace RebasingProxy

def environmentNames : List String :=
  "RUST_LOG" :: Switch.all.filterMap Switch.environmentName?

/-- Some system calls report the number of a fault as a negative one. -/
def faultNumber (code : UInt32) : Nat :=
  if code < 0x80000000 then code.toNat else (0 - code).toNat

def readFault (error : IO.Error) : ReadFault :=
  match error with
  | .noFileOrDirectory _ code _ | .interrupted _ code _ | .permissionDenied _ code _
  | .inappropriateType _ code _ | .invalidArgument _ code _ | .resourceExhausted _ code _
  | .noSuchThing _ code _ | .alreadyExists _ code _ | .otherError code _ | .resourceBusy code _
  | .resourceVanished code _ | .unsupportedOperation code _ | .hardwareFault code _
  | .unsatisfiedConstraints code _ | .illegalOperation code _ | .protocolError code _
  | .timeExpired code _ => .system (faultNumber code)
  | .unexpectedEof => .other "unexpected end of file"
  | .userError reason => .other reason

def readBytes (path : String) : IO (Except ReadFault Bytes) := do
  try
    return .ok (← IO.FS.readBinFile path).toList
  catch error => return .error (readFault error)

end RebasingProxy

open RebasingProxy in
def main (arguments : List String) : IO UInt32 := do
  let environment ← environmentNames.filterMapM fun name => do
    return (← IO.getEnv name).map fun value => (name, value)
  let contents ← match CommandLine.parse arguments with
    | .ok { configFile := some path, .. } => readBytes path
    | _ => pure (.error .notFound)
  let surroundings : Surroundings :=
    { environment := fun name => environment.lookup name, contentsOf := fun _ => contents }
  let report := Startup.run surroundings arguments
  IO.print report.output
  IO.eprint report.errors
  return report.code.toUInt32
