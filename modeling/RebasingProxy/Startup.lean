import RebasingProxy.CommandLine
import RebasingProxy.Config.Fault
import RebasingProxy.Event.Filter

/-! # Starting up

From arguments, environment and configuration file to a checked configuration. Switches
come before environment variables, these before the file, and the file before what is
built in. What was decided is logged, and the address to listen on is examined.
-/
namespace RebasingProxy

inductive StartFault
  | halted (halt : Halt)
  | misconfigured (error : ConfigError)
deriving DecidableEq, Repr

structure Surroundings where
  environment : String → Option String
  contentsOf : String → Except ReadFault Bytes

namespace Startup

def fileLayer (contentsOf : String → Except ReadFault Bytes) (file : Option String) :
    Except ConfigError Layer :=
  match file with
  | none => .ok {}
  | some path =>
    match contentsOf path with
    | .error fault => .error (.unreadable path fault)
    | .ok bytes =>
      match bytes.toText? with
      | none => .error (.unreadable path .notUtf8)
      | some text =>
        (Layer.ofFile text).mapError fun fault => .malformed path fault (Layer.faultExcerpt? text)

def resolve (surroundings : Surroundings) (arguments : Arguments) : Except ConfigError Config := do
  let file ← fileLayer surroundings.contentsOf arguments.configFile
  let environment := Layer.ofEnvironment surroundings.environment
  let config := (arguments.layer.orElse (environment.orElse file)).complete
  config.validate
  return config

def configure (surroundings : Surroundings) (arguments : List String) :
    Except StartFault Config := do
  let parsed ← (CommandLine.parse arguments).mapError .halted
  (resolve surroundings parsed).mapError .misconfigured

inductive AddressFault
  | noNumber | invalidNumber
deriving DecidableEq, Repr

def AddressFault.message : AddressFault → String
  | noNumber => "invalid socket address"
  | invalidNumber => "invalid port value"

/-- A socket number of 16 bits stands behind the last colon. -/
def checkAddress (address : String) : Except AddressFault Unit :=
  let number := (address.toList.reverse.takeWhile (· != ':')).reverse
  if !address.toList.contains ':' then .error .noNumber
  else
    match Numeral.read (String.ofList number) with
    | .ok n => if n < 65536 then .ok () else .error .invalidNumber
    | .error _ => .error .invalidNumber

/-- What the program prints before it serves, and the code it ends with if it does not. -/
structure Report where
  code : Nat := 0
  output : String := ""
  errors : String := ""
deriving DecidableEq, Repr

def failed (message : String) (cause : Option String) : Report :=
  { code := 1
    errors := "Error: " ++ message ++ "\n" ++ cause.elim "" fun text =>
      "\nCaused by:\n    " ++ Text.indented "    " text ++ "\n" }

def haltReport (surroundings : Surroundings) : Halt → Report
  | .help => { output := Usage.helpText surroundings.environment }
  | .version => { output := Usage.versionText }
  | .misuse error => { code := 2, errors := error.text }

def run (surroundings : Surroundings) (arguments : List String) : Report :=
  match configure surroundings arguments with
  | .error (.halted halt) => haltReport surroundings halt
  | .error (.misconfigured error) => failed error.message error.cause?
  | .ok config =>
    let filter := Filter.ofSetting (surroundings.environment "RUST_LOG")
    let logged := (config.events.filter filter.passes).map fun event => event.line ++ "\n"
    let report : Report := match checkAddress config.listenAddress with
      | .ok _ => {}
      | .error fault => failed fault.message none
    { report with output := String.join logged }

end Startup

end RebasingProxy
