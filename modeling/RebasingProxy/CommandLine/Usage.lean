import RebasingProxy.CommandLine.Switch
import RebasingProxy.Numeral
import RebasingProxy.Text.Indented
import RebasingProxy.Text.Plain

/-! # Usage

The texts the command line prints about itself: help, version, and what was wrong with
the arguments.
-/
namespace RebasingProxy

namespace Switch

/-- A switch in the help: its names in bold, and below them what it does. A value of its
environment variable is shown as it is, indented like the rest. -/
def helpLines (environment : String → Option String) (switch : Switch) : String :=
  let indent := "          "
  let short := switch.short?.elim "    " fun c => Text.bold (String.ofList ['-', c]) ++ ", "
  let setting := switch.environmentName?.elim "" fun name =>
    " [env: " ++ name ++ "=" ++ (environment name).getD "" ++ "]"
  "  " ++ short ++ Text.bold switch.dashed ++ switch.place ++ "\n" ++ indent
    ++ switch.description ++ Text.indented indent setting ++ "\n"

end Switch

namespace Usage

def programName : String := "rebase-proxy"

def versionText : String := programName ++ " 0.1.0\n"

def helpText (environment : String → Option String) : String :=
  Text.plain ("Reverse proxy that rebases URIs in response bodies\n\nUsage: " ++ programName
    ++ " [OPTIONS]\n\nOptions:\n" ++ String.join (Switch.all.map (Switch.helpLines environment)))

def alternatives : String :=
  "<" ++ String.intercalate "|" ((Switch.all.filter Switch.isSetting).map Switch.shown) ++ ">"

def usageLine (used : List String) : String :=
  "Usage: " ++ programName ++ " "
    ++ String.intercalate " " (if used.isEmpty then ["[OPTIONS]"] else used)

/-- What to show of a switch that is used behind others. Settings behind settings are shown
as alternatives. -/
def shownBehind (used : List Switch) (switch : Switch) : List String :=
  if used.isEmpty then [switch.shown]
  else if switch.isSetting then [alternatives]
  else [switch.shown, alternatives]

end Usage

/-- What is wrong with the arguments. `used` are the settings taken before, and behind them
the switch that may have been meant. -/
inductive UsageError
  | unknownArgument (argument : String) (similar : Option Switch) (used : List Switch)
  | unexpectedValue (value : String) (switch : Switch) (used : List Switch)
  | missingValue (switch : Switch)
  | invalidNumber (value : String) (switch : Switch) (fault : NumeralFault)
  | repeated (switch : Switch)
deriving DecidableEq, Repr

namespace UsageError

def inMarks (text : String) : String := "'" ++ Text.plain text ++ "'"

def message : UsageError → String
  | unknownArgument argument _ _ => "unexpected argument " ++ inMarks argument ++ " found"
  | unexpectedValue value switch _ =>
    "unexpected value " ++ inMarks value ++ " for " ++ inMarks switch.shown
      ++ " found; no more were expected"
  | missingValue switch =>
    "a value is required for " ++ inMarks switch.shown ++ " but none was supplied"
  | invalidNumber value switch fault =>
    "invalid value " ++ inMarks value ++ " for " ++ inMarks switch.shown ++ ": " ++ fault.message
  | repeated switch =>
    "the argument " ++ inMarks switch.shown ++ " cannot be used multiple times"

def tip : UsageError → String
  | unknownArgument _ (some similar) _ =>
    "  tip: a similar argument exists: " ++ inMarks similar.dashed ++ "\n\n"
  | _ => ""

def usage : UsageError → String
  | unknownArgument _ _ used => Usage.usageLine (used.map Switch.shown) ++ "\n\n"
  | unexpectedValue _ switch used => Usage.usageLine (Usage.shownBehind used switch) ++ "\n\n"
  | repeated _ => Usage.usageLine [] ++ "\n\n"
  | missingValue _ | invalidNumber .. => ""

def text (error : UsageError) : String :=
  "error: " ++ error.message ++ "\n\n" ++ error.tip ++ error.usage
    ++ "For more information, try '--help'.\n"

end UsageError

end RebasingProxy
