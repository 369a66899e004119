import SetupForge.CommandLine.Arguments
import SetupForge.Journal

/-! # Commands

A command line that is understood is one of three commands with its settings.
-/

namespace SetupForge

inductive Command where
  | run (config : String) (workingPath : Option String) (wait : Bool) (console : Console)
  /-- Checks a settings file. -/
  | validate (config : String) (workingPath : Option String) (verbose : Bool)
  | sync (script inputDir buildLevel : String) (major : Int) (console : Console)
deriving DecidableEq, Repr

namespace Command

def console : Command → Console
  | .run _ _ _ console => console
  | .validate _ _ verbose => { verbose }
  | .sync _ _ _ _ console => console

end Command

namespace CommandLine

def commandOf (verb : Verb) (found : Arguments) : Command :=
  let config := (found.value? .config).getD ""
  let workingPath := found.value? .workingPath
  let console : Console := { verbose := found.has .verbose, debug := found.has .debug }
  match verb with
  | .run => .run config workingPath (found.has .wait) console
  | .validate => .validate config workingPath console.verbose
  | .sync =>
      let major := ((found.value? .runtimeMajor).bind Text.integer?).getD 0
      .sync (found.operand.head?.getD "") ((found.value? .inputDir).getD "")
        ((found.value? .buildLevel).getD "None") major console

/-- Understands a command line. Arguments that the command does not take are refused by the
program, after everything else. -/
def understand (arguments : List String) : Except Stop Command := do
  let outer ← Arguments.read programGrammar arguments
  match outer.operand with
  | [] => .error (.refused programGrammar (.missing ["command"]))
  | word :: rest =>
      match Verb.ofName? word with
      | none => .error (.refused programGrammar (.unknownCommand word))
      | some verb => do
          let inner ← Arguments.read verb.grammar rest
          match outer.extra ++ inner.extra with
          | [] => .ok (commandOf verb inner)
          | extra => .error (.refused programGrammar (.unrecognized extra))

end CommandLine

end SetupForge
