/-
# CommandLine.Run -- commands carried out

`check` loads a module, reports on it and lets go of it.  `resolve` loads a module,
selects values, resolves a type and prints the answer.  Whatever comes of the
resolution, the module is let go of before anything is printed.

The generators of `resolve` are stubs, named on the command line.
-/
import DeferredBinding.CommandLine.Arguments
import DeferredBinding.CommandLine.Report
import DeferredBinding.Generator.Recipe
import DeferredBinding.Generator.Registry
import DeferredBinding.Module.Load

namespace DeferredBinding.CommandLine

set_option autoImplicit false

abbrev FileReader := String → Except FileError String

/-- What is done in the course of a command. -/
inductive Act where
  | record (entry : Entry)
  | print (text : String)
  deriving DecidableEq, Repr

def Act.entry? : Act → Option Entry
  | .record entry => some entry
  | .print _ => none

def Act.text? : Act → Option String
  | .record _ => none
  | .print text => some text

def recording (entries : List Entry) : List Act :=
  entries.map Act.record

/-- What carrying out a command comes to: what is done, in order, and for a command that
fails what failed and why, outermost first. -/
structure Outcome where
  acts : List Act
  failure : Option (List String) := none

namespace Outcome

def trace (o : Outcome) : List Entry :=
  o.acts.filterMap Act.entry?

def printed (o : Outcome) : String :=
  String.join (o.acts.filterMap Act.text?)

end Outcome

/-- Why a module does not load, outermost first. -/
def loadFailure (path : String) (error : Module.Error) : List String :=
  ("failed to load module " ++ path) :: error.message ::
    match error with
    | .io _ cause => [cause.message]
    | _ => []

def check (read : FileReader) (path : String) : Outcome :=
  let made := Module.ofFile path (read path)
  match made.value with
  | .error error =>
      { acts := recording made.trace, failure := some (loadFailure path error) }
  | .ok m => { acts := recording made.trace ++ .print (report m) :: recording m.unloading }

/-- What a stub adds to the requested type. -/
def stubSuffix : String := "_Generated"

def stubs (names : List String) : Registry Recipe :=
  names.foldl (fun r name => r.insert name (.silentSuffix stubSuffix)) {}

/-- The first selection of a property that a module does not declare. -/
def undeclared (m : Module) (selections : List (String × String)) : Option String :=
  (selections.map Prod.fst).find? fun name => !m.properties.contains name

/-- What resolving in a loaded module comes to, and the module as it is then. -/
structure Attempt where
  outcome : Except (List String) Answer
  after : Module
  trace : List Entry := []

def attempt (m : Module) (type : String) (selections : List (String × String))
    (generators : List String) : Attempt :=
  match undeclared m selections with
  | some name =>
      { outcome := .error ["module " ++ m.name ++ " declares no property '" ++ name ++ "'"]
        after := m }
  | none =>
      let permutation : Property.Permutation :=
        { table := m.properties, selections := .ofList selections }
      let resolution := m.resolve permutation.source (stubs generators).get? type {}
      { outcome := resolution.outcome.mapError fun failure =>
          ["deferred binding of '" ++ type ++ "' failed", failure.message]
        after := { m with rules := resolution.rules }
        trace := resolution.trace }

/-- What is noted of an answer. -/
def answered (answer : Answer) : Note :=
  match answer.rule with
  | some rule => .ruleApplied rule answer.type
  | none => .noRuleApplied answer.type

def resolve (read : FileReader) (path type : String) (selections : List (String × String))
    (generators : List String) : Outcome :=
  let made := Module.ofFile path (read path)
  match made.value with
  | .error error =>
      { acts := recording made.trace, failure := some (loadFailure path error) }
  | .ok m =>
      let tried := attempt m type selections generators
      let acts := recording (made.trace ++ tried.trace ++ tried.after.unloading)
      match tried.outcome with
      | .error chain => { acts, failure := some chain }
      | .ok answer =>
          { acts := acts ++ [.record (.note (answered answer)), .print (answer.type ++ "\n")] }

def Command.run (read : FileReader) : Command → Outcome
  | .check path => CommandLine.check read path
  | .resolve path type selections generators =>
      CommandLine.resolve read path type selections generators

/-! ## The program -/

def Request.settings (env : Logging.Environment) (r : Request) : Logging.Settings :=
  ((Logging.Settings.ofEnvironment env).withLevel r.logLevel).withFormat r.logFormat

/-- How the program ends. -/
inductive Exit where
  | refused (why : Refusal)
  | notLogging (why : Logging.Error)
  | failed (printed : String) (chain : List String)
  | done (printed : String)
  deriving DecidableEq, Repr

def Exit.code : Exit → Nat
  | .refused why => if why.isAnswer then 0 else 2
  | .notLogging _ => 1
  | .failed _ _ => 1
  | .done _ => 0

def usage : List String :=
  [ "Usage: rebind [OPTIONS] check <MODULE>",
    "       rebind [OPTIONS] resolve <MODULE> <TYPE> [--set NAME=VALUE]... [--stub-generator NAME]...",
    "",
    "Options: --log-level <FILTER>, --log-format <pretty|compact|json>, --help, --version"]

def Exit.output : Exit → String
  | .done printed => printed
  | .failed printed _ => printed
  | .refused .helpWanted => ofLines usage
  | .refused .versionWanted => ofLines ["rebind 0.1.0"]
  | _ => ""

def Exit.complaint : Exit → List String
  | .refused why => if why.isAnswer then [] else usage
  | .notLogging why => ["Error: " ++ why.message?.getD "invalid filter"]
  | .failed _ chain => chain
  | .done _ => []

/-- Carry out what a request asks for, once logging is set up. -/
def Request.exit (env : Logging.Environment) (read : FileReader) (r : Request) : Exit :=
  match (r.settings env).install false with
  | .error why => .notLogging why
  | .ok _ =>
      let outcome := r.command.run read
      match outcome.failure with
      | some chain => .failed outcome.printed chain
      | none => .done outcome.printed

def program (env : Logging.Environment) (read : FileReader) (args : List String) : Exit :=
  match parse env args with
  | .error why => .refused why
  | .ok request => request.exit env read

end DeferredBinding.CommandLine
