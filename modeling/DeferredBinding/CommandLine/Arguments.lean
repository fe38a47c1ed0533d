/-
# CommandLine.Arguments -- what is asked for on the command line

Arguments are taken at two levels: those before the name of a command, and those of
the command.  Options may stand anywhere; the logging options are known at both
levels, and the inner one counts.

A value that stands apart from its option is looked at only when something else is
met: another known option, a place, or the end of the level.  So an argument that
nobody knows is refused before the value in front of it is.  What stands before a
command is settled after the command.
-/
import DeferredBinding.Logging.Settings

namespace DeferredBinding.CommandLine

set_option autoImplicit false

/-- Why arguments are not acted upon. -/
inductive Refusal where
  | helpWanted
  | versionWanted
  | nothingAsked
  | missingCommand
  | unknownCommand
  | unknownArgument
  | missingArgument
  | needlessValue
  | repeatedOption
  | missingValue
  | invalidValue
  deriving DecidableEq, Repr

/-- Whether a refusal is an answer rather than a complaint. -/
def Refusal.isAnswer : Refusal → Bool
  | .helpWanted => true
  | .versionWanted => true
  | _ => false

/-- The options that take a value. -/
inductive Setting where
  | logLevel
  | logFormat
  | select
  | stubGenerator
  deriving DecidableEq, Repr

/-- Where a value belongs: to an option, or to the next place. -/
inductive Slot where
  | setting (s : Setting)
  | place
  deriving DecidableEq, Repr

/-- What may stand at a level. -/
structure Grammar where
  commands : List String := []
  settings : List (String × Setting)
  hasVersion : Bool := false
  places : Nat := 0

def loggingSettings : List (String × Setting) :=
  [("log-level", .logLevel), ("log-format", .logFormat)]

/-- The commands, one of which tells about the others. -/
def commandNames : List String :=
  ["check", "resolve", "help"]

/-- What may stand before a command. -/
def outerGrammar : Grammar :=
  { commands := commandNames, settings := loggingSettings, hasVersion := true }

def checkGrammar : Grammar :=
  { settings := loggingSettings, places := 1 }

def resolveGrammar : Grammar :=
  { settings := ("set", .select) :: ("stub-generator", .stubGenerator) :: loggingSettings
    places := 2 }

/-! ## Values -/

/-- The values settled at a level. -/
structure Values where
  logLevel : Option String := none
  logFormat : Option Logging.Format := none
  selections : List (String × String) := []
  stubs : List String := []
  places : List String := []
  deriving DecidableEq, Repr

/-- A property and the value selected for it: what stands before the first equals
sign, which must not be nothing, and what stands after it. -/
def selection? (text : String) : Option (String × String) :=
  let name := text.toList.takeWhile (· != '=')
  match text.toList.dropWhile (· != '=') with
  | [] => none
  | _ :: value => if name.isEmpty then none else some (String.ofList name, String.ofList value)

def format (name : String) : Except Refusal Logging.Format :=
  (Logging.Format.ofName name).mapError fun _ => .invalidValue

/-- Settle a value.  The first place is a path, which is never empty. -/
def Values.settle (v : Values) (slot : Slot) (text : String) : Except Refusal Values :=
  match slot with
  | .setting .logLevel =>
      if v.logLevel.isSome then .error .repeatedOption else .ok { v with logLevel := some text }
  | .setting .logFormat =>
      if v.logFormat.isSome then .error .repeatedOption
      else (format text).map fun f => { v with logFormat := some f }
  | .setting .select =>
      match selection? text with
      | some selection => .ok { v with selections := v.selections ++ [selection] }
      | none => .error .invalidValue
  | .setting .stubGenerator => .ok { v with stubs := v.stubs ++ [text] }
  | .place =>
      if v.places.isEmpty && text.isEmpty then .error .missingValue
      else .ok { v with places := v.places ++ [text] }

/-! ## Levels -/

/-- How far the arguments of a level have been taken. -/
structure Progress where
  values : Values := {}
  /-- What is still to be settled, and the value it has been given. -/
  pending : Option (Slot × Option String) := none
  /-- Whether the pending option still waits for its value. -/
  awaiting : Bool := false
  /-- Whether everything that follows is a place. -/
  trailing : Bool := false
  /-- How many places have been met. -/
  met : Nat := 0
  deriving Repr

namespace Progress

def settle (p : Progress) : Except Refusal Progress :=
  match p.pending with
  | none => .ok p
  | some (_, none) => .error .missingValue
  | some (slot, some text) =>
      (p.values.settle slot text).map fun values =>
        { p with values, pending := none, awaiting := false }

/-- A known option with the value that stands in one word with it, if any. -/
def option (p : Progress) (s : Setting) (attached : Option String) : Except Refusal Progress := do
  let settled ← p.settle
  match attached with
  | some text =>
      let values ← settled.values.settle (.setting s) text
      pure { settled with values }
  | none => pure { settled with pending := some (.setting s, none), awaiting := true }

/-- A flag, which ends everything by its answer once what is pending is settled. -/
def flag (p : Progress) (answer : Refusal) : Except Refusal Progress :=
  p.settle.bind fun _ => .error answer

/-- The next place, or one place too many. -/
def place (p : Progress) (g : Grammar) (text : String) : Except Refusal Progress :=
  if p.met < g.places then do
    let settled ← p.settle
    pure { settled with pending := some (.place, some text), met := settled.met + 1 }
  else if g.commands.isEmpty || (p.trailing && g.commands.contains text) then
    .error .unknownArgument
  else .error .unknownCommand

def long (p : Progress) (g : Grammar) (name : String) (attached : Option String) :
    Except Refusal Progress :=
  match g.settings.lookup name with
  | some s => p.option s attached
  | none =>
      if name = "help" || (name = "version" && g.hasVersion) then
        if attached.isSome then .error .needlessValue
        else p.flag (if name = "help" then .helpWanted else .versionWanted)
      else .error .unknownArgument

/-- Options by their letters, of which the first decides. -/
def short (p : Progress) (g : Grammar) (letter : Char) : Except Refusal Progress :=
  if letter = 'h' then p.flag .helpWanted
  else if letter = 'V' && g.hasVersion then p.flag .versionWanted
  else .error .unknownArgument

/-- The words of a long option: its name, and the value after an equals sign. -/
def longParts (cs : List Char) : String × Option String :=
  let name := String.ofList (cs.takeWhile (· != '='))
  match cs.dropWhile (· != '=') with
  | [] => (name, none)
  | _ :: value => (name, some (String.ofList value))

/-- One argument more, which is not the name of a command. -/
def take (p : Progress) (g : Grammar) (arg : String) : Except Refusal Progress :=
  if p.trailing then p.place g arg
  else
    match arg.toList with
    | ['-', '-'] => .ok { p with trailing := true, awaiting := false }
    | '-' :: '-' :: cs => p.long g (longParts cs).1 (longParts cs).2
    | '-' :: c :: _ => p.short g c
    | _ =>
        if p.awaiting then
          .ok { p with
            pending := p.pending.map fun waiting => (waiting.1, some arg)
            awaiting := false }
        else p.place g arg

end Progress

/-- Take the arguments of a level, up to the name of a command if there is one; with
it the arguments after that name. -/
def takeLevel (g : Grammar) (p : Progress) :
    List String → Except Refusal (Progress × Option (String × List String))
  | [] => .ok (p, none)
  | arg :: rest =>
      if !p.trailing && !p.awaiting && g.commands.contains arg then .ok (p, some (arg, rest))
      else (p.take g arg).bind fun next => takeLevel g next rest

/-! ## Requests -/

/-- What to do. -/
inductive Command where
  | check (module : String)
  | resolve (module type : String) (selections : List (String × String)) (stubs : List String)
  deriving DecidableEq, Repr

def Command.module : Command → String
  | .check path => path
  | .resolve path _ _ _ => path

/-- What is asked for: a command, and how to log. -/
structure Request where
  logLevel : Option String
  logFormat : Option Logging.Format
  command : Command
  deriving DecidableEq, Repr

/-- Settle a level; the environment speaks for the logging options that are not there. -/
def finish (env : Logging.Environment) (p : Progress) : Except Refusal Values := do
  let settled ← p.settle
  match settled.values.logFormat, env "REBIND_LOG_FORMAT" with
  | none, some name => do
      let _ ← format name
      pure settled.values
  | _, _ => pure settled.values

def command (name : String) (v : Values) : Except Refusal Command :=
  match name, v.places with
  | "check", [path] => .ok (.check path)
  | "resolve", [path, type] => .ok (.resolve path type v.selections v.stubs)
  | _, _ => .error .missingArgument

/-- What comes of asking for help: about one command, or about all of them. -/
def help (about : List String) : Refusal :=
  match about with
  | [] => .helpWanted
  | [name] => if commandNames.contains name then .helpWanted else .unknownCommand
  | _ => .unknownCommand

/-- The request that levels add up to.  What the command line says counts before what
the environment says. -/
def request (env : Logging.Environment) (outer inner : Values) (what : Command) : Request where
  logLevel := (inner.logLevel.or outer.logLevel).or (env "REBIND_LOG")
  logFormat := (inner.logFormat.or outer.logFormat).or
    ((env "REBIND_LOG_FORMAT").bind fun name => (format name).toOption)
  command := what

/-- Why nothing can be done without a command. -/
def withoutCommand (env : Logging.Environment) (v : Values) : Refusal :=
  if v.logLevel.isSome || v.logFormat.isSome || (env "REBIND_LOG").isSome ||
      (env "REBIND_LOG_FORMAT").isSome then .missingCommand
  else .nothingAsked

/-- What a command line asks for. -/
def parse (env : Logging.Environment) (args : List String) : Except Refusal Request := do
  let (outer, rest) ← takeLevel outerGrammar {} args
  match rest with
  | none =>
      let values ← finish env outer
      .error (withoutCommand env values)
  | some (name, args) =>
      if name = "help" then .error (help args)
      let grammar := if name = "check" then checkGrammar else resolveGrammar
      let (inner, _) ← takeLevel grammar {} args
      let innerValues ← finish env inner
      let what ← command name innerValues
      let outerValues ← finish env outer
      pure (request env outerValues innerValues what)

end DeferredBinding.CommandLine
