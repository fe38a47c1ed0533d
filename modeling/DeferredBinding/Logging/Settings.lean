/-
# Logging.Settings -- how records are written

What is wanted, in which format, where to, and with which details.  Settings come
from presets, from the environment, or from a document.
-/
import DeferredBinding.Document.Layout
import DeferredBinding.Document.Reading
import DeferredBinding.Logging.Filter
import DeferredBinding.Text.LowerCase

namespace DeferredBinding.Logging

set_option autoImplicit false

/-- The format of a record. -/
inductive Format where
  | pretty
  | compact
  | json
  deriving DecidableEq, Repr

/-- Where records are written. -/
inductive Writer where
  | stderr
  | stdout
  deriving DecidableEq, Repr

/-- Which details records show. -/
structure Display where
  time : Bool := true
  target : Bool := true
  colors : Bool := true
  deriving DecidableEq, Repr

/-- How records are written. -/
structure Settings where
  /-- The filter of the records that are wanted. -/
  level : String := "info"
  format : Format := .compact
  writer : Writer := .stderr
  display : Display := {}
  deriving DecidableEq, Repr

/-- Why records cannot be written as asked. -/
inductive Error where
  | unknownFormat (name : String)
  | badFilter (filter : String)
  | alreadyInstalled
  deriving DecidableEq, Repr

namespace Format

def names : List (String × Format) :=
  [("pretty", .pretty), ("compact", .compact), ("json", .json)]

def label : Format → String
  | .pretty => "pretty"
  | .compact => "compact"
  | .json => "json"

/-- The format a name stands for, in any case and between any blanks. -/
def ofName (text : String) : Except Error Format :=
  let name := Text.lower (Text.trim text)
  match names.lookup name with
  | some format => .ok format
  | none => .error (.unknownFormat name)

end Format

namespace Writer

def names : List (String × Writer) :=
  [("stderr", .stderr), ("stdout", .stdout)]

def label : Writer → String
  | .stderr => "stderr"
  | .stdout => "stdout"

end Writer

/-- The sentence shown for an error, where one is fixed. -/
def Error.message? : Error → Option String
  | .unknownFormat name =>
      some ("unknown log format '" ++ name ++ "' (expected pretty, compact or json)")
  | .badFilter _ => none
  | .alreadyInstalled => some "a global logger is already installed"

/-- The value of a variable of the environment, if it is set. -/
abbrev Environment := String → Option String

namespace Settings

/-! ## Presets -/

/-- For work on the rules themselves. -/
def development : Settings :=
  { level := "debug", format := .pretty }

/-- For unattended use. -/
def production : Settings :=
  { level := "info", format := .json, display := { colors := false } }

/-- Everything, without what differs from run to run. -/
def test : Settings :=
  { level := "trace", display := { colors := false, time := false } }

/-- The settings an environment asks for.  A format it misnames is the usual one. -/
def ofEnvironment (env : Environment) : Settings where
  level := ((env "REBIND_LOG").or (env "RUST_LOG")).getD "info"
  format :=
    match env "REBIND_LOG_FORMAT" with
    | some name => (Format.ofName name).toOption.getD .compact
    | none => .compact
  display := { colors := !(env "NO_COLOR").any fun value => !value.isEmpty }

/-- The settings with another filter, where one is given. -/
def withLevel (s : Settings) (level : Option String) : Settings :=
  { s with level := level.getD s.level }

def withFormat (s : Settings) (format : Option Format) : Settings :=
  { s with format := format.getD s.format }

/-! ## Use -/

def checkFilter (s : Settings) : Except Error Unit :=
  if Filter.wellFormed s.level then .ok () else .error (.badFilter s.level)

/-- Put the settings to use, which can be done once. -/
def install (s : Settings) (installed : Bool) : Except Error Unit :=
  s.checkFilter.bind fun _ => if installed then .error .alreadyInstalled else .ok ()

/-! ## Documents -/

open Document

def displayLayout : Layout Display where
  fields := [.of "time" Decoder.truth, .of "target" Decoder.truth, .of "colors" Decoder.truth]
  build members _ := do
    let time ← Field.withDefault members "time" Decoder.truth true
    let target ← Field.withDefault members "target" Decoder.truth true
    let colors ← Field.withDefault members "colors" Decoder.truth true
    pure { time, target, colors }

def displayDecoder : Decoder Display :=
  displayLayout.decoder skipped (.error .malformed)

def layout : Layout Settings where
  fields :=
    [.of "level" Decoder.text, .of "format" (choice .json Format.names),
      .of "writer" (choice .json Writer.names), .of "display" displayDecoder]
  build members _ := do
    let level ← Field.withDefault members "level" Decoder.text "info"
    let format ← Field.withDefault members "format" (choice .json Format.names) .compact
    let writer ← Field.withDefault members "writer" (choice .json Writer.names) .stderr
    let display ← Field.withDefault members "display" displayDecoder {}
    pure { level, format, writer, display }

def ofText (text : String) : Except Fault Settings :=
  decode .json (layout.decoder skipped (.error .malformed)) text

end Settings

end DeferredBinding.Logging
