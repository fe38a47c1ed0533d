/-
# Trace -- the record of what was done

Every computation that may be watched returns the entries it wrote, in order.
Three things are recorded: entering and leaving a *span*, a *note* in between,
and a step in the life of a generator *instance*.

Entries are data; `Entry.line?` is the only place that words them.  A silent
instance is recorded like any other, but its steps have no line.
-/

namespace DeferredBinding

set_option autoImplicit false

/-- How much a note matters. -/
inductive Level where
  | error
  | warn
  | info
  | debug
  | trace
  deriving DecidableEq, Repr

/-- The word a line begins with. -/
def Level.label : Level → String
  | .error => "ERROR"
  | .warn => "WARN"
  | .info => "INFO"
  | .debug => "DEBUG"
  | .trace => "TRACE"

/-- A stretch of work that other entries fall into. -/
inductive Span where
  | resolution (type : String)
  | rule (text : String)
  | condition (check : String)
  deriving DecidableEq, Repr

/-- Something noted at one moment. -/
inductive Note where
  | requestedTypeUnknown (type : String)
  | targetTypeUnknown (target : String)
  | conditionDecided (message : String) (result : Bool)
  | generatorUnknown (generator : String)
  | bindingRefused (type : String)
  | ruleMatched (rule : Nat) (replacement : String)
  | noRuleMatched
  | answerRemembered (type : String)
  | moduleFileRead (path format : String)
  | moduleLoaded (module : String) (properties types rules : Nat)
  | moduleUnloaded (module : String)
  | ruleApplied (rule : Nat) (result : String)
  | noRuleApplied (result : String)
  deriving DecidableEq, Repr

/-- One generator at work.  Silent instances are counted apart from the others, so
that the numbers on the lines have no gaps. -/
structure Instance where
  generator : String
  silent : Bool
  number : Nat
  deriving DecidableEq, Repr

/-- What happens to an instance. -/
inductive Step where
  | created
  | asked (type : String)
  | released
  deriving DecidableEq, Repr

/-- One entry of the record.  A step of an instance that a generator made for its
own use is a `helper` entry. -/
inductive Entry where
  | enter (span : Span)
  | leave (span : Span)
  | note (note : Note)
  | generator (who : Instance) (step : Step)
  | helper (who : Instance) (step : Step)
  deriving DecidableEq, Repr

/-! ## Lines -/

/-- Named values in braces, or nothing where there are none. -/
def fieldText : List (String × String) → String
  | [] => ""
  | fields =>
      " \x7b" ++ ", ".intercalate (fields.map fun field => field.1 ++ "=" ++ field.2) ++ "\x7d"

namespace Span

def label : Span → String
  | .resolution _ => "rebind"
  | .rule _ => "rule"
  | .condition _ => "condition"

def fields : Span → List (String × String)
  | .resolution type => [("type_name", type)]
  | .rule text => [("rule", text)]
  | .condition check => [("check", check)]

end Span

namespace Note

def level : Note → Level
  | .requestedTypeUnknown _ => .error
  | .targetTypeUnknown _ => .warn
  | .conditionDecided _ _ => .debug
  | .generatorUnknown _ => .error
  | .bindingRefused _ => .error
  | .ruleMatched _ _ => .debug
  | .noRuleMatched => .debug
  | .answerRemembered _ => .trace
  | .moduleFileRead _ _ => .debug
  | .moduleLoaded _ _ _ _ => .info
  | .moduleUnloaded _ => .debug
  | .ruleApplied _ _ => .debug
  | .noRuleApplied _ => .debug

def message : Note → String
  | .requestedTypeUnknown _ => "unable to find requested type"
  | .targetTypeUnknown _ => "unknown type specified in deferred binding rule"
  | .conditionDecided message _ => message
  | .generatorUnknown _ => "unable to find generator"
  | .bindingRefused _ => "deferred binding failed"
  | .ruleMatched _ _ => "rule matched"
  | .noRuleMatched => "no rule matched, keeping requested type"
  | .answerRemembered _ => "rebind cache hit"
  | .moduleFileRead _ _ => "loading module file"
  | .moduleLoaded _ _ _ _ => "module loaded"
  | .moduleUnloaded _ => "unloading module"
  | .ruleApplied _ _ => "rule applied"
  | .noRuleApplied _ => "no rule applied"

/-- The values a note carries beside its sentence. -/
def fields : Note → List (String × String)
  | .requestedTypeUnknown type => [("type_name", type)]
  | .targetTypeUnknown target => [("target_type", target)]
  | .conditionDecided _ result => [("result", toString result)]
  | .generatorUnknown generator => [("generator", generator)]
  | .bindingRefused type => [("type_name", type)]
  | .ruleMatched rule replacement => [("rule", toString rule), ("replacement", replacement)]
  | .noRuleMatched => []
  | .answerRemembered type => [("type_name", type)]
  | .moduleFileRead path format => [("path", path), ("format", format)]
  | .moduleLoaded module properties types rules =>
      [("module", module), ("properties", toString properties), ("types", toString types),
        ("rules", toString rules)]
  | .moduleUnloaded module => [("module", module)]
  | .ruleApplied rule result => [("rule", toString rule), ("result", result)]
  | .noRuleApplied result => [("result", result)]

end Note

def Instance.label (i : Instance) : String :=
  i.generator ++ "#" ++ toString i.number

/-- The line of a step, unless the instance is silent. -/
def Step.line? (who : Instance) (step : Step) : Option String :=
  if who.silent then none
  else
    match step with
    | .created => some ("create " ++ who.label)
    | .asked type => some ("generate " ++ who.label ++ " " ++ type)
    | .released => some ("release " ++ who.label)

namespace Entry

/-- Whether an entry tells of a generator. -/
def isStep : Entry → Bool
  | .generator _ _ => true
  | .helper _ _ => true
  | _ => false

def line? : Entry → Option String
  | .enter span => some ("> " ++ span.label ++ fieldText span.fields)
  | .leave span => some ("< " ++ span.label)
  | .note n => some (n.level.label ++ " " ++ n.message ++ fieldText n.fields)
  | .generator who step => step.line? who
  | .helper who step => step.line? who

end Entry

/-- The lines of a record: all of them, or only those that tell of generators. -/
def traceLines (verbose : Bool) (entries : List Entry) : List String :=
  (entries.filter fun entry => verbose || entry.isStep).filterMap Entry.line?

/-- A value together with the entries written while it was computed. -/
structure Traced (α : Type) where
  value : α
  trace : List Entry := []
  deriving Repr

end DeferredBinding
