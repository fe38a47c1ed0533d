/-
# Proofs.CommandLine.Resolving -- what a request for a type comes to

Behind the command line there are four stages, and each but the last may end the command: a
module is loaded, the properties selected are looked up in it, the type is resolved, the answer
is printed.  `ComesTo` says how the program ends according to the stage it gets to.  It speaks
of the file, of the selections and of the names of the stubs only: what stubs are and how
selections are kept does not matter (`provides_stubs`, `Property.chooses_ofList`).

A module that was loaded is let go of whatever comes after it.  No other stage writes the note
that says so (`unloadings_resolve`), so the record has it once (`letGoOnce_resolve`), and what
is printed comes later.
-/
import DeferredBinding.CommandLine.Run
import DeferredBinding.Proofs.CommandLine.Selections
import DeferredBinding.Proofs.FirstFault
import DeferredBinding.Proofs.Module.Answering
import DeferredBinding.Proofs.Resolution.GeneratorWork

namespace DeferredBinding

set_option autoImplicit false

/-! ## Letting go -/

def Entry.unloads : Entry → Bool
  | .note (.moduleUnloaded _) => true
  | _ => false

/-- The entries of a record that say that a module is let go of. -/
def unloadings (entries : List Entry) : List Entry :=
  entries.filter Entry.unloads

@[simp] theorem unloadings_append (xs ys : List Entry) :
    unloadings (xs ++ ys) = unloadings xs ++ unloadings ys :=
  List.filter_append ..

/-- Only that note is kept. -/
theorem unloadings_cons_of_not {entry : Entry} (other : entry.unloads = false)
    (rest : List Entry) : unloadings (entry :: rest) = unloadings rest :=
  List.filter_cons_of_neg (by simp [other])

theorem Condition.apart_unloads : Entry.Apart Entry.unloads :=
  ⟨fun _ => rfl, fun _ => rfl, fun _ _ => rfl, fun _ => rfl, fun _ => rfl⟩

namespace Rule

theorem unloadings_applies (given : Sources) (type : String) (r : Rule) :
    unloadings (r.applies given type).trace = [] := by
  rw [applies, List.cons_append, unloadings_cons_of_not rfl, unloadings_append, unloadings,
    Condition.filter_allHold Condition.apart_unloads]
  rfl

theorem unloadings_release (held : Option Instance) : unloadings (release held) = [] := by
  cases held <;> rfl

theorem unloadings_realize {γ : Type} [Generator γ] (ctx : Context γ) (type : String) (r : Rule)
    (census : Census) : unloadings (r.realize ctx type census).trace = [] := by
  cases action : r.action with
  | replaceWith replacement =>
      rw [realize_replaceWith ctx type census action]
      rfl
  | generateWith name =>
      cases found : ctx.generators name with
      | none =>
          rw [realize_unknown ctx type census action found]
          rfl
      | some generator =>
          have helped : ∀ helpers : List (Instance × Step),
              unloadings (helpers.map fun h => .helper h.1 h.2) = [] := by
            intro helpers
            rw [unloadings, List.filter_eq_nil_iff]
            rintro entry member
            obtain ⟨h, -, rfl⟩ := List.mem_map.1 member
            exact Bool.false_ne_true
          rw [realize_known ctx type census action found, generate, List.cons_append,
            unloadings_cons_of_not rfl, unloadings_append, unloadings_release,
            unloadings_cons_of_not rfl, helped, List.append_nil]
  | fail =>
      rw [realize_fail ctx type census action]
      rfl

end Rule

namespace Rules

variable {γ : Type} [Generator γ] (ctx : Context γ) (type : String) (census : Census)

theorem unloadings_answered (index : Nat) (r : Rule) (rest : List Rule) :
    unloadings (answered index (r.realize ctx type census) rest).trace = [] := by
  have quiet := r.unloadings_realize ctx type census
  unfold answered
  split
  · rw [unloadings_append, quiet]
    rfl
  · exact quiet

theorem unloadings_scan (index : Nat) (rules : List Rule) :
    unloadings (scan ctx type census index rules).trace = [] := by
  induction rules generalizing index with
  | nil => rfl
  | cons r rest ih =>
      have quiet := r.unloadings_applies ctx.toSources type
      rw [scan]
      split
      · rfl
      · dsimp only
        split
        · exact quiet
        · rw [passedOver, unloadings_append, quiet, ih, List.append_nil]
        · rw [unloadings_append, quiet, unloadings_answered, List.append_nil]

/-- No resolution lets go of a module. -/
theorem unloadings_resolve (rs : Rules) :
    unloadings (rs.resolve ctx type census).trace = [] := by
  rw [resolve, List.cons_append, unloadings_cons_of_not rfl, unloadings_append, unloadings_scan]
  rfl

theorem unloadings_disposal (rs : Rules) : unloadings rs.disposal = [] := by
  rw [unloadings, disposal, List.filter_flatMap, List.flatMap_eq_nil_iff]
  intro r _
  exact Rule.unloadings_release r.held

end Rules

namespace Module

theorem unloadings_unloading (m : Module) :
    unloadings m.unloading = [.note (.moduleUnloaded m.name)] := by
  show Entry.note (.moduleUnloaded m.name) :: unloadings m.rules.disposal = _
  rw [Rules.unloadings_disposal]

theorem unloadings_ofFile (path : String) (content : Except FileError String) :
    unloadings (ofFile path content).trace = [] := by
  unfold ofFile
  split
  · rfl
  · rw [unloadings_cons_of_not rfl]
    unfold ofText ofManifest
    split
    · split <;> rfl
    · rfl

end Module

namespace CommandLine

/-! ## Stubs -/

theorem get?_stubs (names : List String) (name : String) :
    (stubs names).get? name = if name ∈ names then some (.silentSuffix stubSuffix) else none := by
  have general : ∀ r : Registry Recipe,
      (names.foldl (fun r name => r.insert name (.silentSuffix stubSuffix)) r).get? name =
        if name ∈ names then some (.silentSuffix stubSuffix) else r.get? name := by
    induction names with
    | nil => exact fun _ => rfl
    | cons first rest ih =>
        intro r
        rw [List.foldl_cons, ih, Registry.get?_insert]
        by_cases here : name = first <;> by_cases later : name ∈ rest <;> simp [here, later]
  exact general {}

/-- The stubs of some names are generators of just these names. -/
theorem provides_stubs (names : List String) (type : String) :
    Provides names type (stubs names).get? where
  provided name member := ⟨_, (get?_stubs names name).trans (if_pos member), fun _ _ => rfl⟩
  others name absent := (get?_stubs names name).trans (if_neg absent)

/-! ## The properties selected -/

/-- A module declares every property that is selected. -/
def Declares (m : Module) (choices : List (String × String)) : Prop :=
  ∀ name ∈ choices.map Prod.fst, m.properties.contains name = true

/-- Of the properties selected, `name` is the first one that a module does not declare. -/
def FirstUndeclared (m : Module) (choices : List (String × String)) (name : String) : Prop :=
  ∃ earlier later, choices.map Prod.fst = earlier ++ name :: later ∧
    (∀ other ∈ earlier, m.properties.contains other = true) ∧
      m.properties.contains name = false

section

variable {m : Module} {choices : List (String × String)} {name : String}

theorem undeclared_eq_some_iff :
    undeclared m choices = some name ↔ FirstUndeclared m choices name :=
  find?_not_eq_some_iff

theorem undeclared_eq_none_iff : undeclared m choices = none ↔ Declares m choices :=
  find?_not_eq_none_iff

end

/-! ## Attempts -/

/-- What an attempt is said to have failed with where the type does not resolve. -/
def unresolved (type : String) (failure : Failure) : List String :=
  ["deferred binding of '" ++ type ++ "' failed", failure.message]

/-- What an attempt is said to have failed with where a property is not declared. -/
def notDeclared (m : Module) (name : String) : List String :=
  ["module " ++ m.name ++ " declares no property '" ++ name ++ "'"]

section

variable {m : Module} {type : String} {choices : List (String × String)} {names : List String}

theorem outcome_attempt_of_firstUndeclared {name : String}
    (first : FirstUndeclared m choices name) :
    (attempt m type choices names).outcome = .error (notDeclared m name) := by
  rw [attempt, undeclared_eq_some_iff.2 first]
  rfl

/-- The resolution that an attempt comes down to where every property selected is declared. -/
def resolution (m : Module) (type : String) (choices : List (String × String))
    (names : List String) : Resolution :=
  m.resolve ({ table := m.properties, selections := .ofList choices } :
    Property.Permutation).source (stubs names).get? type {}

theorem attempt_of_declares (declares : Declares m choices) :
    attempt m type choices names =
      { outcome := (resolution m type choices names).outcome.mapError (unresolved type)
        after := { m with rules := (resolution m type choices names).rules }
        trace := (resolution m type choices names).trace } := by
  rw [attempt, undeclared_eq_none_iff.2 declares]
  rfl

theorem resolvesTo_iff_resolution {outcome : Except Failure Answer} :
    m.ResolvesTo choices names type outcome ↔
      (resolution m type choices names).outcome = outcome :=
  Module.resolvesTo_iff rfl (Property.chooses_ofList m.properties choices)
    (provides_stubs names type) {} outcome

theorem outcome_attempt_of_resolvesTo (declares : Declares m choices)
    {outcome : Except Failure Answer} (resolves : m.ResolvesTo choices names type outcome) :
    (attempt m type choices names).outcome = outcome.mapError (unresolved type) := by
  rw [attempt_of_declares declares, resolvesTo_iff_resolution.1 resolves]

/-- There is always something that a type resolves to. -/
theorem exists_resolvesTo (m : Module) (choices : List (String × String)) (names : List String)
    (type : String) : ∃ outcome, m.ResolvesTo choices names type outcome :=
  ⟨_, resolvesTo_iff_resolution.2 rfl⟩

theorem unloadings_attempt (m : Module) (type : String) (choices : List (String × String))
    (names : List String) : unloadings (attempt m type choices names).trace = [] := by
  unfold attempt
  split
  · rfl
  · exact Rules.unloadings_resolve _ type {} m.rules

/-- An attempt changes nothing of a module but its rules. -/
theorem unloading_attempt (m : Module) (type : String) (choices : List (String × String))
    (names : List String) :
    (attempt m type choices names).after.unloading =
      Module.unloading { m with rules := (attempt m type choices names).after.rules } := by
  unfold attempt
  split <;> rfl

end

/-! ## Outcomes -/

theorem texts_recording (entries : List Entry) :
    (recording entries).filterMap Act.text? = [] := by
  rw [recording, List.filterMap_map, List.filterMap_eq_nil_iff]
  exact fun _ _ => rfl

/-- Of a request that is answered, the answer is printed. -/
theorem printed_answered (entries : List Entry) (answer : Answer) :
    Outcome.printed
      { acts := recording entries ++
          [.record (.note (answered answer)), .print (answer.type ++ "\n")] } =
        answer.type ++ "\n" := by
  rw [Outcome.printed, List.filterMap_append, texts_recording]
  exact String.empty_append

theorem entries_recording (entries : List Entry) :
    (recording entries).filterMap Act.entry? = entries := by
  rw [recording, List.filterMap_map]
  exact List.filterMap_some

section

variable {read : FileReader} {path type : String} {choices : List (String × String)}
  {names : List String}

/-- Apart from the attempt, nothing depends on the selections and the stubs. -/
theorem resolve_congr {others : List (String × String)} {more : List String}
    (same : ∀ m, (Module.ofFile path (read path)).value = .ok m →
      attempt m type choices names = attempt m type others more) :
    resolve read path type choices names = resolve read path type others more := by
  unfold resolve
  dsimp only
  split
  · rfl
  · rename_i m loaded
    rw [same m loaded]

theorem resolve_of_refused {error : Module.Error}
    (refused : (Module.ofFile path (read path)).value = .error error) :
    resolve read path type choices names =
      { acts := recording (Module.ofFile path (read path)).trace
        failure := some (loadFailure path error) } := by
  rw [resolve]
  dsimp only
  rw [refused]

/-- What is recorded of a module that is loaded, tried and let go of. -/
def work (read : FileReader) (path type : String) (choices : List (String × String))
    (names : List String) (m : Module) : List Entry :=
  (Module.ofFile path (read path)).trace ++ (attempt m type choices names).trace ++
    Module.unloading { m with rules := (attempt m type choices names).after.rules }

theorem resolve_of_failed {m : Module} {chain : List String}
    (loaded : (Module.ofFile path (read path)).value = .ok m)
    (failed : (attempt m type choices names).outcome = .error chain) :
    resolve read path type choices names =
      { acts := recording (work read path type choices names m), failure := some chain } := by
  rw [resolve, work, ← unloading_attempt]
  dsimp only
  rw [loaded]
  dsimp only
  rw [failed]

theorem resolve_of_answered {m : Module} {answer : Answer}
    (loaded : (Module.ofFile path (read path)).value = .ok m)
    (made : (attempt m type choices names).outcome = .ok answer) :
    resolve read path type choices names =
      { acts := recording (work read path type choices names m) ++
          [.record (.note (answered answer)), .print (answer.type ++ "\n")] } := by
  rw [resolve, work, ← unloading_attempt]
  dsimp only
  rw [loaded]
  dsimp only
  rw [made]

/-- In the course of `acts` the module `m` is let go of just once: with the rules `left`, behind
what is recorded `earlier`, and before anything is printed. -/
def LetGoOnce (m : Module) (earlier : List Entry) (left : Rules) (acts : List Act) : Prop :=
  (∃ later, acts = recording (earlier ++ Module.unloading { m with rules := left }) ++ later) ∧
    unloadings (acts.filterMap Act.entry?) = [.note (.moduleUnloaded m.name)]

theorem letGoOnce_of_quiet {m : Module} {earlier : List Entry} {left : Rules} {later : List Act}
    (before : unloadings earlier = []) (after : unloadings (later.filterMap Act.entry?) = []) :
    LetGoOnce m earlier left
      (recording (earlier ++ Module.unloading { m with rules := left }) ++ later) := by
  refine ⟨⟨later, rfl⟩, ?_⟩
  rw [List.filterMap_append, entries_recording, unloadings_append, unloadings_append, before,
    after, Module.unloadings_unloading]
  rfl

/-- A module that was loaded is let go of once, whatever comes of the attempt. -/
theorem letGoOnce_resolve {m : Module} (loaded : (Module.ofFile path (read path)).value = .ok m) :
    LetGoOnce m
      ((Module.ofFile path (read path)).trace ++ (attempt m type choices names).trace)
      (attempt m type choices names).after.rules (resolve read path type choices names).acts := by
  have before : unloadings ((Module.ofFile path (read path)).trace ++
      (attempt m type choices names).trace) = [] := by
    rw [unloadings_append, Module.unloadings_ofFile, unloadings_attempt, List.append_nil]
  cases outcome : (attempt m type choices names).outcome with
  | error chain =>
      have once := @letGoOnce_of_quiet m _ (attempt m type choices names).after.rules [] before rfl
      rw [List.append_nil] at once
      rwa [resolve_of_failed loaded outcome]
  | ok answer =>
      rw [resolve_of_answered loaded outcome]
      refine letGoOnce_of_quiet before ?_
      unfold answered
      cases answer.rule <;> rfl

end

/-! ## The program -/

/-- How the program ends that resolves a type, where `loaded` is what comes of loading the file
at `path`. -/
structure ComesTo (loaded : Except Module.Error Module) (path type : String)
    (choices : List (String × String)) (names : List String) (exit : Exit) : Prop where
  /-- It succeeds with a line where every property selected is declared and the type resolves to
  what the line says. -/
  answers : ∀ replacement, exit.code = 0 ∧ exit.output = replacement ++ "\n" ↔
    ∃ m answer, loaded = .ok m ∧ Declares m choices ∧
      m.ResolvesTo choices names type (.ok answer) ∧ answer.type = replacement
  /-- Otherwise it prints nothing and fails. -/
  otherwise : (∃ replacement, exit.code = 0 ∧ exit.output = replacement ++ "\n") ∨
    exit.code = 1 ∧ exit.output = ""
  /-- It fails with the error of a module that does not load. -/
  unloadable : ∀ error, loaded = .error error → exit = .failed "" (loadFailure path error)
  /-- It fails with the first property selected that the module does not declare. -/
  undeclared : ∀ m name, loaded = .ok m → FirstUndeclared m choices name →
    exit = .failed "" (notDeclared m name)
  /-- It fails with the failure of the resolution, in its context. -/
  unresolved : ∀ m failure, loaded = .ok m → Declares m choices →
    m.ResolvesTo choices names type (.error failure) → exit = .failed "" (unresolved type failure)

section

variable {path type : String} {choices : List (String × String)} {names : List String}
  {m : Module}

theorem resolvesTo_unique {first second : Except Failure Answer}
    (here : m.ResolvesTo choices names type first)
    (there : m.ResolvesTo choices names type second) : first = second := by
  rw [← resolvesTo_iff_resolution.1 here, resolvesTo_iff_resolution.1 there]

theorem not_declares {name : String} (first : FirstUndeclared m choices name) :
    ¬ Declares m choices := by
  intro declares
  have found := undeclared_eq_some_iff.2 first
  rw [undeclared_eq_none_iff.2 declares] at found
  cases found

/-- A program that fails does not answer. -/
theorem failed_answers {chain : List String} {replacement : String} {p : Prop} (no : ¬ p) :
    (Exit.failed "" chain).code = 0 ∧ (Exit.failed "" chain).output = replacement ++ "\n" ↔ p :=
  ⟨fun done => absurd done.1 Nat.one_ne_zero, fun yes => absurd yes no⟩

theorem comesTo_of_unloadable (error : Module.Error) :
    ComesTo (.error error) path type choices names (.failed "" (loadFailure path error)) where
  answers replacement := failed_answers fun ⟨_, _, loaded, _⟩ => nomatch loaded
  otherwise := .inr ⟨rfl, rfl⟩
  unloadable _ same := by cases same; rfl
  undeclared _ _ loaded := nomatch loaded
  unresolved _ _ loaded := nomatch loaded

theorem comesTo_of_undeclared {name : String} (first : FirstUndeclared m choices name) :
    ComesTo (.ok m) path type choices names (.failed "" (notDeclared m name)) where
  answers replacement := failed_answers fun ⟨_, _, loaded, declares, _⟩ => by
    cases loaded
    exact not_declares first declares
  otherwise := .inr ⟨rfl, rfl⟩
  unloadable _ loaded := nomatch loaded
  undeclared _ other loaded otherwise := by
    cases loaded
    have same := undeclared_eq_some_iff.2 first
    rw [undeclared_eq_some_iff.2 otherwise] at same
    cases same
    rfl
  unresolved _ _ loaded declares := by
    cases loaded
    exact absurd declares (not_declares first)

theorem comesTo_of_unresolved {failure : Failure} (declares : Declares m choices)
    (resolves : m.ResolvesTo choices names type (.error failure)) :
    ComesTo (.ok m) path type choices names (.failed "" (unresolved type failure)) where
  answers replacement := failed_answers fun ⟨_, _, loaded, _, answers, _⟩ => by
    cases loaded
    cases resolvesTo_unique resolves answers
  otherwise := .inr ⟨rfl, rfl⟩
  unloadable _ loaded := nomatch loaded
  undeclared _ _ loaded first := by
    cases loaded
    exact absurd declares (not_declares first)
  unresolved _ _ loaded _ fails := by
    cases loaded
    cases resolvesTo_unique resolves fails
    rfl

theorem comesTo_of_answered {answer : Answer} (declares : Declares m choices)
    (resolves : m.ResolvesTo choices names type (.ok answer)) :
    ComesTo (.ok m) path type choices names (.done (answer.type ++ "\n")) where
  answers replacement := by
    constructor
    · rintro ⟨-, printed⟩
      exact ⟨m, answer, rfl, declares, resolves, (String.append_left_inj "\n").1 printed⟩
    · rintro ⟨_, _, loaded, -, answers, rfl⟩
      cases loaded
      cases resolvesTo_unique resolves answers
      exact ⟨rfl, rfl⟩
  otherwise := .inl ⟨answer.type, rfl, rfl⟩
  unloadable _ loaded := nomatch loaded
  undeclared _ _ loaded first := by
    cases loaded
    exact absurd declares (not_declares first)
  unresolved _ _ loaded _ fails := by
    cases loaded
    cases resolvesTo_unique resolves fails

end

section

variable {env : Logging.Environment} {read : FileReader} {args : List String} {request : Request}
  {path type : String} {choices : List (String × String)} {names : List String}

theorem program_of_parsed (parsed : parse env args = .ok request)
    (logs : (request.settings env).install false = .ok ()) :
    program env read args =
      match (request.command.run read).failure with
      | some chain => .failed (request.command.run read).printed chain
      | none => .done (request.command.run read).printed := by
  rw [program, parsed]
  show request.exit env read = _
  unfold Request.exit
  generalize (request.settings env).install false = installed at logs
  subst logs
  rfl

/-- The program comes to what the file, the selections and the stubs say. -/
theorem comesTo_program (parsed : parse env args = .ok request)
    (asks : request.command = .resolve path type choices names)
    (logs : (request.settings env).install false = .ok ()) :
    ComesTo (Module.ofFile path (read path)).value path type choices names
      (program env read args) := by
  have silent : ∀ entries failure,
      Outcome.printed { acts := recording entries, failure } = "" := by
    intro entries failure
    rw [Outcome.printed, texts_recording]
    rfl
  rw [program_of_parsed parsed logs, asks, Command.run]
  cases loaded : (Module.ofFile path (read path)).value with
  | error error =>
      rw [resolve_of_refused loaded, silent]
      exact comesTo_of_unloadable error
  | ok m =>
      cases found : undeclared m choices with
      | some name =>
          have first := undeclared_eq_some_iff.1 found
          rw [resolve_of_failed loaded (outcome_attempt_of_firstUndeclared first), silent]
          exact comesTo_of_undeclared first
      | none =>
          have declares := undeclared_eq_none_iff.1 found
          obtain ⟨outcome, resolves⟩ := exists_resolvesTo m choices names type
          have tried := outcome_attempt_of_resolvesTo declares resolves
          cases outcome with
          | error failure =>
              rw [resolve_of_failed loaded tried, silent]
              exact comesTo_of_unresolved declares resolves
          | ok answer =>
              rw [resolve_of_answered loaded tried, printed_answered]
              exact comesTo_of_answered declares resolves

theorem output_program (parsed : parse env args = .ok request)
    (logs : (request.settings env).install false = .ok ()) :
    (program env read args).output = (request.command.run read).printed := by
  rw [program_of_parsed parsed logs]
  cases (request.command.run read).failure <;> rfl

/-- **Resolving a type, from the command line to the answer.**  A line is printed just where
the module file loads, every property selected on the command line is declared in the module,
and the type resolves to what the line says, with the values given last and with the stubs.  In
every other case nothing is printed and the program fails: with the error of loading, else with
the first property selected that is not declared, else with the failure of the resolution.  A
module that was loaded is let go of once, behind the attempt and before anything is printed.
A command line with texts that all select asks for what they select, and one with a text that
selects nothing is refused. -/
theorem resolve_end_to_end (parsed : parse env args = .ok request)
    (asks : request.command = .resolve path type choices names)
    (logs : (request.settings env).install false = .ok ()) :
    let made := Module.ofFile path (read path)
    let outcome := request.command.run read
    Carried args choices ∧
      ComesTo made.value path type choices names (program env read args) ∧
      (program env read args).output = outcome.printed ∧
      (∀ m, made.value = .ok m →
        let tried := attempt m type choices names
        LetGoOnce m (made.trace ++ tried.trace) tried.after.rules outcome.acts) ∧
      (∀ path type texts choices names, path ≠ "" → NamesFormat env →
        List.Forall₂ Selects texts choices →
        ∃ r, parse env (resolveLine path type texts names) = .ok r ∧
          r.command = .resolve path type choices names) ∧
      ∀ path type texts names, (∃ text ∈ texts, ∀ choice, ¬ Selects text choice) →
        program env read (resolveLine path type texts names) = .refused .invalidValue := by
  refine ⟨carried_of_parse parsed asks, comesTo_program parsed asks logs,
    output_program parsed logs, fun m loaded => ?_,
    fun _ type _ _ names there named select =>
      parse_resolveLine named there type select names, ?_⟩
  · rw [asks]
    exact letGoOnce_resolve loaded
  · rintro path type texts names ⟨text, member, selects⟩
    rw [program, parse_resolveLine_refused env path type member selects names]

end

namespace Example

/-- A module with one rule, for one of two locales. -/
def file : FileReader := fun _ =>
  .ok ("\x7b\"name\":\"a.M\"," ++
    "\"property\":[\x7b\"kind\":\"binding\",\"name\":\"locale\",\"values\":[\"de\",\"en\"]\x7d]," ++
    "\"rule\":[\x7b\"kind\":\"generate-with\",\"class\":\"stub\",\"when\":[" ++
    "\x7b\"when-property-is\":\x7b\"name\":\"locale\",\"value\":\"en\"\x7d\x7d]\x7d]\x7d")

/-- Of two values the last one is selected. -/
def line : List String :=
  ["resolve", "m.json", "a.Api", "--set", "locale=de", "--set=locale=en", "--stub-generator=stub"]

def asked : Request :=
  { logLevel := none, logFormat := none
    command := .resolve "m.json" "a.Api" [("locale", "de"), ("locale", "en")] ["stub"] }

/-- The rule for that locale answers. -/
theorem last_locale_resolves :
    ∃ m answer, (Module.ofFile "m.json" (file "m.json")).value = .ok m ∧
      m.ResolvesTo [("locale", "de"), ("locale", "en")] ["stub"] "a.Api" (.ok answer) ∧
        answer.type = "a.Api_Generated" := by
  have parsed : parse (fun _ => none) line = .ok asked := rfl
  have logs : (asked.settings fun _ => none).install false = .ok () := rfl
  obtain ⟨-, comesTo, -⟩ := @resolve_end_to_end _ file _ _ _ _ _ _ parsed rfl logs
  have printed : program (fun _ => none) file line = .done "a.Api_Generated\n" := by
    decide +kernel
  rw [printed] at comesTo
  obtain ⟨m, answer, loaded, -, resolves, same⟩ :=
    (comesTo.answers "a.Api_Generated").1 ⟨rfl, rfl⟩
  exact ⟨m, answer, loaded, resolves, same⟩

end Example

end CommandLine

end DeferredBinding
