/-
# Proofs.CommandLine.LastSelections -- which selections weigh in a request

Selections are made in order, and of those made for a name the last one stands.  It weighs in a
request only if the name is that of a binding property which some rule mentions
(`Module.Weighs`): conditions look at no other selections, and stubs look at none
(`ignoresProperties_stubs`).  So two lists that agree on the last value of each such property
resolve alike, to the last entry of the record (`resolution_alike`).

In particular a list may be put in another order, be relieved of what it repeats, or be given
what does not weigh (`LastSelectionsDecide`).
-/
import DeferredBinding.Proofs.CommandLine.Resolving
import DeferredBinding.Proofs.Resolution.ReadSet

namespace DeferredBinding

set_option autoImplicit false

open Property

/-- A selection of the name weighs in requests: it is that of a binding property some rule
mentions. -/
def Module.Weighs (m : Module) (name : String) : Prop :=
  name ∈ m.rules.required ∧ ∃ b, m.properties.binding? name = some b

namespace CommandLine

/-- A module declares all that two lists select, and they agree where a selection weighs. -/
structure WeighAlike (m : Module) (xs ys : List (String × String)) : Prop where
  here : Declares m xs
  there : Declares m ys
  agree : ∀ name, m.Weighs name → AgreeOn xs ys name

/-! ## Requests with other selections -/

/-- Stubs look at no property. -/
theorem ignoresProperties_stubs (m : Module) (properties : Property.Source)
    (names : List String) :
    (m.context properties (stubs names).get?).IgnoresProperties := by
  refine Context.ignoresProperties_of_recipes fun name recipe found => ?_
  have stub : (stubs names).get? name = some recipe := found
  rw [get?_stubs] at stub
  obtain ⟨-, made⟩ := Option.ite_none_right_eq_some.1 stub
  rw [← Option.some.inj made]
  rfl

section

variable {m : Module} {xs ys : List (String × String)}

theorem alike_of_agree (agree : ∀ name, m.Weighs name → AgreeOn xs ys name) :
    Source.Alike m.rules.required
      ({ table := m.properties, selections := .ofList xs } : Permutation).source
      ({ table := m.properties, selections := .ofList ys } : Permutation).source where
  has _ _ := rfl
  selects name required := by
    refine Permutation.selection_congr rfl fun b bound => ?_
    exact (chooses_ofList m.properties xs).value?_eq_of_agreeOn (chooses_ofList m.properties ys)
      (agree name ⟨required, b, bound⟩)

/-- Lists that agree where selections weigh resolve alike. -/
theorem resolution_alike (agree : ∀ name, m.Weighs name → AgreeOn xs ys name) (type : String)
    (names : List String) : resolution m type xs names = resolution m type ys names := by
  let here : Permutation := { table := m.properties, selections := .ofList xs }
  have ignorant := ignoresProperties_stubs m here.source names
  exact Rules.resolve_alike ignorant (alike_of_agree agree) type {}

theorem attempt_alike (alike : WeighAlike m xs ys) (type : String) (names : List String) :
    attempt m type xs names = attempt m type ys names := by
  rw [attempt_of_declares alike.here, attempt_of_declares alike.there,
    resolution_alike alike.agree]

theorem Declares.insert_iff {name value : String} {earlier later : List (String × String)} :
    Declares m (earlier ++ (name, value) :: later) ↔
      m.properties.contains name = true ∧ Declares m (earlier ++ later) := by
  simp only [Declares, List.map_append, List.map_cons, List.forall_mem_append,
    List.forall_mem_cons]
  exact and_left_comm

theorem Declares.of_choicesFor (declares : Declares m xs)
    (same : ∀ name, choicesFor name xs = choicesFor name ys) : Declares m ys := by
  intro name member
  refine declares name (Classical.byContradiction fun absent => ?_)
  exact choicesFor_eq_nil_iff.1 ((same name).symm.trans (choicesFor_eq_nil_iff.2 absent)) member

end

/-! ## The last selections decide -/

/-- What comes of a list of selections, all of them declared by `m`, depends on the last
selection of each property that weighs. -/
structure LastSelectionsDecide {α : Type} (m : Module)
    (comes : List (String × String) → α) : Prop where
  /-- lists that agree where selections weigh come to the same -/
  agreeing : ∀ xs ys, WeighAlike m xs ys → comes xs = comes ys
  /-- selections may stand in another order, if for each name they stand in the same -/
  reordered : ∀ xs ys, Declares m xs → (∀ name, choicesFor name xs = choicesFor name ys) →
    comes xs = comes ys
  /-- a selection may be left out where its name is selected again -/
  repeated : ∀ earlier name value later, Declares m (earlier ++ later) →
    name ∈ later.map Prod.fst →
      comes (earlier ++ (name, value) :: later) = comes (earlier ++ later)
  /-- a selection that does not weigh may be added -/
  weightless : ∀ earlier name value later, Declares m (earlier ++ later) →
    m.properties.contains name = true → ¬ m.Weighs name →
      comes (earlier ++ (name, value) :: later) = comes (earlier ++ later)

/-- All of it follows for lists that agree. -/
theorem lastSelectionsDecide_of_agreeing {α : Type} {m : Module}
    {comes : List (String × String) → α}
    (agreeing : ∀ xs ys, WeighAlike m xs ys → comes xs = comes ys) :
    LastSelectionsDecide m comes where
  agreeing := agreeing
  reordered xs ys here same := by
    refine agreeing xs ys ⟨here, here.of_choicesFor same, fun name _ => ?_⟩
    rw [agreeOn_iff, same name]
  repeated earlier name value later there again := by
    have known : m.properties.contains name = true := by
      refine there name ?_
      rw [List.map_append]
      exact List.mem_append_right _ again
    exact agreeing _ _ ⟨Declares.insert_iff.2 ⟨known, there⟩, there, fun other _ =>
      agreeOn_insert_of_mem again earlier other⟩
  weightless earlier name value later there known weightless := by
    refine agreeing _ _ ⟨Declares.insert_iff.2 ⟨known, there⟩, there, fun other weighs => ?_⟩
    have different : name ≠ other := by
      rintro rfl
      exact weightless weighs
    exact agreeOn_insert_of_ne different earlier later

section

variable {read : FileReader} {path : String} {m : Module}

theorem resolve_alike (loaded : (Module.ofFile path (read path)).value = .ok m)
    {xs ys : List (String × String)} (alike : WeighAlike m xs ys) (type : String)
    (names : List String) :
    resolve read path type xs names = resolve read path type ys names := by
  refine resolve_congr fun other alsoLoaded => ?_
  rw [loaded] at alsoLoaded
  cases alsoLoaded
  exact attempt_alike alike type names

/-- A command line asks for a command, and logging can be set up for it. -/
def Asks (env : Logging.Environment) (args : List String) (command : Command) : Prop :=
  ∃ r, parse env args = .ok r ∧ r.command = command ∧ (r.settings env).install false = .ok ()

/-- How the program ends depends on what comes of the command that is asked for. -/
theorem program_congr {env : Logging.Environment} {args others : List String}
    {first second : Command} (asks : Asks env args first) (likewise : Asks env others second)
    (same : first.run read = second.run read) : program env read args = program env read others := by
  obtain ⟨r, parsed, rfl, logs⟩ := asks
  obtain ⟨q, alsoParsed, rfl, alsoLogs⟩ := likewise
  rw [program_of_parsed parsed logs, program_of_parsed alsoParsed alsoLogs, same]

/-- **Only the last selection of a property that weighs matters.**  In a module that loads,
whatever the type and the stubs, lists of selections which agree there come to the same answer
or failure, to the same line printed and the same record; and command lines that make them end
the program in the same way. -/
theorem last_selections_decide (loaded : (Module.ofFile path (read path)).value = .ok m)
    (type : String) (names : List String) :
    LastSelectionsDecide m (fun choices => resolve read path type choices names) ∧
      ∀ env args others xs ys, Asks env args (.resolve path type xs names) →
        Asks env others (.resolve path type ys names) → WeighAlike m xs ys →
          program env read args = program env read others :=
  ⟨lastSelectionsDecide_of_agreeing fun _ _ alike => resolve_alike loaded alike type names,
    fun _ _ _ _ _ asks likewise alike =>
      program_congr asks likewise (resolve_alike loaded alike type names)⟩

end

namespace Example

/-- A module with a binding property, a configuration property and a rule that mentions the
first. -/
def languageFile : FileReader := fun _ =>
  .ok ("\x7b\"name\":\"M\",\"property\":[" ++
    "\x7b\"kind\":\"binding\",\"name\":\"lang\",\"values\":[\"de\",\"en\"]\x7d," ++
    "\x7b\"kind\":\"configuration\",\"name\":\"css\"\x7d]," ++
    "\"rule\":[\x7b\"kind\":\"replace-with\",\"class\":\"En\",\"when\":[" ++
    "\x7b\"when-property-is\":\x7b\"name\":\"lang\",\"value\":\"en\"\x7d\x7d]\x7d]\x7d")

/-- Two languages are selected, and what no rule asks for. -/
def wordy : List (String × String) :=
  [("lang", "de"), ("css", "a.css"), ("lang", "en")]

/-- The last of these languages alone answers as they all do. -/
theorem last_language_decides :
    (∃ m, (Module.ofFile "m.json" (languageFile "m.json")).value = .ok m ∧
      WeighAlike m wordy [("lang", "en")]) ∧
      resolve languageFile "m.json" "Api" wordy [] =
        resolve languageFile "m.json" "Api" [("lang", "en")] [] ∧
      (resolve languageFile "m.json" "Api" wordy []).printed = "En\n" := by
  have loads : (Module.ofFile "m.json" (languageFile "m.json")).value.toOption.any (fun m =>
      undeclared m wordy == none && undeclared m [("lang", "en")] == none &&
        m.rules.required == ["lang"] &&
        (attempt m "Api" wordy []).outcome == .ok { type := "En", rule := some 0 }) = true := by
    decide +kernel
  obtain ⟨m, made, fits⟩ := (Option.any_eq_true _ _).1 loads
  simp only [Bool.and_eq_true, beq_iff_eq] at fits
  obtain ⟨⟨⟨here, there⟩, required⟩, answers⟩ := fits
  have loaded : (Module.ofFile "m.json" (languageFile "m.json")).value = .ok m := by
    cases value : (Module.ofFile "m.json" (languageFile "m.json")).value with
    | error error => rw [value] at made; cases made
    | ok other => rw [value] at made; cases made; rfl
  have alike : WeighAlike m wordy [("lang", "en")] := by
    refine ⟨undeclared_eq_none_iff.1 here, undeclared_eq_none_iff.1 there, fun name weighs => ?_⟩
    have mentioned := weighs.1
    rw [required, List.mem_singleton] at mentioned
    rw [mentioned, agreeOn_iff]
    rfl
  have same := (last_selections_decide loaded "Api" []).1.agreeing _ _ alike
  exact ⟨⟨m, loaded, alike⟩, same, by rw [resolve_of_answered loaded answers, printed_answered]; rfl⟩

end Example

end CommandLine

end DeferredBinding
