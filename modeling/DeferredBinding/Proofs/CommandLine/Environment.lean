/-
# Proofs.CommandLine.Environment -- logging as the environment says

Where the command line leaves the level and the format of the records open, the environment
decides, and it is looked at twice: by the command line, which takes what it says for the
options that are missing, and by the settings that these options then change
(`Request.settings`).  Both readings agree (`settings_of_open`).

They differ in what they make of a format that is misnamed.  The settings take the usual one
instead; but the command line settles the format as if it had been given by the option, and
refuses it.  So a command line that is good in itself is taken exactly if the environment names
a format or none (`logs_as_environment`).

A command line leaves both open if none of its arguments is an option for them
(`open_of_unnamed`): what is settled then, and what is pending, belongs elsewhere
(`Progress.Open`).
-/
import DeferredBinding.CommandLine.Run
import DeferredBinding.Proofs.CommandLine.Levels
import DeferredBinding.Proofs.CommandLine.Selections

namespace DeferredBinding.CommandLine

set_option autoImplicit false

open DeferredBinding.Attempt Logging

def unset : Environment :=
  fun _ => none

/-! ## Command lines that leave logging open -/

/-- An argument that is an option for logging, alone or in one word with its value. -/
def NamesLogging (arg : String) : Prop :=
  ∃ setting ∈ loggingSettings, ∃ attached, arg = word setting.1 attached

/-- A setting that is not one for logging. -/
def Setting.Apart (s : Setting) : Prop :=
  s ≠ .logLevel ∧ s ≠ .logFormat

/-- Neither the level nor the format is settled. -/
def Values.Open (v : Values) : Prop :=
  v.logLevel = none ∧ v.logFormat = none

theorem Values.Open.settle {v w : Values} (vacant : v.Open) {slot : Slot} {text : String}
    (apart : ∀ s, slot = .setting s → s.Apart) (settles : v.settle slot text = .ok w) :
    w.Open := by
  unfold Values.settle at settles
  split at settles
  · exact absurd rfl (apart _ rfl).1
  · exact absurd rfl (apart _ rfl).2
  · split at settles
    · cases settles
      exact vacant
    · cases settles
  · cases settles
    exact vacant
  · split at settles
    · cases settles
    · cases settles
      exact vacant

/-- Each option of a level is one for logging, or settles something else. -/
def Grammar.NamesApart (g : Grammar) : Prop :=
  ∀ setting ∈ g.settings, setting ∈ loggingSettings ∨ setting.2.Apart

namespace Progress

/-- Neither the level nor the format is settled, and neither is pending. -/
structure Open (p : Progress) : Prop where
  settled : p.values.Open
  pending : ∀ s value, p.pending = some (.setting s, value) → s.Apart

variable {p q : Progress} {g : Grammar} {arg : String}

theorem open_start : ({} : Progress).Open :=
  ⟨⟨rfl, rfl⟩, nofun⟩

theorem Open.settle (vacant : p.Open) (settles : p.settle = .ok q) : q.Open := by
  obtain ⟨-, rfl⟩ | ⟨slot, text, values, waits, settled, rfl⟩ := settle_cases settles
  · exact vacant
  · refine ⟨vacant.settled.settle (fun s same => ?_) settled, nofun⟩
    subst same
    exact vacant.pending s _ waits

theorem Open.option {s : Setting} {attached : Option String} (vacant : p.Open) (apart : s.Apart)
    (takes : p.option s attached = .ok q) : q.Open := by
  obtain ⟨middle, settles, rest⟩ := bind_ok_iff.1 takes
  have between := vacant.settle settles
  cases attached with
  | none =>
      cases rest
      refine ⟨between.settled, fun other value waits => ?_⟩
      cases waits
      exact apart
  | some text =>
      obtain ⟨values, settled, ended⟩ := bind_ok_iff.1 rest
      cases ended
      refine ⟨between.settled.settle (fun other same => ?_) settled, between.pending⟩
      cases same
      exact apart

theorem Open.place {text : String} (vacant : p.Open) (takes : p.place g text = .ok q) :
    q.Open := by
  unfold Progress.place at takes
  split at takes
  · obtain ⟨middle, settles, ended⟩ := bind_ok_iff.1 takes
    cases ended
    exact ⟨(vacant.settle settles).settled, nofun⟩
  · split at takes <;> cases takes

theorem Open.taken (named : g.NamesApart) (vacant : p.Open) (unnamed : ¬ NamesLogging arg)
    (taken : Taken p g arg q) : q.Open := by
  cases taken with
  | dashes => exact ⟨vacant.settled, vacant.pending⟩
  | @option name s attached _ known written takes =>
      obtain logging | apart := named _ known
      · exact absurd ⟨_, logging, attached, written⟩ unnamed
      · exact vacant.option apart takes
  | value =>
      refine ⟨vacant.settled, fun s value waits => ?_⟩
      obtain ⟨⟨slot, before⟩, waiting, same⟩ := Option.map_eq_some_iff.1 waits
      cases same
      exact vacant.pending s before waiting
  | place takes => exact vacant.place takes

end Progress

theorem namesApart_outer : outerGrammar.NamesApart :=
  fun _ member => .inl member

theorem namesApart_inner (name : String) :
    (if name = "check" then checkGrammar else resolveGrammar).NamesApart := by
  split
  · exact fun _ member => .inl member
  · intro setting member
    obtain rfl | rfl | logging : setting = ("set", .select) ∨
        setting = ("stub-generator", .stubGenerator) ∨ setting ∈ loggingSettings := by
      simpa [resolveGrammar] using member
    · exact .inr (by simp [Setting.Apart])
    · exact .inr (by simp [Setting.Apart])
    · exact .inl logging

/-- Levels without an option for logging leave it open. -/
theorem Levels.vacant {args : List String} {outer inner : Progress} {name : String}
    (levels : Levels args outer name inner) (unnamed : ∀ arg ∈ args, ¬ NamesLogging arg) :
    outer.Open ∧ inner.Open := by
  obtain ⟨-, more, rest, outermost, innermost⟩ := levels
  obtain ⟨before, inside⟩ := Progress.takeLevel_keeps
    (fun _ _ arg member vacant taken => vacant.taken namesApart_outer (unnamed arg member) taken)
    Progress.open_start outermost
  obtain ⟨within, -⟩ := Progress.takeLevel_keeps
    (fun _ _ arg member vacant taken => vacant.taken (namesApart_inner name)
      (unnamed arg (inside name more rfl member)) taken)
    Progress.open_start innermost
  exact ⟨before, within⟩

/-! ## Levels at their end -/

section

variable {env : Environment} {p : Progress} {v : Values}

/-- With nothing set, the end of a level is what is settled there. -/
theorem finish_unset_ok_iff :
    finish unset p = .ok v ↔ ∃ q, p.settle = .ok q ∧ q.values = v := by
  constructor
  · intro finished
    obtain ⟨q, settles, ended⟩ := bind_ok_iff.1 finished
    split at ended
    · rename_i name _ written
      cases written
    · cases ended
      exact ⟨q, settles, rfl⟩
  · rintro ⟨q, settles, rfl⟩
    exact finish_of_settle (fun name written => by cases written) settles

theorem finish_named (named : NamesFormat env) (finished : finish unset p = .ok v) :
    finish env p = .ok v := by
  obtain ⟨q, settles, rfl⟩ := finish_unset_ok_iff.1 finished
  exact finish_of_settle named settles

/-- A format that is misnamed is refused where it is looked at. -/
theorem finish_misnamed (misnamed : ¬ NamesFormat env) (finished : finish unset p = .ok v)
    (vacant : v.logFormat = none) : finish env p = .error .invalidValue := by
  obtain ⟨q, settles, rfl⟩ := finish_unset_ok_iff.1 finished
  obtain ⟨name, written, unknown⟩ :
      ∃ name, env "REBIND_LOG_FORMAT" = some name ∧ ∀ f, format name ≠ .ok f := by
    simpa [NamesFormat] using misnamed
  have refuses : format name = .error .invalidValue := by
    cases known : Format.ofName name with
    | error why => rw [format, known]; rfl
    | ok f => exact absurd (by rw [format, known]; rfl) (unknown f)
  simp only [finish, settles, bind, Except.bind, vacant, written, refuses]

end

/-- What a command line comes to where nothing is set. -/
theorem Levels.of_unset {args : List String} {outer inner : Progress} {name : String}
    {asked : Request} (levels : Levels args outer name inner)
    (valid : CommandLine.parse unset args = .ok asked) :
    ∃ outerValues innerValues, finish unset outer = .ok outerValues ∧
      finish unset inner = .ok innerValues ∧ command name innerValues = .ok asked.command ∧
      asked.logLevel = innerValues.logLevel.or outerValues.logLevel ∧
      asked.logFormat = innerValues.logFormat.or outerValues.logFormat := by
  rw [levels.parse] at valid
  obtain ⟨innerValues, innermost, rest⟩ := bind_ok_iff.1 valid
  obtain ⟨what, made, ends⟩ := bind_ok_iff.1 rest
  obtain ⟨outerValues, outermost, same⟩ := bind_ok_iff.1 ends
  cases same
  exact ⟨outerValues, innerValues, outermost, innermost, made, Option.or_none, Option.or_none⟩

/-- A command line leaves logging open if none of its arguments is an option for it. -/
theorem open_of_unnamed {args : List String} {asked : Request}
    (valid : parse unset args = .ok asked) (unnamed : ∀ arg ∈ args, ¬ NamesLogging arg) :
    asked.logLevel = none ∧ asked.logFormat = none := by
  obtain ⟨outer, name, inner, levels⟩ := exists_levels valid
  obtain ⟨before, within⟩ := levels.vacant unnamed
  obtain ⟨outerValues, innerValues, outermost, innermost, -, level, form⟩ := levels.of_unset valid
  obtain ⟨last, settles, rfl⟩ := finish_unset_ok_iff.1 outermost
  obtain ⟨first, settled, rfl⟩ := finish_unset_ok_iff.1 innermost
  obtain ⟨noLevel, noFormat⟩ := (before.settle settles).settled
  obtain ⟨unlevelled, unformed⟩ := (within.settle settled).settled
  rw [level, form, noLevel, noFormat, unlevelled, unformed]
  exact ⟨rfl, rfl⟩

/-! ## Settings -/

/-- A format read by the command line is the one the settings read. -/
theorem toOption_format (name : String) :
    (format name).toOption = (Format.ofName name).toOption := by
  unfold format
  cases Format.ofName name with
  | error why => rfl
  | ok f => rfl

theorem format_ofEnvironment (env : Environment) :
    (Settings.ofEnvironment env).format =
      ((env "REBIND_LOG_FORMAT").bind fun name => (format name).toOption).getD .compact := by
  simp only [Settings.ofEnvironment, toOption_format]
  cases env "REBIND_LOG_FORMAT" with
  | none => rfl
  | some name => simp only [Option.bind_some]

/-- Options that say what the settings say anyway change nothing. -/
theorem settings_overlaid {s : Settings} {level : Option String} {form : Option Format}
    (sameLevel : level.getD s.level = s.level) (sameFormat : form.getD s.format = s.format) :
    (s.withLevel level).withFormat form = s := by
  simp only [Settings.withLevel, Settings.withFormat, sameLevel, sameFormat]

/-- What the environment says for the options that are missing changes nothing in the settings
that the environment asks for. -/
theorem settings_of_open (env : Environment) (outer inner : Values) (what : Command)
    (noLevel : inner.logLevel.or outer.logLevel = none)
    (noFormat : inner.logFormat.or outer.logFormat = none) :
    (request env outer inner what).settings env = .ofEnvironment env := by
  simp only [Request.settings, request, noLevel, noFormat, Option.none_or]
  refine settings_overlaid ?_ ?_
  · simp only [Settings.ofEnvironment]
    cases env "REBIND_LOG" with
    | none => rfl
    | some filter => rfl
  · rw [format_ofEnvironment]
    cases (env "REBIND_LOG_FORMAT").bind fun name => (format name).toOption with
    | none => rfl
    | some f => rfl

/-- **Logging is as the environment says.**  Take a command line that is good where nothing is
set.  It leaves the level and the format open if none of its arguments is an option for them.
Where it leaves them open, and the environment names a format or none, the same is asked for in
that environment, and logged by the settings of the environment; where the environment misnames
the format, the command line is refused. -/
theorem logs_as_environment (env : Environment) {args : List String} {asked : Request}
    (valid : parse unset args = .ok asked) :
    ((∀ arg ∈ args, ¬ NamesLogging arg) → asked.logLevel = none ∧ asked.logFormat = none) ∧
    (asked.logLevel = none → asked.logFormat = none →
      (NamesFormat env → ∃ r, parse env args = .ok r ∧ r.command = asked.command ∧
        r.settings env = .ofEnvironment env) ∧
      (¬ NamesFormat env → ∀ read, program env read args = .refused .invalidValue)) := by
  refine ⟨open_of_unnamed valid, fun noLevel noFormat => ?_⟩
  obtain ⟨outer, name, inner, levels⟩ := exists_levels valid
  obtain ⟨outerValues, innerValues, outermost, innermost, made, level, form⟩ :=
    levels.of_unset valid
  rw [noLevel] at level
  rw [noFormat] at form
  constructor
  · intro named
    refine ⟨request env outerValues innerValues asked.command, ?_, rfl,
      settings_of_open env _ _ _ level.symm form.symm⟩
    rw [levels.parse, finish_named named innermost]
    show (command name innerValues).bind _ = _
    rw [made]
    show (finish env outer).bind _ = _
    rw [finish_named named outermost]
    rfl
  · intro misnamed read
    have refused : parse env args = .error .invalidValue := by
      rw [levels.parse, finish_misnamed misnamed innermost (Option.or_eq_none_iff.1 form.symm).1]
      rfl
    rw [program, refused]

/-- Only what begins with a dash is an option. -/
theorem unnamed_of_head {arg : String} (plain : arg.toList.head? ≠ some '-') :
    ¬ NamesLogging arg := by
  rintro ⟨setting, -, attached, rfl⟩
  exact plain (by simp [word])

/-- The format is set, and names none. -/
def misnaming : Environment :=
  fun name => if name = "REBIND_LOG_FORMAT" then some "bogus" else none

/-- A misnamed format does not give way to the usual one: a command line that asks for nothing
but the check of a file is refused. -/
theorem misnamed_format_refused :
    ¬ ∀ (env : Environment) (args : List String) (asked : Request),
      parse unset args = .ok asked → (∀ arg ∈ args, ¬ NamesLogging arg) →
        ∃ r, parse env args = .ok r ∧ r.settings env = .ofEnvironment env := by
  intro claimed
  have plain : ∀ arg ∈ ["check", "module.json"], arg.toList.head? ≠ some '-' := by decide
  obtain ⟨r, parsed, -⟩ := claimed misnaming ["check", "module.json"]
    ⟨none, none, .check "module.json"⟩ rfl fun arg member => unnamed_of_head (plain arg member)
  have refused : parse misnaming ["check", "module.json"] = .error .invalidValue := by
    decide +kernel
  rw [refused] at parsed
  cases parsed

namespace Example

/-- Everything about logging is set, and the format is padded and begins in upper case. -/
def loud : Environment :=
  fun name =>
    [("REBIND_LOG", "debug"), ("RUST_LOG", "warn"), ("REBIND_LOG_FORMAT", " Json\n"),
      ("NO_COLOR", "1")].lookup name

/-- A check is logged as that says, in full, with the padded format taken for what it names. -/
theorem loud_check_logged :
    ∃ r, parse loud ["check", "module.json"] = .ok r ∧ r.command = .check "module.json" ∧
      r.settings loud =
        { level := "debug", format := .json, display := { colors := false } } := by
  have known : format " Json\n" = .ok .json := by decide +kernel
  have named : NamesFormat loud := by
    intro name written
    cases written
    exact ⟨.json, known⟩
  have valid : parse unset ["check", "module.json"] =
      .ok ⟨none, none, .check "module.json"⟩ := rfl
  obtain ⟨r, parsed, asks, logged⟩ := ((logs_as_environment loud valid).2 rfl rfl).1 named
  refine ⟨r, parsed, asks, logged.trans ?_⟩
  decide +kernel

end Example

end DeferredBinding.CommandLine
