/-
# Proofs.CommandLine.Selections -- where the selections of a request come from

A text selects a value if something other than an equals sign stands before the first equals
sign in it (`selection?_eq_some_iff`).  All selections of a request are such texts, and stand
on the command line in the order in which they are made, each apart from its option or in one
word with it (`carried_of_parse`).  The other way round, a command line that is written out
from texts asks for just what they select (`parse_resolveLine`), and is refused where one of
them selects nothing (`parse_resolveLine_refused`).

A value that stands apart from its option is settled later than it is met, so what is still to
be settled belongs to the invariant of a level (`Progress.Follows`).
-/
import Mathlib.Data.List.Forall2
import DeferredBinding.Proofs.CommandLine.Levels

namespace DeferredBinding.CommandLine

set_option autoImplicit false

open Attempt

/-! ## Texts that select -/

/-- A name that is not empty, the first equals sign, and a value. -/
def Selects (text : String) (choice : String × String) : Prop :=
  choice.1 ≠ "" ∧ '=' ∉ choice.1.toList ∧ text = choice.1 ++ "=" ++ choice.2

theorem cut_at_equals {cs name value : List Char} (free : '=' ∉ name)
    (same : cs = name ++ '=' :: value) :
    cs.takeWhile (· != '=') = name ∧ cs.dropWhile (· != '=') = '=' :: value := by
  have all : ∀ c ∈ name, (c != '=') = true := by
    intro c member
    rw [bne_iff_ne]
    rintro rfl
    exact free member
  subst same
  constructor
  · rw [List.takeWhile_append_of_pos all, List.takeWhile_cons_of_neg (by decide), List.append_nil]
  · rw [List.dropWhile_append_of_pos all, List.dropWhile_cons_of_neg (by decide)]

theorem eq_of_cut {cs value : List Char} {c : Char}
    (rest : cs.dropWhile (· != '=') = c :: value) :
    '=' ∉ cs.takeWhile (· != '=') ∧ cs = cs.takeWhile (· != '=') ++ '=' :: value := by
  have stops := List.head?_dropWhile_not (· != '=') cs
  rw [rest] at stops
  obtain rfl : c = '=' := by simpa using stops
  refine ⟨fun member => ?_, ?_⟩
  · have passes := List.all_eq_true.1 (List.all_takeWhile (p := (· != '=')) (l := cs)) _ member
    exact absurd passes (by decide)
  · rw [← rest, List.takeWhile_append_dropWhile]

/-- A selection is the text cut at its first equals sign. -/
theorem selection?_eq_some_iff {text : String} {choice : String × String} :
    selection? text = some choice ↔ Selects text choice := by
  obtain ⟨name, value⟩ := choice
  unfold selection?
  constructor
  · intro found
    dsimp only at found
    split at found
    · cases found
    · rename_i c rest cut
      obtain ⟨free, whole⟩ := eq_of_cut cut
      split at found
      · cases found
      · rename_i named
        cases found
        refine ⟨fun empty => named ?_, ?_, ?_⟩
        · rw [List.isEmpty_iff]
          exact String.ofList_eq_empty_iff.1 empty
        · rw [String.toList_ofList]
          exact free
        · apply String.toList_injective
          simpa using whole
  · rintro ⟨named, free, rfl⟩
    have whole : (name ++ "=" ++ value).toList = name.toList ++ '=' :: value.toList := by simp
    obtain ⟨before, after⟩ := cut_at_equals free whole
    have some_ : name.toList.isEmpty = false := by simpa using named
    simp only [before, after, some_, String.ofList_toList]
    rfl

/-! ## Arguments that carry selections -/

/-- An argument is the text of a selection, or that text behind the name of the option. -/
def Carries (arg : String) (choice : String × String) : Prop :=
  ∃ text, Selects text choice ∧ (arg = text ∨ arg = "--set=" ++ text)

/-- Arguments carry selections in their order. -/
def Carried (args : List String) (choices : List (String × String)) : Prop :=
  ∃ words, words.Sublist args ∧ List.Forall₂ Carries words choices

section

variable {args : List String} {arg : String} {choices : List (String × String)}
  {choice : String × String}

theorem carried_nil (args : List String) : Carried args [] :=
  ⟨[], List.nil_sublist args, .nil⟩

theorem Carried.mono {more : List String} (carried : Carried args choices)
    (sublist : args.Sublist more) : Carried more choices := by
  obtain ⟨words, inside, carry⟩ := carried
  exact ⟨words, inside.trans sublist, carry⟩

theorem Carried.later (carried : Carried args choices) (more : List String) :
    Carried (args ++ more) choices :=
  carried.mono (List.sublist_append_left args more)

theorem Carried.concat (carried : Carried args choices) (next : Carries arg choice) :
    Carried (args ++ [arg]) (choices ++ [choice]) := by
  obtain ⟨words, inside, carry⟩ := carried
  exact ⟨words ++ [arg], inside.append (List.Sublist.refl _),
    List.rel_append carry (.cons next .nil)⟩

end

/-! ## Levels -/

/-- Settling a value makes a selection of it or leaves the selections alone. -/
theorem Values.selections_settle {v w : Values} {slot : Slot} {text : String}
    (settled : v.settle slot text = .ok w) :
    w.selections = v.selections ∨
      slot = .setting .select ∧
        ∃ choice, Selects text choice ∧ w.selections = v.selections ++ [choice] := by
  unfold settle at settled
  split at settled
  · split at settled
    · cases settled
    · cases settled
      exact Or.inl rfl
  · split at settled
    · cases settled
    · obtain ⟨f, -, rfl⟩ := map_ok_iff.1 settled
      exact Or.inl rfl
  · split at settled
    · rename_i choice found
      cases settled
      exact Or.inr ⟨rfl, choice, selection?_eq_some_iff.1 found, rfl⟩
    · cases settled
  · cases settled
    exact Or.inl rfl
  · split at settled
    · cases settled
    · cases settled
      exact Or.inl rfl

/-- The option that selects has one name. -/
def Grammar.NamesSelect (g : Grammar) : Prop :=
  ∀ setting ∈ g.settings, setting.2 = .select → setting.1 = "set"

namespace Progress

/-- The arguments `taken` carry the selections that were settled, and with them the one that is
still to be settled. -/
structure Follows (p : Progress) (taken : List String) : Prop where
  settled : Carried taken p.values.selections
  pending : ∀ text choice, p.pending = some (.setting .select, some text) →
    Selects text choice → Carried taken (p.values.selections ++ [choice])

section

variable {p q : Progress} {taken : List String} {g : Grammar}

theorem follows_start : ({} : Progress).Follows [] :=
  ⟨carried_nil [], fun _ _ waits => by cases waits⟩

/-- With nothing to settle only the settled selections count. -/
theorem follows_of_carried (carried : Carried taken p.values.selections)
    (idle : ∀ text, p.pending ≠ some (.setting .select, some text)) : p.Follows taken :=
  ⟨carried, fun text _ waits => absurd waits (idle text)⟩

theorem pending_settle (settles : p.settle = .ok q) : q.pending = none := by
  obtain ⟨idle, rfl⟩ | ⟨slot, text, values, -, -, rfl⟩ := settle_cases settles
  · exact idle
  · rfl

theorem Follows.settle (follows : p.Follows taken) (settles : p.settle = .ok q) :
    Carried taken q.values.selections := by
  obtain ⟨-, rfl⟩ | ⟨slot, text, values, waits, settled, rfl⟩ := settle_cases settles
  · exact follows.settled
  · obtain same | ⟨rfl, choice, selects, more⟩ := Values.selections_settle settled
    · rw [same]
      exact follows.settled
    · rw [more]
      exact follows.pending text choice waits selects

theorem Follows.option {s : Setting} {attached : Option String} {arg : String}
    (follows : p.Follows taken) (takes : p.option s attached = .ok q)
    (written : ∀ text, attached = some text → s = .select → arg = "--set=" ++ text) :
    q.Follows (taken ++ [arg]) := by
  obtain ⟨middle, settles, rest⟩ := bind_ok_iff.1 takes
  have carried := follows.settle settles
  have idle := pending_settle settles
  cases attached with
  | none =>
      cases rest
      exact follows_of_carried (carried.later [arg]) nofun
  | some text =>
      obtain ⟨values, settled, ended⟩ := bind_ok_iff.1 rest
      cases ended
      refine follows_of_carried ?_ fun other => ?_
      · obtain same | ⟨slot, choice, selects, more⟩ := Values.selections_settle settled
        · rw [show Progress.values { middle with values } = values from rfl, same]
          exact carried.later [arg]
        · cases slot
          rw [show Progress.values { middle with values } = values from rfl, more]
          exact carried.concat ⟨text, selects, .inr (written text rfl rfl)⟩
      · rw [show Progress.pending { middle with values } = middle.pending from rfl, idle]
        exact nofun

theorem Follows.place {text : String} (follows : p.Follows taken)
    (takes : p.place g text = .ok q) : q.Follows (taken ++ [text]) := by
  unfold Progress.place at takes
  split at takes
  · obtain ⟨middle, settles, ended⟩ := bind_ok_iff.1 takes
    cases ended
    exact follows_of_carried ((follows.settle settles).later [text]) nofun
  · split at takes <;> cases takes

/-- One argument more is followed. -/
theorem Follows.more {arg : String} (named : g.NamesSelect) (follows : p.Follows taken)
    (next : Taken p g arg q) : q.Follows (taken ++ [arg]) := by
  cases next with
  | dashes =>
      exact ⟨follows.settled.later [arg], fun text choice waits selects =>
        (follows.pending text choice waits selects).later [arg]⟩
  | @option name s attached _ known written takes =>
      refine follows.option takes fun text inWord selects => ?_
      subst inWord selects
      rw [written, show name = "set" from named _ known rfl]
      apply String.toList_injective
      simp [word]
  | value =>
      refine ⟨follows.settled.later [arg], fun text choice waits selects => ?_⟩
      obtain ⟨waiting, -, same⟩ := Option.map_eq_some_iff.1 waits
      obtain rfl : arg = text := Option.some.inj (congrArg Prod.snd same)
      exact follows.settled.concat ⟨arg, selects, .inl rfl⟩
  | place takes => exact follows.place takes

end

/-- The arguments that a level leaves to the next one. -/
def left : Option (String × List String) → List String
  | none => []
  | some (name, args) => name :: args

/-- A level follows the arguments that it takes, up to the name of a command. -/
theorem Follows.takeLevel {g : Grammar} (named : g.NamesSelect) {args : List String}
    {p q : Progress} {taken : List String} {rest : Option (String × List String)}
    (follows : p.Follows taken) (takes : takeLevel g p args = .ok (q, rest)) :
    ∃ used, args = used ++ left rest ∧ q.Follows (taken ++ used) := by
  induction args generalizing p taken with
  | nil =>
      cases takes
      exact ⟨[], rfl, by rwa [List.append_nil]⟩
  | cons arg others ih =>
      rw [CommandLine.takeLevel] at takes
      split at takes
      · cases takes
        exact ⟨[], rfl, by rwa [List.append_nil]⟩
      · obtain ⟨middle, first, onward⟩ := bind_ok_iff.1 takes
        obtain ⟨used, rfl, followed⟩ := ih (follows.more named (taken_of_take first)) onward
        refine ⟨arg :: used, rfl, ?_⟩
        rwa [List.append_assoc] at followed

end Progress

/-! ## Requests -/

theorem selections_finish {env : Logging.Environment} {p : Progress} {v : Values}
    {taken : List String} (follows : p.Follows taken) (finished : finish env p = .ok v) :
    Carried taken v.selections := by
  obtain ⟨settled, settles, ended⟩ := bind_ok_iff.1 finished
  have carried := follows.settle settles
  split at ended
  · obtain ⟨-, -, same⟩ := bind_ok_iff.1 ended
    cases same
    exact carried
  · cases ended
    exact carried

theorem choices_of_command {name path type : String} {v : Values}
    {choices : List (String × String)} {stubs : List String}
    (made : command name v = .ok (.resolve path type choices stubs)) : choices = v.selections := by
  unfold command at made
  split at made
  · cases made
  · cases made
    rfl
  · cases made

theorem namesSelect_outer : outerGrammar.NamesSelect := by
  simp [Grammar.NamesSelect, outerGrammar, loggingSettings]

theorem namesSelect_inner (name : String) :
    (if name = "check" then checkGrammar else resolveGrammar).NamesSelect := by
  split <;> simp [Grammar.NamesSelect, checkGrammar, resolveGrammar, loggingSettings]

/-- **The selections of a request are those of the command line.**  In their order each of them
is the text of an argument, or of the rest of one behind `--set=`, cut at its first equals sign,
with something before it. -/
theorem carried_of_parse {env : Logging.Environment} {args : List String} {r : Request}
    {path type : String} {choices : List (String × String)} {stubs : List String}
    (parsed : parse env args = .ok r) (asks : r.command = .resolve path type choices stubs) :
    Carried args choices := by
  obtain ⟨outer, name, inner, levels⟩ := exists_levels parsed
  rw [levels.parse] at parsed
  obtain ⟨innerValues, finished, commands⟩ := bind_ok_iff.1 parsed
  obtain ⟨what, made, outermost⟩ := bind_ok_iff.1 commands
  obtain ⟨outerValues, -, ended⟩ := bind_ok_iff.1 outermost
  cases ended
  rw [show (request env outerValues innerValues what).command = what from rfl] at asks
  subst asks
  obtain ⟨-, more, rest, takes, innerTakes⟩ := levels
  obtain ⟨before, whole, -⟩ := Progress.follows_start.takeLevel namesSelect_outer takes
  obtain ⟨used, split, follows⟩ :=
    Progress.follows_start.takeLevel (namesSelect_inner name) innerTakes
  have inside : used.Sublist args := by
    rw [whole, split]
    exact (List.sublist_append_left used _).trans
      ((List.sublist_cons_self name _).trans (List.sublist_append_right before _))
  rw [choices_of_command made]
  exact (selections_finish follows finished).mono inside

/-! ## Command lines written out -/

/-- An option in one word with its value. -/
def attached (name value : String) : String :=
  "--" ++ name ++ "=" ++ value

/-- The command line that asks for a type in the module of a file, with the texts of its
selections and the names of its stubs. -/
def resolveLine (path type : String) (texts names : List String) : List String :=
  "resolve" :: (texts.map (attached "set") ++ (names.map (attached "stub-generator") ++
    ["--", path, type]))

theorem longParts_append {name : List Char} (free : '=' ∉ name) (value : String) :
    Progress.longParts (name ++ '=' :: value.toList) = (String.ofList name, some value) := by
  have parted := @cut_at_equals _ name value.toList free rfl
  simp only [Progress.longParts, parted.1, parted.2, String.ofList_toList]

/-- Settle values one after the other in the same slot. -/
def Values.settleAll (v : Values) (slot : Slot) (texts : List String) : Except Refusal Values :=
  texts.foldlM (fun v text => v.settle slot text) v

section

variable {p : Progress} {g : Grammar} {name : String} {s : Setting}

theorem option_attached (idle : p.pending = none) (s : Setting) (value : String) :
    p.option s (some value) =
      (p.values.settle (.setting s) value).map fun values => { p with values } := by
  have settles : p.settle = .ok p := by rw [Progress.settle, idle]
  rw [Progress.option, settles]
  show (p.values.settle (.setting s) value).bind _ = _
  cases p.values.settle (.setting s) value with
  | error why => rfl
  | ok values => rfl

theorem take_attached (idle : p.pending = none) (open_ : p.trailing = false)
    (known : g.settings.lookup name = some s) (free : '=' ∉ name.toList) (value : String) :
    p.take g (attached name value) =
      (p.values.settle (.setting s) value).map fun values => { p with values } := by
  have letters : (attached name value).toList =
      '-' :: '-' :: (name.toList ++ '=' :: value.toList) := by simp [attached]
  have more : name.toList ++ '=' :: value.toList ≠ [] := by simp
  rw [Progress.take, if_neg (by simp [open_])]
  split
  · rename_i short
    rw [letters] at short
    exact absurd (List.cons.inj (List.cons.inj short).2).2 more
  · rename_i cs _ long
    rw [letters] at long
    obtain rfl := (List.cons.inj (List.cons.inj long).2).2
    rw [longParts_append free, String.ofList_toList, Progress.long, known]
    exact option_attached idle s value
  · rename_i c cs notLong short
    rw [letters] at short
    cases short
    exact (notLong rfl).elim
  · rename_i notLong _
    exact absurd letters (notLong _)

/-- Options that stand in one word with their values are settled where they stand. -/
theorem takeLevel_attached (commandless : g.commands = [])
    (known : g.settings.lookup name = some s) (free : '=' ∉ name.toList) (texts : List String)
    (idle : p.pending = none) (open_ : p.trailing = false) (rest : List String) :
    takeLevel g p (texts.map (attached name) ++ rest) =
      (p.values.settleAll (.setting s) texts).bind fun values =>
        takeLevel g { p with values } rest := by
  induction texts generalizing p with
  | nil => rfl
  | cons text texts ih =>
      rw [List.map_cons, List.cons_append, takeLevel, commandless, if_neg (by simp),
        take_attached idle open_ known free, Values.settleAll, List.foldlM_cons]
      cases p.values.settle (.setting s) text with
      | error why => rfl
      | ok values => exact ih (p := { p with values }) idle open_

end

theorem settleAll_select {texts : List String} {choices : List (String × String)}
    (select : List.Forall₂ Selects texts choices) (v : Values) :
    v.settleAll (.setting .select) texts =
      .ok { v with selections := v.selections ++ choices } := by
  induction select generalizing v with
  | nil => rw [List.append_nil]; rfl
  | cons selects rest ih =>
      rw [Values.settleAll, List.foldlM_cons, Values.settle.eq_3]
      rw [selection?_eq_some_iff.2 selects]
      refine (ih _).trans ?_
      rw [List.append_assoc]
      rfl

theorem settleAll_stubs (names : List String) (v : Values) :
    v.settleAll (.setting .stubGenerator) names = .ok { v with stubs := v.stubs ++ names } := by
  induction names generalizing v with
  | nil => rw [List.append_nil]; rfl
  | cons name rest ih =>
      refine (ih { v with stubs := v.stubs ++ [name] }).trans ?_
      rw [List.append_assoc]
      rfl

theorem settleAll_refused {texts : List String} {text : String} (member : text ∈ texts)
    (selects : ∀ choice, ¬ Selects text choice) (v : Values) :
    v.settleAll (.setting .select) texts = .error .invalidValue := by
  induction texts generalizing v with
  | nil => cases member
  | cons first rest ih =>
      rw [Values.settleAll, List.foldlM_cons, Values.settle.eq_3]
      cases found : selection? first with
      | none => rfl
      | some choice =>
          obtain rfl | later := List.mem_cons.1 member
          · exact absurd (selection?_eq_some_iff.1 found) (selects choice)
          · exact ih later _

/-- The format that the environment names, if any, is one. -/
def NamesFormat (env : Logging.Environment) : Prop :=
  ∀ name, env "REBIND_LOG_FORMAT" = some name → ∃ f, format name = .ok f

theorem finish_of_settle {env : Logging.Environment} (named : NamesFormat env) {p q : Progress}
    (settles : p.settle = .ok q) : finish env p = .ok q.values := by
  refine bind_ok_iff.2 ⟨q, settles, ?_⟩
  split
  · rename_i name _ written
    obtain ⟨f, known⟩ := named name written
    exact bind_ok_iff.2 ⟨f, known, rfl⟩
  · rfl

/-- A level that ends in a path and a type behind two dashes. -/
theorem takeLevel_places {path : String} (there : path ≠ "") (type : String) {v : Values}
    (empty : v.places = []) :
    ∃ p q, takeLevel resolveGrammar { values := v } ["--", path, type] = .ok (p, none) ∧
      p.settle = .ok q ∧ q.values = { v with places := [path, type] } := by
  have settled : v.settle .place path = .ok { v with places := [path] } := by
    rw [Values.settle, if_neg (by simp [there]), empty, List.nil_append]
  let waiting : Progress :=
    { values := v, pending := some (.place, some path), trailing := true, met := 1 }
  let between : Progress := { values := { v with places := [path] }, trailing := true, met := 1 }
  have settles : waiting.settle = .ok between := by
    show (v.settle .place path).map _ = _
    rw [settled]
    rfl
  refine ⟨{ between with pending := some (.place, some type), met := 2 }, _, ?_, rfl, rfl⟩
  show (waiting.place resolveGrammar type).bind _ = _
  rw [Progress.place, settles]
  rfl

/-- With texts that all select, a command line asks for what it says. -/
theorem parse_resolveLine {env : Logging.Environment} (named : NamesFormat env) {path : String}
    (there : path ≠ "") (type : String) {texts : List String}
    {choices : List (String × String)} (select : List.Forall₂ Selects texts choices)
    (names : List String) :
    ∃ r, parse env (resolveLine path type texts names) = .ok r ∧
      r.command = .resolve path type choices names := by
  have outer : takeLevel outerGrammar {} (resolveLine path type texts names) =
      .ok ({}, some ("resolve", (resolveLine path type texts names).tail)) := rfl
  have outerDone : finish env {} = .ok {} := finish_of_settle named (p := {}) (q := {}) rfl
  let given : Values := { selections := choices, stubs := names }
  obtain ⟨p, q, placed, settles, values⟩ := takeLevel_places there type (v := given) rfl
  have inner : takeLevel resolveGrammar {} (resolveLine path type texts names).tail =
      .ok (p, none) := by
    rw [resolveLine, List.tail_cons, takeLevel_attached rfl rfl (by decide) texts rfl rfl,
      settleAll_select select]
    show takeLevel resolveGrammar { values := { selections := choices } } _ = _
    rw [takeLevel_attached rfl rfl (by decide) names rfl rfl, settleAll_stubs]
    exact placed
  have innerDone : finish env p = .ok { given with places := [path, type] } := by
    rw [finish_of_settle named settles, values]
  refine ⟨request env {} { given with places := [path, type] } (.resolve path type choices names),
    ?_, rfl⟩
  rw [parse, outer]
  show (takeLevel resolveGrammar {} _).bind _ = _
  rw [inner]
  show (finish env p).bind _ = _
  rw [innerDone]
  show (finish env {}).bind _ = _
  rw [outerDone]
  rfl

/-- A command line with a text that does not select is refused. -/
theorem parse_resolveLine_refused (env : Logging.Environment) (path type : String)
    {texts : List String} {text : String} (member : text ∈ texts)
    (selects : ∀ choice, ¬ Selects text choice) (names : List String) :
    parse env (resolveLine path type texts names) = .error .invalidValue := by
  have outer : takeLevel outerGrammar {} (resolveLine path type texts names) =
      .ok ({}, some ("resolve", (resolveLine path type texts names).tail)) := rfl
  have inner : takeLevel resolveGrammar {} (resolveLine path type texts names).tail =
      .error .invalidValue := by
    rw [resolveLine, List.tail_cons, takeLevel_attached rfl rfl (by decide) texts rfl rfl,
      settleAll_refused member selects]
    rfl
  rw [parse, outer]
  show (takeLevel resolveGrammar {} _).bind _ = _
  rw [inner]
  rfl

end DeferredBinding.CommandLine
