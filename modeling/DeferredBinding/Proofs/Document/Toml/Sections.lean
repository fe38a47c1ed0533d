/-
# Proofs.Document.Toml.Sections -- whole texts read back

A text begins with assignments and goes on with sections, each under a header that opens one
more element of the list under its key.  Line by line it is a list of `Line`s, each of which
ends in a `Break`; `Written` says which texts these may be written as.

The lines are scanned in order (`scanLines_of_writesLines`) and fall into the same sections
again (`sections_linesOf`).  Section by section the lists grow: under a key stands what all
sections of that key have given so far, in their order (`Lists`, `Holds.section`).  So the record
that a written text is read as has the members of the head, and under each other key the list of
its sections (`read_of_written`).
-/
import Mathlib.Data.List.TakeWhile
import DeferredBinding.Proofs.Document.Toml.Values

namespace DeferredBinding.Document.Toml

set_option autoImplicit false

/-! ## Lines -/

/-- The key of a list and the members of one more element of it. -/
abbrev Part := String × List (String × Node)

def linesOfPart (part : Part) : List Line :=
  .header true { key := part.1 } :: part.2.map fun m => .assignment (assignment m)

def linesOf (head : List (String × Node)) (parts : List Part) : List Line :=
  (head.map fun m => .assignment (assignment m)) ++ parts.flatMap linesOfPart

def Spaces (cs : List Char) : Prop :=
  ∀ c ∈ cs, isSpace c = true

theorem spaces_nil : Spaces [] :=
  List.forall_mem_nil _

inductive WritesLine : Line → List Char → Prop
  | assignment {m : String × Node} {key before after value : List Char}
      (named : WritesKey m.1 key) (front : Spaces before) (behind : Spaces after)
      (said : WritesValue m.2 value) :
      WritesLine (.assignment (assignment m)) (key ++ (before ++ '=' :: (after ++ value)))
  | header {name : String} {key before after : List Char} (named : WritesKey name key)
      (front : Spaces before) (behind : Spaces after) :
      WritesLine (.header true { key := name })
        ('[' :: '[' :: (before ++ (key ++ (after ++ [']', ']']))))

/-- What ends a line: blanks, perhaps a comment, an end of line, and any gap. -/
inductive Break : List Char → Prop
  | line {spaces ending gap : List Char} (blank : Spaces spaces) (ends : LineEnd ending)
      (more : Gap gap) : Break (spaces ++ (ending ++ gap))
  | comment {spaces text ending gap : List Char} (blank : Spaces spaces)
      (plain : ∀ c ∈ text, isPlain c = true) (ends : LineEnd ending) (more : Gap gap) :
      Break (spaces ++ '#' :: (text ++ (ending ++ gap)))

/-- How lines may be written; the last one may end with the text. -/
inductive WritesLines : List Line → List Char → Prop
  | nil : WritesLines [] []
  | last {line : Line} {first spaces : List Char} (head : WritesLine line first)
      (blank : Spaces spaces) : WritesLines [line] (first ++ spaces)
  | cons {line : Line} {rest : List Line} {first ending others : List Char}
      (head : WritesLine line first) (ends : Break ending) (tail : WritesLines rest others) :
      WritesLines (line :: rest) (first ++ (ending ++ others))

/-- The value that a line gives has no more brackets open than a line may have. -/
def Line.Low : Line → Prop
  | .assignment a => a.value.height ≤ maxDepth
  | .header _ _ => True

theorem gap_spaces {spaces gap : List Char} (blank : Spaces spaces) (more : Gap gap) :
    Gap (spaces ++ gap) := by
  induction spaces with
  | nil => exact more
  | cons c rest ih =>
      obtain ⟨here, later⟩ := List.forall_mem_cons.1 blank
      exact .space here (ih later)

theorem Break.gap {ending : List Char} (ends : Break ending) : Gap ending := by
  cases ends with
  | line blank ends more => exact gap_spaces blank (.line ends more)
  | comment blank plain ends more => exact gap_spaces blank (.comment plain ends more)

theorem dropWhile_spaces {spaces : List Char} (blank : Spaces spaces) (rest : List Char) :
    (spaces ++ rest).dropWhile isSpace = rest.dropWhile isSpace :=
  List.dropWhile_append_of_pos blank

theorem dropWhile_visible {c : Char} (visible : Visible c) (rest : List Char) :
    (c :: rest).dropWhile isSpace = c :: rest := by
  refine List.dropWhile_cons_of_neg fun blank => visible ?_
  obtain rfl | rfl : c = ' ' ∨ c = '\t' := by simpa [isSpace] using blank
  · decide
  · decide

theorem dropWhile_only_spaces {spaces : List Char} (blank : Spaces spaces) :
    spaces.dropWhile isSpace = [] :=
  List.dropWhile_eq_nil_iff.2 blank

theorem stops_only_spaces {spaces : List Char} (blank : Spaces spaces) : Stops spaces := by
  intro c head
  rw [dropWhile_only_spaces blank] at head
  cases head

theorem stops_spaces {spaces rest : List Char} (blank : Spaces spaces) (stops : Stops rest) :
    Stops (spaces ++ rest) := by
  rwa [Stops, dropWhile_spaces blank]

theorem endsLine_break {ending : List Char} (ends : Break ending) (rest : List Char) :
    endsLine (ending ++ rest) = true := by
  cases ends with
  | line blank ends more =>
      rw [endsLine, List.append_assoc, dropWhile_spaces blank]
      cases ends <;> rfl
  | comment blank plain ends more =>
      rw [endsLine, List.append_assoc, dropWhile_spaces blank]
      rfl

theorem endsLine_spaces {spaces : List Char} (blank : Spaces spaces) : endsLine spaces = true := by
  rw [endsLine, dropWhile_only_spaces blank]

/-- A written line begins with a character that can be seen. -/
theorem visible_of_writesLine {line : Line} {written : List Char}
    (writes : WritesLine line written) : ∃ c tail, written = c :: tail ∧ Visible c := by
  cases writes with
  | assignment named _ _ _ =>
      obtain ⟨c, tail, rfl, visible, -⟩ := opens_of_writesKey named
      exact ⟨c, _, rfl, visible⟩
  | header _ _ _ => exact ⟨'[', _, rfl, by decide⟩

theorem scanLine_assignment {m : String × Node} {key before after value rest : List Char}
    (named : WritesKey m.1 key) (front : Spaces before) (behind : Spaces after)
    (said : WritesValue m.2 value) (low : m.2.height ≤ maxDepth) (stops : Stops rest) :
    scanLine (key ++ (before ++ '=' :: (after ++ (value ++ rest)))) =
      some (.assignment (assignment m), rest) := by
  have scanned : scanAssignment passSpace (scanValue maxDepth)
      (key ++ (before ++ '=' :: (after ++ (value ++ rest)))) = some (assignment m, rest) := by
    obtain ⟨⟨c, tail, rfl, visible, -⟩, scans⟩ := readable m.2 value maxDepth said low
    refine scanAssignment_of_writesKey named ?_ ?_ ?_ (scans rest stops)
    · exact stops_spaces front (stops_cons (by decide) _)
    · rw [dropWhile_spaces front]
      rfl
    · rw [passSpace, dropWhile_spaces behind, List.cons_append, dropWhile_visible visible]
  obtain ⟨c, tail, rfl, first⟩ := head_of_writesKey named
  have noHeader : c ≠ '[' := by
    rintro rfl
    exact absurd first (by decide)
  rw [List.cons_append] at scanned ⊢
  rw [scanLine, scanned]
  · rfl
  all_goals
    intro _ opening
    exact noHeader (List.cons.inj opening).1

theorem scanLine_header {name : String} {key before after : List Char} (named : WritesKey name key)
    (front : Spaces before) (behind : Spaces after) (rest : List Char) :
    scanLine ('[' :: '[' :: (before ++ (key ++ (after ++ ']' :: ']' :: rest)))) =
      some (.header true { key := name }, rest) := by
  have path : scanPath ((before ++ (key ++ (after ++ ']' :: ']' :: rest))).dropWhile isSpace) =
      some ({ key := name }, ']' :: ']' :: rest) := by
    have keyed := scanPath_of_writesKey named
      (stops_spaces behind (@stops_cons ']' (by decide) (']' :: rest)))
    obtain ⟨c, tail, rfl, visible, -⟩ := opens_of_writesKey named
    rw [dropWhile_spaces front, List.cons_append, dropWhile_visible visible, ← List.cons_append,
      keyed, dropWhile_spaces behind]
    rfl
  rw [scanLine, scanHeader, path]
  rfl

/-- A written line is scanned, whatever stops it. -/
theorem scanLine_of_writesLine {line : Line} {written : List Char}
    (writes : WritesLine line written) (low : line.Low) {rest : List Char} (stops : Stops rest) :
    scanLine (written ++ rest) = some (line, rest) := by
  cases writes with
  | assignment named front behind said =>
      rw [List.append_assoc, List.append_assoc, List.cons_append, List.append_assoc]
      exact scanLine_assignment named front behind said low stops
  | header named front behind =>
      rw [List.cons_append, List.cons_append, List.append_assoc, List.append_assoc,
        List.append_assoc]
      exact scanLine_header named front behind rest

/-- What ends a line stops what stands in it. -/
theorem stops_break {ending : List Char} (ends : Break ending) (rest : List Char) :
    Stops (ending ++ rest) := by
  cases ends with
  | line blank ends more =>
      rw [List.append_assoc]
      refine stops_spaces blank ?_
      cases ends with
      | feed => exact stops_cons (by decide) _
      | returnFeed => exact stops_cons (by decide) _
  | comment blank plain ends more =>
      rw [List.append_assoc]
      exact stops_spaces blank (stops_cons (by decide) _)

/-- A gap has no lines. -/
theorem scanLines_gap {gap : List Char} (between : Gap gap) (fuel : Nat) :
    scanLines (fuel + 1) gap = some [] := by
  have skipped := skipBlanks_gap between []
  rw [List.append_nil] at skipped
  rw [scanLines, skipped]
  rfl

/-- A round that takes one line, behind any gap. -/
theorem scanLines_succ {line : Line} {gap first rest : List Char}
    (between : Gap gap) (head : WritesLine line first) (low : line.Low) (stops : Stops rest)
    (ends : endsLine rest = true) (fuel : Nat) :
    scanLines (fuel + 1) (gap ++ (first ++ rest)) = (scanLines fuel rest).map (line :: ·) := by
  have scanned := scanLine_of_writesLine head low stops
  obtain ⟨c, tail, rfl, visible⟩ := visible_of_writesLine head
  rw [scanLines, List.cons_append, skipBlanks_gap_visible between visible, Option.bind_some,
    ← List.cons_append, scanned]
  show (if endsLine rest then _ else none) = _
  rw [if_pos ends]

/-- Written lines are scanned in order, behind any gap. -/
theorem scanLines_of_writesLines {lines : List Line} {written : List Char}
    (writes : WritesLines lines written) (low : ∀ line ∈ lines, line.Low) {gap : List Char}
    (between : Gap gap) {fuel : Nat} (enough : (gap ++ written).length < fuel) :
    scanLines fuel (gap ++ written) = some lines := by
  induction writes generalizing gap fuel with
  | nil =>
      obtain ⟨fuel, rfl⟩ := Nat.exists_eq_succ_of_ne_zero (Nat.ne_zero_of_lt enough)
      rw [List.append_nil, scanLines_gap between]
  | @last line first spaces head blank =>
      obtain ⟨c, tail, rfl, -⟩ := visible_of_writesLine head
      simp only [List.length_append, List.length_cons] at enough
      -- a round for the line and one for what follows it
      obtain ⟨fuel, rfl⟩ := Nat.exists_eq_add_of_le (show 2 ≤ fuel by omega)
      have onward := scanLines_gap (gap_spaces blank .nil) fuel
      rw [List.append_nil] at onward
      rw [Nat.add_comm 2 fuel, scanLines_succ between head (low _ List.mem_cons_self)
        (stops_only_spaces blank) (endsLine_spaces blank), onward]
      rfl
  | @cons line rest first ending others head ends tail ih =>
      obtain ⟨fuel, rfl⟩ := Nat.exists_eq_succ_of_ne_zero (Nat.ne_zero_of_lt enough)
      obtain ⟨here, later⟩ := List.forall_mem_cons.1 low
      have onward : scanLines fuel (ending ++ others) = some rest := by
        obtain ⟨c, tail, rfl, -⟩ := visible_of_writesLine head
        simp only [List.length_append, List.length_cons] at enough
        exact ih later ends.gap (by rw [List.length_append]; omega)
      rw [scanLines_succ between head here (stops_break ends others) (endsLine_break ends others),
        onward]
      rfl

/-! ## Sections -/

def sectionOf (part : Part) : Section :=
  { repeated := true, path := { key := part.1 }, assignments := part.2.map assignment }

theorem sections_assignments (given : List (String × Node)) (rest : List Line) :
    sections ((given.map fun m => .assignment (assignment m)) ++ rest) =
      (given.map assignment ++ (sections rest).1, (sections rest).2) := by
  induction given with
  | nil => rfl
  | cons m given ih => rw [List.map_cons, List.cons_append, sections, ih]; rfl

theorem sections_parts (parts : List Part) :
    sections (parts.flatMap linesOfPart) = ([], parts.map sectionOf) := by
  induction parts with
  | nil => rfl
  | cons part rest ih =>
      rw [List.flatMap_cons, linesOfPart, List.cons_append, sections, sections_assignments, ih,
        List.append_nil]
      rfl

theorem sections_linesOf (head : List (String × Node)) (parts : List Part) :
    sections (linesOf head parts) = (head.map assignment, parts.map sectionOf) := by
  rw [linesOf, sections_assignments, sections_parts, List.append_nil]

/-! ## The record of a text -/

/-- The elements that parts add to the list under a key, in order. -/
def elements (parts : List Part) (key : String) : List Node :=
  (parts.filter fun part => part.1 == key).map fun part => .record (inOrder part.2) .closed

/-- What stands under a key so far, if anything, is the list of these elements. -/
inductive Lists : Option Item → List Node → Prop
  | nothing : Lists none []
  | tables {complete : List Node} {last : Entries} :
      Lists (some (.tables complete last)) (complete.reverse ++ [.record (members last) .closed])

/-- A section adds one element more. -/
theorem openElement_of_lists {part : Part} {entries : Entries} {nodes : List Node}
    (distinct : (part.2.map Prod.fst).Nodup) (lists : Lists (entries.lookup part.1) nodes) :
    ∃ item, (sectionOf part).openElement entries = some (Pairs.place part.1 item entries) ∧
      Lists (some item) (nodes ++ [.record (inOrder part.2) .closed]) := by
  have filled : assign (part.2.map assignment) [] =
      some (Pairs.placeAll (part.2.map entry) []) := assign_members distinct fun _ _ => rfl
  have made : inOrder part.2 = members (Pairs.placeAll (part.2.map entry) []) :=
    (members_placeAll part.2 []).symm
  generalize Pairs.placeAll (part.2.map entry) [] = table at filled made
  generalize found : entries.lookup part.1 = item at lists
  cases lists with
  | nothing =>
      refine ⟨.tables [] table, ?_, ?_⟩
      · rw [Section.openElement,
          show entries.lookup (sectionOf part).path.key = none from found]
        show (assign (part.2.map assignment) []).map _ = _
        rw [filled]
        rfl
      · rw [made]
        exact .tables
  | @tables complete last =>
      refine ⟨.tables (.record (members last) .closed :: complete) table, ?_, ?_⟩
      · rw [Section.openElement,
          show entries.lookup (sectionOf part).path.key = some (.tables complete last) from found]
        show (assign (part.2.map assignment) []).map _ = _
        rw [filled]
        rfl
      · rw [made, ← List.reverse_cons]
        exact .tables

/-- The entries that a head and some sections leave. -/
structure Holds (head : List (String × Node)) (done : List Part) (entries : Entries) : Prop where
  ordered : Pairs.Ordered entries
  given : ∀ m ∈ head, entries.lookup m.1 = some (.value m.2)
  lists : ∀ key, key ∉ head.map Prod.fst → Lists (entries.lookup key) (elements done key)

variable {head : List (String × Node)} {parts done : List Part} {part : Part} {entries : Entries}

theorem holds_head (distinct : (head.map Prod.fst).Nodup) :
    Holds head [] (Pairs.placeAll (head.map entry) []) := by
  have keys : (head.map entry).map Prod.fst = head.map Prod.fst := by
    rw [List.map_map]
    rfl
  have perm : (Pairs.placeAll (head.map entry) []).Perm (head.map entry) :=
    Pairs.placeAll_perm (keys ▸ distinct)
  have ordered := Pairs.ordered_nil.placeAll (head.map entry)
  refine ⟨ordered, fun m member => ?_, fun key absent => ?_⟩
  · refine Pairs.lookup_of_mem ordered.nodup (perm.mem_iff.2 ?_)
    exact List.mem_map_of_mem member
  · rw [Pairs.lookup_of_absent]
    · exact .nothing
    · rw [(perm.map Prod.fst).mem_iff, keys]
      exact absent

theorem elements_append (key : String) :
    elements (done ++ [part]) key =
      elements done key ++ if part.1 = key then [.record (inOrder part.2) .closed] else [] := by
  rw [elements, List.filter_append, List.map_append, elements]
  by_cases same : part.1 = key
  · rw [if_pos same, List.filter_cons_of_pos (by simpa using same)]
    rfl
  · rw [if_neg same, List.filter_cons_of_neg (by simpa using same)]
    rfl

/-- One section more. -/
theorem Holds.section (holds : Holds head done entries) (free : part.1 ∉ head.map Prod.fst)
    (distinct : (part.2.map Prod.fst).Nodup) :
    ∃ next, (sectionOf part).apply entries = some next ∧ Holds head (done ++ [part]) next := by
  obtain ⟨item, opened, lists⟩ := openElement_of_lists distinct (holds.lists part.1 free)
  refine ⟨_, opened, holds.ordered.place _ _, fun m member => ?_, fun key absent => ?_⟩
  · have different : m.1 ≠ part.1 := by
      rintro same
      exact free (same ▸ List.mem_map_of_mem member)
    rw [Pairs.lookup_place, if_neg different, holds.given m member]
  · rw [Pairs.lookup_place, elements_append]
    by_cases same : key = part.1
    · subst same
      rw [if_pos rfl, if_pos rfl]
      exact lists
    · rw [if_neg same, if_neg (Ne.symm same), List.append_nil]
      exact holds.lists key absent

/-- All sections in order. -/
theorem Holds.sections (holds : Holds head done entries)
    (good : ∀ part ∈ parts, part.1 ∉ head.map Prod.fst ∧ (part.2.map Prod.fst).Nodup) :
    ∃ last, (parts.map sectionOf).foldlM (fun root (s : Section) => s.apply root) entries =
        some last ∧ Holds head (done ++ parts) last := by
  induction parts generalizing done entries with
  | nil => exact ⟨entries, rfl, by rwa [List.append_nil]⟩
  | cons part rest ih =>
      obtain ⟨⟨free, distinct⟩, later⟩ := List.forall_mem_cons.1 good
      obtain ⟨next, applied, onward⟩ := holds.section free distinct
      obtain ⟨last, folded, ended⟩ := ih onward later
      rw [List.append_assoc] at ended
      refine ⟨last, ?_, ended⟩
      rw [List.map_cons, List.foldlM_cons, applied]
      exact folded

/-- The members of a record that a head and sections make up: those of the head, and under each
other key the list of its sections, where there are any. -/
structure Comprises (head : List (String × Node)) (parts : List Part)
    (members : List (String × Node)) : Prop where
  distinct : (members.map Prod.fst).Nodup
  given : ∀ m ∈ head, m ∈ members
  listed : ∀ key, key ∉ head.map Prod.fst → elements parts key ≠ [] →
    (key, .list (elements parts key) .closed) ∈ members
  absent : ∀ key, key ∉ head.map Prod.fst → elements parts key = [] →
    key ∉ members.map Prod.fst

theorem lookup_members (entries : Entries) (key : String) :
    (members entries).lookup key = (entries.lookup key).map Item.toNode := by
  induction entries with
  | nil => rfl
  | cons entry rest ih =>
      obtain ⟨name, current⟩ := entry
      rw [members, Pairs.lookup_cons_eq_ite, Pairs.lookup_cons_eq_ite, ih]
      split <;> rfl

theorem names_members (entries : Entries) :
    (members entries).map Prod.fst = entries.map Prod.fst := by
  induction entries with
  | nil => rfl
  | cons entry rest ih => rw [members, List.map_cons, List.map_cons, ih]

theorem Lists.toNode {found : Option Item} {nodes : List Node} (lists : Lists found nodes) :
    found.map Item.toNode = if nodes = [] then none else some (.list nodes .closed) := by
  cases lists with
  | nothing => rfl
  | tables => rw [if_neg (by simp)]; rfl

theorem Holds.comprises (holds : Holds head parts entries) :
    Comprises head parts (members entries) := by
  refine ⟨?_, fun m member => ?_, fun key other some_ => ?_, fun key other none_ => ?_⟩
  · rw [names_members]
    exact holds.ordered.nodup
  · refine Pairs.mem_of_lookup ?_
    rw [lookup_members, holds.given m member]
    rfl
  · refine Pairs.mem_of_lookup ?_
    rw [lookup_members, (holds.lists key other).toNode, if_neg some_]
  · refine Pairs.absent_of_lookup ?_
    rw [lookup_members, (holds.lists key other).toNode, if_pos none_]

theorem document_of_parts (distinct : (head.map Prod.fst).Nodup)
    (good : ∀ part ∈ parts, part.1 ∉ head.map Prod.fst ∧ (part.2.map Prod.fst).Nodup) :
    ∃ ms, document (head.map assignment) (parts.map sectionOf) = some (.record ms .closed) ∧
      Comprises head parts ms := by
  obtain ⟨last, folded, holds⟩ := (holds_head distinct).sections good
  refine ⟨members last, ?_, holds.comprises⟩
  rw [document, assign_members distinct fun _ _ => rfl, Option.bind_some, folded]
  rfl

/-! ## Texts -/

/-- A text in which a head and sections are written, behind the mark that tells the order of its
bytes or not. -/
def Written (head : List (String × Node)) (parts : List Part) (text : String) : Prop :=
  ∃ gap written, Gap gap ∧ WritesLines (linesOf head parts) written ∧
    (text.toList = gap ++ written ∨ text.toList = '\ufeff' :: (gap ++ written))

/-- No key is given twice, no section goes on with what the head gives, and no value is too
deep. -/
structure Sound (head : List (String × Node)) (parts : List Part) : Prop where
  distinct : (head.map Prod.fst).Nodup
  apart : ∀ part ∈ parts, part.1 ∉ head.map Prod.fst ∧ (part.2.map Prod.fst).Nodup
  headLow : ∀ m ∈ head, m.2.height ≤ maxDepth
  partsLow : ∀ part ∈ parts, ∀ m ∈ part.2, m.2.height ≤ maxDepth

theorem forall_linesOf {holds : Line → Prop}
    (inHead : ∀ m ∈ head, holds (.assignment (assignment m)))
    (header : ∀ key, holds (.header true { key }))
    (inParts : ∀ part ∈ parts, ∀ m ∈ part.2, holds (.assignment (assignment m))) :
    ∀ line ∈ linesOf head parts, holds line := by
  intro line member
  obtain first | later := List.mem_append.1 member
  · obtain ⟨m, inside, rfl⟩ := List.mem_map.1 first
    exact inHead m inside
  · obtain ⟨part, there, inside⟩ := List.mem_flatMap.1 later
    obtain rfl | behind := List.mem_cons.1 inside
    · exact header part.1
    · obtain ⟨m, given, rfl⟩ := List.mem_map.1 behind
      exact inParts part there m given

theorem Sound.low (sound : Sound head parts) : ∀ line ∈ linesOf head parts, line.Low :=
  forall_linesOf sound.headLow (fun _ => trivial) sound.partsLow

theorem withoutMark_cons {c : Char} (other : c ≠ '\ufeff') (rest : List Char) :
    withoutMark (c :: rest) = c :: rest := by
  rw [withoutMark]
  exact fun _ opening => other (List.cons.inj opening).1

theorem withoutMark_of_writesLine {line : Line} {first : List Char}
    (head : WritesLine line first) (rest : List Char) :
    withoutMark (first ++ rest) = first ++ rest := by
  obtain ⟨c, tail, rfl, visible⟩ := visible_of_writesLine head
  refine withoutMark_cons ?_ _
  rintro rfl
  exact absurd visible (by decide)

/-- Neither a gap nor a line begins with the mark. -/
theorem withoutMark_of_writesLines {gap written : List Char} (between : Gap gap)
    {lines : List Line} (writes : WritesLines lines written) :
    withoutMark (gap ++ written) = gap ++ written := by
  cases between with
  | nil =>
      cases writes with
      | nil => rfl
      | last head _ => exact withoutMark_of_writesLine head _
      | cons head _ _ => exact withoutMark_of_writesLine head _
  | space blank _ =>
      refine withoutMark_cons ?_ _
      rintro rfl
      exact absurd blank (by decide)
  | line ends _ =>
      cases ends with
      | feed => exact withoutMark_cons (by decide) _
      | returnFeed => exact withoutMark_cons (by decide) _
  | comment _ _ _ => exact withoutMark_cons (by decide) _

/-- **However a head and sections are written, they are read back.** -/
theorem read_of_written (sound : Sound head parts) {text : String}
    (written : Written head parts text) :
    ∃ ms, read text = some (.record ms .closed) ∧ Comprises head parts ms := by
  obtain ⟨gap, lines, between, writes, same⟩ := written
  have unmarked : withoutMark text.toList = gap ++ lines := by
    obtain plain | marked := same
    · rw [plain, withoutMark_of_writesLines between writes]
    · rw [marked]
      rfl
  have scanned : scanLines ((gap ++ lines).length + 1) (gap ++ lines) =
      some (linesOf head parts) :=
    scanLines_of_writesLines writes sound.low between (Nat.lt_succ_self _)
  obtain ⟨ms, made, comprises⟩ := document_of_parts sound.distinct sound.apart
  refine ⟨ms, ?_, comprises⟩
  rw [read, unmarked, scanned, Option.bind_some, sections_linesOf, made]

/-! ## Texts that can be written -/

theorem exists_writesLine {m : String × Node} (value : Writable m.2) :
    ∃ written, WritesLine (.assignment (assignment m)) written := by
  obtain ⟨key, named⟩ := exists_writesKey m.1
  obtain ⟨text, said⟩ := value
  exact ⟨_, .assignment named spaces_nil spaces_nil said⟩

theorem exists_writesLines {lines : List Line}
    (each : ∀ line ∈ lines, ∃ written, WritesLine line written) :
    ∃ written, WritesLines lines written := by
  induction lines with
  | nil => exact ⟨[], .nil⟩
  | cons line rest ih =>
      obtain ⟨⟨first, head⟩, later⟩ := List.forall_mem_cons.1 each
      obtain ⟨others, tail⟩ := ih later
      exact ⟨_, .cons head (@Break.line [] _ [] spaces_nil .feed .nil) tail⟩

/-- Values that can be written make up a text. -/
theorem exists_written (inHead : ∀ m ∈ head, Writable m.2)
    (inParts : ∀ part ∈ parts, ∀ m ∈ part.2, Writable m.2) : ∃ text, Written head parts text := by
  have header : ∀ key, ∃ written, WritesLine (.header true { key }) written := by
    intro key
    obtain ⟨written, named⟩ := exists_writesKey key
    exact ⟨_, .header named spaces_nil spaces_nil⟩
  obtain ⟨written, writes⟩ := @exists_writesLines (linesOf head parts) <|
    forall_linesOf (fun m member => exists_writesLine (inHead m member)) header
      fun part there m member => exists_writesLine (inParts part there m member)
  refine ⟨String.ofList written, [], written, .nil, writes, .inl ?_⟩
  rw [String.toList_ofList]
  rfl

end DeferredBinding.Document.Toml
