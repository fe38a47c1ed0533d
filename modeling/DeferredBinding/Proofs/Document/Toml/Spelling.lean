/-
# Proofs.Document.Toml.Spelling -- the ways in which texts and keys may be written

Between quotation marks each character may stand for itself, be escaped by a letter, or be
escaped by its number in two, four or eight hexadecimal digits (`WritesChar`).  A key stands
without quotation marks where its characters allow that, or is written as such a text
(`WritesKey`).  Both are scanned up to where they end (`scanText_of_writesChars`,
`scanKey_of_writesKey`), and every text can be written (`exists_writesChars`).

What stands between keys and values, a `Gap`, is passed over (`skipBlanks_gap`).  A word without
quotes would swallow blanks in front of more of it, so what may follow one has to be said:
`Stops` asks for a character that ends words, behind blanks or not.
-/
import Mathlib.Algebra.Ring.Nat
import Mathlib.Data.List.Forall2
import DeferredBinding.Document.Toml.Scalar
import DeferredBinding.Proofs.Document.Json.Spelling

namespace DeferredBinding.Document.Toml

set_option autoImplicit false

open Json (HexDigit)

/-! ## Blanks -/

inductive LineEnd : List Char → Prop
  | feed : LineEnd ['\n']
  | returnFeed : LineEnd ['\r', '\n']

/-- Blanks, ends of lines and comments. -/
inductive Gap : List Char → Prop
  | nil : Gap []
  | space {c : Char} {rest : List Char} (blank : isSpace c = true) (more : Gap rest) :
      Gap (c :: rest)
  | line {ending rest : List Char} (ends : LineEnd ending) (more : Gap rest) :
      Gap (ending ++ rest)
  | comment {text ending rest : List Char} (plain : ∀ c ∈ text, isPlain c = true)
      (ends : LineEnd ending) (more : Gap rest) : Gap ('#' :: (text ++ (ending ++ rest)))

/-- A character that no gap begins with, and no mark of the order of bytes. -/
def Visible (c : Char) : Prop :=
  c ∉ [' ', '\t', '\n', '\r', '#', '\ufeff']

instance (c : Char) : Decidable (Visible c) :=
  inferInstanceAs (Decidable (_ ∉ _))

/-- Nothing that could belong to a word follows, blanks left aside. -/
def Stops (rest : List Char) : Prop :=
  ∀ c, (rest.dropWhile isSpace).head? = some c → c ∈ wordEnds

theorem skipBlanks_lineEnd {ending : List Char} (ends : LineEnd ending) (inComment : Bool)
    (rest : List Char) : skipBlanks inComment (ending ++ rest) = skipBlanks false rest := by
  cases ends with
  | feed => rfl
  | returnFeed =>
      show skipBlanks inComment ('\n' :: rest) = _
      rfl

theorem plain_ne {c : Char} (plain : isPlain c = true) : c ≠ '\n' ∧ c ≠ '\r' := by
  constructor <;> (rintro rfl; exact absurd plain (by decide))

theorem skipBlanks_comment {text : List Char} (plain : ∀ c ∈ text, isPlain c = true)
    (rest : List Char) : skipBlanks true (text ++ rest) = skipBlanks true rest := by
  induction text with
  | nil => rfl
  | cons c text ih =>
      obtain ⟨here, later⟩ := List.forall_mem_cons.1 plain
      obtain ⟨noFeed, noReturn⟩ := plain_ne here
      rw [List.cons_append, skipBlanks, if_neg noFeed, if_neg noReturn, if_pos rfl, if_pos here]
      exact ih later

theorem isSpace_ne {c : Char} (blank : isSpace c = true) : c ≠ '\n' ∧ c ≠ '\r' := by
  constructor <;> (rintro rfl; exact absurd blank (by decide))

theorem skipBlanks_space {c : Char} (blank : isSpace c = true) (rest : List Char) :
    skipBlanks false (c :: rest) = skipBlanks false rest := by
  obtain ⟨noFeed, noReturn⟩ := isSpace_ne blank
  rw [skipBlanks, if_neg noFeed, if_neg noReturn, if_neg Bool.false_ne_true, if_pos blank]

/-- A gap is passed over. -/
theorem skipBlanks_gap {gap : List Char} (between : Gap gap) (rest : List Char) :
    skipBlanks false (gap ++ rest) = skipBlanks false rest := by
  induction between with
  | nil => rfl
  | space blank _ ih => rw [List.cons_append, skipBlanks_space blank, ih]
  | line ends _ ih => rw [List.append_assoc, skipBlanks_lineEnd ends, ih]
  | @comment text ending more plain ends _ ih =>
      rw [List.cons_append, List.append_assoc, List.append_assoc]
      show skipBlanks true (text ++ (ending ++ (more ++ rest))) = _
      rw [skipBlanks_comment plain, skipBlanks_lineEnd ends, ih]

theorem skipBlanks_visible {c : Char} (visible : Visible c) (rest : List Char) :
    skipBlanks false (c :: rest) = some (c :: rest) := by
  simp only [Visible, List.mem_cons, List.not_mem_nil, or_false, not_or] at visible
  obtain ⟨noBlank, noTab, noFeed, noReturn, noComment, -⟩ := visible
  simp [skipBlanks, isSpace, noBlank, noTab, noFeed, noReturn, noComment]

/-- A gap is passed over up to what can be seen. -/
theorem skipBlanks_gap_visible {gap : List Char} (between : Gap gap) {c : Char}
    (visible : Visible c) (rest : List Char) :
    skipBlanks false (gap ++ c :: rest) = some (c :: rest) := by
  rw [skipBlanks_gap between, skipBlanks_visible visible]

theorem skipBlanks_dropWhile (cs : List Char) :
    skipBlanks false (cs.dropWhile isSpace) = skipBlanks false cs := by
  induction cs with
  | nil => rfl
  | cons c rest ih =>
      rw [List.dropWhile_cons]
      split
      · rename_i blank
        rw [ih, skipBlanks_space blank]
      · rfl

/-! ## Where words end -/

theorem no_space_of_wordEnds {c : Char} (ends : c ∈ wordEnds) : ¬ isSpace c = true := by
  have all : wordEnds.all (fun c => !isSpace c) = true := by decide
  simpa using List.all_eq_true.1 all c ends

theorem stops_cons {c : Char} (ends : c ∈ wordEnds) (rest : List Char) : Stops (c :: rest) := by
  intro d head
  rw [List.dropWhile_cons_of_neg (no_space_of_wordEnds ends), List.head?_cons] at head
  cases head
  exact ends

theorem stops_space {c : Char} (blank : isSpace c = true) {rest : List Char} (stops : Stops rest) :
    Stops (c :: rest) := by
  rw [Stops, List.dropWhile_cons_of_pos blank]
  exact stops

/-- A gap may follow a word, since it begins with a blank or with a character that ends words. -/
theorem stops_gap {gap rest : List Char} (between : Gap gap) (stops : Stops rest) :
    Stops (gap ++ rest) := by
  induction between with
  | nil => exact stops
  | space blank _ ih => exact stops_space blank ih
  | line ends _ _ =>
      cases ends with
      | feed => exact stops_cons (by decide) _
      | returnFeed => exact stops_cons (by decide) _
  | comment _ _ _ _ => exact stops_cons (by decide) _

theorem Stops.head {c : Char} {rest : List Char} (stops : Stops (c :: rest)) :
    isSpace c = true ∨ c ∈ wordEnds := by
  cases blank : isSpace c with
  | true => exact .inl rfl
  | false =>
      refine .inr (stops c ?_)
      rw [List.dropWhile_cons_of_neg (by simp [blank])]
      rfl

theorem goesOn_of_stops {rest : List Char} (stops : Stops rest) : goesOn rest = false := by
  rw [goesOn]
  cases head : (rest.dropWhile isSpace).head? with
  | none => rfl
  | some c =>
      have ends : wordEnds.contains c = true := List.contains_iff_mem.2 (stops c head)
      show resumes c = false
      rw [resumes, ends]
      rfl

theorem Stops.tail {c : Char} {rest : List Char} (stops : Stops (c :: rest))
    (blank : isSpace c = true) : Stops rest := by
  rwa [Stops, List.dropWhile_cons_of_pos blank] at stops

/-- A word ends where what follows stops it. -/
theorem scanWord_append {word rest : List Char}
    (letters : ∀ c ∈ word, isSpace c = false ∧ c ∉ wordEnds) (stops : Stops rest) :
    scanWord false (word ++ rest) = (word, rest) := by
  induction word with
  | nil =>
      match rest with
      | [] => rfl
      | c :: rest =>
          rw [List.nil_append, scanWord]
          obtain blank | ends := stops.head
          · rw [if_pos blank, goesOn_of_stops (stops.tail blank)]
            rfl
          · rw [if_neg (no_space_of_wordEnds ends), if_pos (List.contains_iff_mem.2 ends)]
  | cons c word ih =>
      obtain ⟨⟨noSpace, noEnd⟩, later⟩ := List.forall_mem_cons.1 letters
      rw [List.cons_append, scanWord, if_neg (by simp [noSpace]),
        if_neg (fun found => noEnd (List.contains_iff_mem.1 found)), ih later]

/-! ## Texts -/

/-- The letters that stand for a character after a backslash. -/
def letterEscapes : List (Char × Char) :=
  [('"', '"'), ('\\', '\\'), ('b', '\x08'), ('e', '\x1b'), ('f', '\x0c'), ('n', '\n'),
    ('r', '\r'), ('t', '\t')]

/-- The letters that announce a number after a backslash, with how many digits it has. -/
def numberEscapes : List (Char × Nat) :=
  [('x', 2), ('u', 4), ('U', 8)]

/-- The number that has these digits. -/
def ofHexDigits (values : List Nat) : Nat :=
  values.foldl (fun n v => n * 16 + v) 0

/-- How a character may be written between quotation marks. -/
inductive WritesChar : Char → List Char → Prop
  | plain {c : Char} (plain : isPlain c = true) (noMark : c ≠ '"') (noBackslash : c ≠ '\\') :
      WritesChar c [c]
  | letter {letter c : Char} (stands : (letter, c) ∈ letterEscapes) :
      WritesChar c ['\\', letter]
  | number {letter c : Char} {values : List Nat} {digits : List Char}
      (announced : (letter, values.length) ∈ numberEscapes) (number : ofHexDigits values = c.toNat)
      (written : List.Forall₂ HexDigit values digits) : WritesChar c ('\\' :: letter :: digits)

inductive WritesChars : List Char → List Char → Prop
  | nil : WritesChars [] []
  | cons {c : Char} {rest first others : List Char} (head : WritesChar c first)
      (tail : WritesChars rest others) : WritesChars (c :: rest) (first ++ others)

/-- The lower digits of a number, so many of them. -/
def lowDigits (n : Nat) : Nat → List Nat
  | 0 => []
  | k + 1 => lowDigits (n / 16) k ++ [n % 16]

theorem length_lowDigits (n k : Nat) : (lowDigits n k).length = k := by
  induction k generalizing n with
  | zero => rfl
  | succ k ih => rw [lowDigits, List.length_append, ih, List.length_singleton]

theorem ofHexDigits_lowDigits (n k : Nat) : ofHexDigits (lowDigits n k) = n % 16 ^ k := by
  induction k generalizing n with
  | zero => exact (Nat.mod_one n).symm
  | succ k ih =>
      have last : ofHexDigits (lowDigits n (k + 1)) =
          ofHexDigits (lowDigits (n / 16) k) * 16 + n % 16 := List.foldl_append
      rw [last, ih, Nat.pow_succ', Nat.mod_mul, Nat.add_comm, Nat.mul_comm]

theorem exists_hexDigits (n k : Nat) : ∃ digits, List.Forall₂ HexDigit (lowDigits n k) digits := by
  induction k generalizing n with
  | zero => exact ⟨[], .nil⟩
  | succ k ih =>
      obtain ⟨digits, written⟩ := ih (n / 16)
      have last : HexDigit (n % 16) (Nat.digitChar (n % 16)) :=
        ⟨Nat.mod_lt n (by decide), .inl rfl⟩
      exact ⟨_, List.rel_append written (.cons last .nil)⟩

/-- Each character has a number, of which eight digits are enough. -/
theorem exists_writesChar (c : Char) : ∃ written, WritesChar c written := by
  obtain ⟨digits, written⟩ := exists_hexDigits c.toNat 8
  have low : c.toNat < 16 ^ 8 := by
    have bounds := Json.toNat_bounds c
    omega
  refine ⟨_, @WritesChar.number 'U' c (lowDigits c.toNat 8) digits ?_ ?_ written⟩
  · rw [length_lowDigits]
    decide
  · rw [ofHexDigits_lowDigits, Nat.mod_eq_of_lt low]

theorem exists_writesChars (cs : List Char) : ∃ written, WritesChars cs written := by
  induction cs with
  | nil => exact ⟨[], .nil⟩
  | cons c rest ih =>
      obtain ⟨first, head⟩ := exists_writesChar c
      obtain ⟨others, tail⟩ := ih
      exact ⟨first ++ others, .cons head tail⟩

/-- A text of plain characters may be written as it is. -/
theorem writesChars_self {cs : List Char}
    (plain : ∀ c ∈ cs, isPlain c = true ∧ c ≠ '"' ∧ c ≠ '\\') : WritesChars cs cs := by
  induction cs with
  | nil => exact .nil
  | cons c rest ih =>
      obtain ⟨⟨here, noMark, noBackslash⟩, others⟩ := List.forall_mem_cons.1 plain
      exact .cons (.plain here noMark noBackslash) (ih others)

/-! ## Texts scanned -/

section Digits

variable {values : List Nat} {digits : List Char}

theorem isDigit_of_hexDigits (written : List.Forall₂ HexDigit values digits) :
    digits.all (Text.isDigitOf 16) = true := by
  induction written with
  | nil => rfl
  | @cons v d _ _ head _ ih =>
      have digit : Text.isDigitOf 16 d = true := by
        rw [Text.isDigitOf, Json.digitValue_of_hexDigit head]
        exact decide_eq_true head.1
      rw [List.all_cons, digit, ih]
      rfl

theorem foldl_of_hexDigits (written : List.Forall₂ HexDigit values digits) (n : Nat) :
    digits.foldl (fun n d => n * 16 + Text.digitValue d) n =
      values.foldl (fun n v => n * 16 + v) n := by
  induction written generalizing n with
  | nil => rfl
  | cons head _ ih => rw [List.foldl_cons, List.foldl_cons, Json.digitValue_of_hexDigit head, ih]

theorem number?_of_hexDigits (some_ : values ≠ []) (written : List.Forall₂ HexDigit values digits) :
    Text.number? 16 digits = some (ofHexDigits values) := by
  have there : digits.isEmpty = false := by
    cases written with
    | nil => exact absurd rfl some_
    | cons _ _ => rfl
  rw [Text.number?, there, isDigit_of_hexDigits written, Text.ofDigits,
    foldl_of_hexDigits written]
  rfl

end Digits

theorem escape?_letter {letter c : Char} (stands : (letter, c) ∈ letterEscapes) :
    escapeDigits letter = 0 ∧ escape? letter [] = some c := by
  have all : ∀ pair ∈ letterEscapes,
      escapeDigits pair.1 = 0 ∧ escape? pair.1 [] = some pair.2 := by decide
  exact all _ stands

theorem escape?_number {letter c : Char} {values : List Nat} {digits : List Char}
    (announced : (letter, values.length) ∈ numberEscapes) (number : ofHexDigits values = c.toNat)
    (written : List.Forall₂ HexDigit values digits) :
    escapeDigits letter = digits.length ∧ escape? letter digits = some c := by
  have all : ∀ pair ∈ numberEscapes, escapeDigits pair.1 = pair.2 ∧ pair.2 ≠ 0 ∧
      pair.1 ∉ letterEscapes.map Prod.fst := by decide
  obtain ⟨counted, some_, noLetter⟩ := all _ announced
  have count : escapeDigits letter = digits.length := by rw [counted, written.length_eq]
  have there : values ≠ [] := List.ne_nil_of_length_pos (Nat.pos_of_ne_zero some_)
  refine ⟨count, ?_⟩
  simp only [letterEscapes, List.map_cons, List.map_nil, List.mem_cons, List.not_mem_nil, or_false,
    not_or] at noLetter
  obtain ⟨h₁, h₂, h₃, h₄, h₅, h₆, h₇, h₈⟩ := noLetter
  have valid : (ofHexDigits values).isValidChar := by
    rw [number]
    exact c.valid
  rw [escape?, if_neg h₁, if_neg h₂, if_neg h₃, if_neg h₄, if_neg h₅, if_neg h₆, if_neg h₇,
    if_neg h₈, if_pos ⟨counted ▸ some_, count.symm⟩, number?_of_hexDigits there written,
    Option.bind_some, if_pos valid, number, Char.ofNat_toNat]

theorem scanBasic_escape {letter c : Char} {digits : List Char}
    (count : escapeDigits letter = digits.length) (stands : escape? letter digits = some c)
    (rest : List Char) :
    scanBasic ('\\' :: letter :: (digits ++ rest)) = (scanBasic rest).map (withChar c) := by
  rw [scanBasic, List.take_left' count.symm, List.drop_left' count.symm, stands,
    Option.bind_some]

/-- What one written character adds to a content, whatever follows it. -/
theorem scanBasic_of_writesChar {c : Char} {written : List Char} (writes : WritesChar c written)
    (rest : List Char) :
    scanBasic (written ++ rest) = (scanBasic rest).map (withChar c) := by
  cases writes with
  | plain plain noMark noBackslash =>
      have passes : (isPlain c && c != '\\') = true := by
        rw [plain, Bool.true_and, bne_iff_ne]
        exact noBackslash
      rw [List.singleton_append, scanBasic, if_pos passes]
      · exact noMark
      · exact fun _ _ same _ => noBackslash same
  | letter stands =>
      obtain ⟨count, escapes⟩ := escape?_letter stands
      exact @scanBasic_escape _ c [] count escapes rest
  | number announced number written =>
      obtain ⟨count, escapes⟩ := escape?_number announced number written
      exact scanBasic_escape count escapes rest

/-- A written content is scanned up to its quotation mark. -/
theorem scanBasic_of_writesChars {cs written : List Char} (writes : WritesChars cs written)
    (rest : List Char) : scanBasic (written ++ '"' :: rest) = some (cs, rest) := by
  induction writes with
  | nil => rw [List.nil_append, scanBasic]
  | cons head _ ih =>
      rw [List.append_assoc, scanBasic_of_writesChar head, ih]
      rfl

theorem head_of_writesChar {c : Char} {written : List Char} (writes : WritesChar c written) :
    ∃ d tail, written = d :: tail ∧ d ≠ '"' := by
  cases writes with
  | plain _ noMark _ => exact ⟨c, [], rfl, noMark⟩
  | letter _ => exact ⟨'\\', _, rfl, by decide⟩
  | number _ _ _ => exact ⟨'\\', _, rfl, by decide⟩

/-- A written text is scanned, unless its quotation marks could be taken for three at once. -/
theorem scanText_of_writesChars {cs written : List Char} (writes : WritesChars cs written)
    {rest : List Char} (noMark : rest.head? ≠ some '"') :
    scanText ('"' :: (written ++ '"' :: rest)) = some (cs, rest) := by
  have onward := scanBasic_of_writesChars writes rest
  rw [scanText, onward]
  rintro more opening
  cases writes with
  | nil =>
      rw [List.nil_append] at opening
      obtain rfl := (List.cons.inj opening).2
      exact noMark rfl
  | cons head _ =>
      obtain ⟨d, tail, rfl, noQuote⟩ := head_of_writesChar head
      exact noQuote (List.cons.inj opening).1

/-! ## Keys -/

inductive WritesKey : String → List Char → Prop
  | bare {name : String} (some_ : name.toList ≠ []) (bare : ∀ c ∈ name.toList, isBare c = true) :
      WritesKey name name.toList
  | quoted {name : String} {written : List Char} (chars : WritesChars name.toList written) :
      WritesKey name ('"' :: (written ++ ['"']))

theorem exists_writesKey (name : String) : ∃ written, WritesKey name written := by
  obtain ⟨written, chars⟩ := exists_writesChars name.toList
  exact ⟨_, .quoted chars⟩

theorem Stops.not_bare {c : Char} {rest : List Char} (stops : Stops (c :: rest)) :
    ¬ isBare c = true := by
  obtain blank | ends := stops.head
  · obtain rfl | rfl : c = ' ' ∨ c = '\t' := by simpa [isSpace] using blank
    · decide
    · decide
  · have all : wordEnds.all (fun c => !isBare c) = true := by decide
    simpa using List.all_eq_true.1 all c ends

theorem cut_at_stop {name rest : List Char} (bare : ∀ c ∈ name, isBare c = true)
    (stops : Stops rest) :
    (name ++ rest).takeWhile isBare = name ∧ (name ++ rest).dropWhile isBare = rest := by
  rw [List.takeWhile_append_of_pos bare, List.dropWhile_append_of_pos bare]
  match rest with
  | [] => exact ⟨List.append_nil name, rfl⟩
  | c :: rest =>
      rw [List.takeWhile_cons_of_neg stops.not_bare, List.dropWhile_cons_of_neg stops.not_bare]
      exact ⟨List.append_nil name, rfl⟩

/-- A written key begins with a character of its own kind. -/
theorem head_of_writesKey {name : String} {written : List Char} (writes : WritesKey name written) :
    ∃ c tail, written = c :: tail ∧ (c = '"' ∨ isBare c = true) := by
  cases writes with
  | bare some_ bare =>
      obtain ⟨c, tail, same⟩ := List.exists_cons_of_ne_nil some_
      exact ⟨c, tail, same, .inr (bare c (by rw [same]; exact List.mem_cons_self))⟩
  | quoted _ => exact ⟨'"', _, rfl, .inl rfl⟩

/-- A written key is scanned, where something follows that stops it. -/
theorem scanKey_of_writesKey {name : String} {written rest : List Char}
    (writes : WritesKey name written) (stops : Stops rest) :
    scanKey (written ++ rest) = some (name.toList, rest) := by
  cases writes with
  | bare some_ bare =>
      obtain ⟨taken, left⟩ := cut_at_stop bare stops
      obtain ⟨c, tail, same⟩ := List.exists_cons_of_ne_nil some_
      have here : isBare c = true := bare c (by rw [same]; exact List.mem_cons_self)
      rw [same] at taken left ⊢
      rw [List.cons_append] at taken left ⊢
      rw [scanKey, taken, left]
      all_goals
        intro _ opening
        obtain rfl := (List.cons.inj opening).1
        exact absurd here (by decide)
  | quoted chars =>
      rw [List.cons_append, List.append_assoc]
      exact scanBasic_of_writesChars chars rest

end DeferredBinding.Document.Toml
