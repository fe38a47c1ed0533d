/-
# Proofs.Document.Json.Spelling -- the ways in which tokens may be written

The same tokens can be written in many ways: blanks may stand before, between and behind them,
and each character of a quoted text may stand for itself, be escaped by a letter, or be
escaped by its number, which for a character beyond the basic plane takes two units
(`WritesChar`).  `Writes` says which texts a list of tokens may be written as, and each list of
tokens that mean something may be written as one (`exists_writes`).

All of them are cut into these very tokens (`tokens_of_writes`).  A quoted text is first
scanned into pieces and these are put together: `scanned_of_writesChar` says what one written
character adds to either, whatever follows it.
-/
import DeferredBinding.Document.Json.Token

namespace DeferredBinding.Document.Json

set_option autoImplicit false

/-! ## Writing -/

def Blank (c : Char) : Prop :=
  c = ' ' ∨ c = '\t' ∨ c = '\n' ∨ c = '\r'

/-- A hexadecimal digit of value `v`, in either case. -/
def HexDigit (v : Nat) (c : Char) : Prop :=
  v < 16 ∧ (c = Nat.digitChar v ∨ c = (Nat.digitChar v).toUpper)

instance (v : Nat) (c : Char) : Decidable (HexDigit v c) :=
  inferInstanceAs (Decidable (_ ∧ _))

/-- A unit of 16 bits, written in four hexadecimal digits. -/
inductive HexUnit : Nat → List Char → Prop
  | digits {v₃ v₂ v₁ v₀ : Nat} {d₃ d₂ d₁ d₀ : Char} (h₃ : HexDigit v₃ d₃) (h₂ : HexDigit v₂ d₂)
      (h₁ : HexDigit v₁ d₁) (h₀ : HexDigit v₀ d₀) :
      HexUnit (((v₃ * 16 + v₂) * 16 + v₁) * 16 + v₀) [d₃, d₂, d₁, d₀]

/-- The letters that stand for a character after a backslash. -/
def letterEscapes : List (Char × Char) :=
  [('"', '"'), ('\\', '\\'), ('/', '/'), ('b', '\x08'), ('f', '\x0c'), ('n', '\n'), ('r', '\r'),
    ('t', '\t')]

/-- How a character may be written in a quoted text. -/
inductive WritesChar : Char → List Char → Prop
  | plain {c : Char} (noControl : ' ' ≤ c) (noMark : c ≠ '"') (noBackslash : c ≠ '\\') :
      WritesChar c [c]
  | letter {letter c : Char} (stands : (letter, c) ∈ letterEscapes) : WritesChar c ['\\', letter]
  | unit {c : Char} {digits : List Char} (written : HexUnit c.toNat digits) :
      WritesChar c ('\\' :: 'u' :: digits)
  | pair {c : Char} {high low : List Char} (beyond : 0x10000 ≤ c.toNat)
      (first : HexUnit (0xd800 + (c.toNat - 0x10000) / 0x400) high)
      (second : HexUnit (0xdc00 + (c.toNat - 0x10000) % 0x400) low) :
      WritesChar c ('\\' :: 'u' :: high ++ '\\' :: 'u' :: low)

inductive WritesChars : List Char → List Char → Prop
  | nil : WritesChars [] []
  | cons {c : Char} {rest first others : List Char} (head : WritesChar c first)
      (tail : WritesChars rest others) : WritesChars (c :: rest) (first ++ others)

inductive WritesToken : Token → List Char → Prop
  | openList : WritesToken .openList ['[']
  | closeList : WritesToken .closeList [']']
  | openRecord : WritesToken .openRecord ['\x7b']
  | closeRecord : WritesToken .closeRecord ['\x7d']
  | colon : WritesToken .colon [':']
  | comma : WritesToken .comma [',']
  | null : WritesToken .null ['n', 'u', 'l', 'l']
  | yes : WritesToken (.truth true) ['t', 'r', 'u', 'e']
  | no : WritesToken (.truth false) ['f', 'a', 'l', 's', 'e']
  | text {content : String} {written : List Char} (chars : WritesChars content.toList written) :
      WritesToken (.text (some content)) ('"' :: written ++ ['"'])

/-- How tokens may be written one after the other, with blanks around each. -/
inductive Writes : List Token → List Char → Prop
  | nil {blanks : List Char} (blank : ∀ c ∈ blanks, Blank c) : Writes [] blanks
  | cons {token : Token} {rest : List Token} {blanks first others : List Char}
      (blank : ∀ c ∈ blanks, Blank c) (head : WritesToken token first)
      (tail : Writes rest others) : Writes (token :: rest) (blanks ++ first ++ others)

def Token.Writable (token : Token) : Prop :=
  ∃ written, WritesToken token written

/-! ## What can be written -/

theorem exists_hexUnit {n : Nat} (small : n < 0x10000) : ∃ digits, HexUnit n digits := by
  have digit : ∀ {v : Nat}, v < 16 → HexDigit v (Nat.digitChar v) := fun less => ⟨less, .inl rfl⟩
  have whole : ((n / 0x1000 * 16 + n / 0x100 % 16) * 16 + n / 0x10 % 16) * 16 + n % 16 = n := by
    omega
  rw [← whole]
  exact ⟨_, .digits (digit (by omega)) (digit (by omega)) (digit (by omega)) (digit (by omega))⟩

/-- No character is a surrogate. -/
theorem toNat_bounds (c : Char) : c.toNat < 0xd800 ∨ 0xdfff < c.toNat ∧ c.toNat < 0x110000 :=
  c.valid

/-- Each character has a number, which takes one unit or two. -/
theorem exists_writesChar (c : Char) : ∃ written, WritesChar c written := by
  by_cases beyond : 0x10000 ≤ c.toNat
  · have bounds := toNat_bounds c
    obtain ⟨high, first⟩ := exists_hexUnit
      (show 0xd800 + (c.toNat - 0x10000) / 0x400 < 0x10000 by omega)
    obtain ⟨low, second⟩ := exists_hexUnit
      (show 0xdc00 + (c.toNat - 0x10000) % 0x400 < 0x10000 by omega)
    exact ⟨_, .pair beyond first second⟩
  · obtain ⟨digits, written⟩ := exists_hexUnit (Nat.lt_of_not_le beyond)
    exact ⟨_, .unit written⟩

theorem exists_writesChars (cs : List Char) : ∃ written, WritesChars cs written := by
  induction cs with
  | nil => exact ⟨[], .nil⟩
  | cons c rest ih =>
      obtain ⟨first, head⟩ := exists_writesChar c
      obtain ⟨others, tail⟩ := ih
      exact ⟨first ++ others, .cons head tail⟩

/-- A text without controls, quotation marks and backslashes may be written as it is. -/
theorem writesChars_self {cs : List Char} (plain : ∀ c ∈ cs, ' ' ≤ c ∧ c ≠ '"' ∧ c ≠ '\\') :
    WritesChars cs cs := by
  induction cs with
  | nil => exact .nil
  | cons c rest ih =>
      obtain ⟨⟨noControl, noMark, noBackslash⟩, others⟩ := List.forall_mem_cons.1 plain
      exact .cons (.plain noControl noMark noBackslash) (ih others)

theorem WritesToken.plain (content : String)
    (plain : ∀ c ∈ content.toList, ' ' ≤ c ∧ c ≠ '"' ∧ c ≠ '\\') :
    WritesToken (.text (some content)) ('"' :: content.toList ++ ['"']) :=
  .text (writesChars_self plain)

theorem writable_text (content : String) : (Token.text (some content)).Writable := by
  obtain ⟨written, chars⟩ := exists_writesChars content.toList
  exact ⟨_, .text chars⟩

/-- No blanks need stand before a token. -/
theorem Writes.next {token : Token} {rest : List Token} {first others : List Char}
    (head : WritesToken token first) (tail : Writes rest others) :
    Writes (token :: rest) (first ++ others) :=
  @Writes.cons token rest [] first others nofun head tail

theorem exists_writes {ts : List Token} (writable : ∀ t ∈ ts, t.Writable) :
    ∃ cs, Writes ts cs := by
  induction ts with
  | nil => exact ⟨[], .nil nofun⟩
  | cons t rest ih =>
      obtain ⟨⟨first, head⟩, later⟩ := List.forall_mem_cons.1 writable
      obtain ⟨others, tail⟩ := ih later
      exact ⟨first ++ others, .next head tail⟩

/-! ## Hexadecimal units -/

theorem digitValue_of_hexDigit {v : Nat} {c : Char} (digit : HexDigit v c) :
    Text.digitValue c = v := by
  obtain ⟨small, same⟩ := digit
  have both : ∀ v < 16, Text.digitValue (Nat.digitChar v) = v ∧
      Text.digitValue (Nat.digitChar v).toUpper = v := by decide
  obtain rfl | rfl := same
  · exact (both v small).1
  · exact (both v small).2

theorem unit?_of_hexUnit {n : Nat} {digits : List Char} (written : HexUnit n digits) :
    unit? digits = some n := by
  cases written with
  | digits h₃ h₂ h₁ h₀ =>
      have small : ∀ {v : Nat} {c : Char}, HexDigit v c → Text.isDigitOf 16 c = true := by
        intro v c digit
        rw [Text.isDigitOf, digitValue_of_hexDigit digit]
        exact decide_eq_true digit.1
      simp [unit?, Text.number?, Text.ofDigits, small h₃, small h₂, small h₁, small h₀,
        digitValue_of_hexDigit h₃, digitValue_of_hexDigit h₂, digitValue_of_hexDigit h₁,
        digitValue_of_hexDigit h₀]

theorem length_of_hexUnit {n : Nat} {digits : List Char} (written : HexUnit n digits) :
    digits.length = 4 := by
  cases written with
  | digits => rfl

/-! ## Quoted texts -/

theorem escape?_of_mem {letter c : Char} (stands : (letter, c) ∈ letterEscapes) :
    letter ≠ 'u' ∧ escape? letter = some c := by
  have all : ∀ pair ∈ letterEscapes, pair.1 ≠ 'u' ∧ escape? pair.1 = some pair.2 := by decide
  exact all _ stands

theorem scanPieces_plain {c : Char} (noControl : ' ' ≤ c) (noMark : c ≠ '"')
    (noBackslash : c ≠ '\\') (rest : List Char) :
    scanPieces (c :: rest) = (scanPieces rest).map (withPiece (.char c)) := by
  have passes : ¬ (decide (c = '\\') || decide (c < ' ')) = true := by
    rw [Bool.or_eq_true, decide_eq_true_eq, decide_eq_true_eq]
    exact fun excluded => excluded.elim noBackslash (Char.not_lt.2 noControl)
  rw [scanPieces, if_neg passes]
  · exact noMark
  · exact fun _ same _ => noBackslash same
  · exact fun _ _ same _ => noBackslash same

theorem scanPieces_letter {letter c : Char} (stands : (letter, c) ∈ letterEscapes)
    (rest : List Char) :
    scanPieces ('\\' :: letter :: rest) = (scanPieces rest).map (withPiece (.char c)) := by
  obtain ⟨noUnit, escapes⟩ := escape?_of_mem stands
  rw [scanPieces, escapes, Option.bind_some]
  exact noUnit

theorem scanPieces_unit {n : Nat} {digits : List Char} (written : HexUnit n digits)
    (rest : List Char) :
    scanPieces ('\\' :: 'u' :: (digits ++ rest)) =
      (scanPieces rest).map (withPiece (.unit n)) := by
  have four := length_of_hexUnit written
  rw [scanPieces, List.take_left' four, List.drop_left' four, unit?_of_hexUnit written,
    Option.bind_some]

theorem content?_unit {n : Nat} (noHigh : isHigh n = false) (noLow : isLow n = false)
    (rest : List Piece) :
    content? (.unit n :: rest) = (content? rest).map (Char.ofNat n :: ·) := by
  have single : (isHigh n || isLow n) = false := by rw [noHigh, noLow]; rfl
  match rest with
  | [] => rw [content?.eq_4 n [] nofun, single]; rfl
  | .char c :: rest => rw [content?.eq_4 n (.char c :: rest) nofun, single]; rfl
  | .unit low :: rest => rw [content?, noHigh, noLow]; rfl

theorem content?_pair {high low : Nat} (isFirst : isHigh high = true) (isSecond : isLow low = true)
    (rest : List Piece) :
    content? (.unit high :: .unit low :: rest) =
      (content? rest).map (ofSurrogates high low :: ·) := by
  rw [content?, if_pos isFirst, if_pos isSecond]

theorem content?_toNat (c : Char) (rest : List Piece) :
    content? (.unit c.toNat :: rest) = (content? rest).map (c :: ·) := by
  have bounds := toNat_bounds c
  have noHigh : isHigh c.toNat = false := by
    rw [isHigh, Bool.and_eq_false_iff, decide_eq_false_iff_not, decide_eq_false_iff_not]
    omega
  have noLow : isLow c.toNat = false := by
    rw [isLow, Bool.and_eq_false_iff, decide_eq_false_iff_not, decide_eq_false_iff_not]
    omega
  rw [content?_unit noHigh noLow, Char.ofNat_toNat]

/-- The two units of a character beyond the basic plane make it up again. -/
theorem content?_units {c : Char} (beyond : 0x10000 ≤ c.toNat) (rest : List Piece) :
    content? (.unit (0xd800 + (c.toNat - 0x10000) / 0x400) ::
        .unit (0xdc00 + (c.toNat - 0x10000) % 0x400) :: rest) =
      (content? rest).map (c :: ·) := by
  have bounds := toNat_bounds c
  have isFirst : isHigh (0xd800 + (c.toNat - 0x10000) / 0x400) = true := by
    rw [isHigh, Bool.and_eq_true, decide_eq_true_eq, decide_eq_true_eq]
    omega
  have isSecond : isLow (0xdc00 + (c.toNat - 0x10000) % 0x400) = true := by
    rw [isLow, Bool.and_eq_true, decide_eq_true_eq, decide_eq_true_eq]
    omega
  have whole : 0x10000 + (0xd800 + (c.toNat - 0x10000) / 0x400 - 0xd800) * 0x400 +
      (0xdc00 + (c.toNat - 0x10000) % 0x400 - 0xdc00) = c.toNat := by
    omega
  rw [content?_pair isFirst isSecond, ofSurrogates, whole, Char.ofNat_toNat]

/-- What one written character adds to the pieces, and these to the content. -/
theorem scanned_of_writesChar {c : Char} {written : List Char} (writes : WritesChar c written) :
    ∃ pieces : List Piece,
      (∀ rest, scanPieces (written ++ rest) =
        (scanPieces rest).map fun scanned => (pieces ++ scanned.1, scanned.2)) ∧
      ∀ others, content? (pieces ++ others) = (content? others).map (c :: ·) := by
  cases writes with
  | plain noControl noMark noBackslash =>
      exact ⟨[.char c], scanPieces_plain noControl noMark noBackslash, fun others => by
        rw [List.singleton_append, content?]⟩
  | letter stands =>
      exact ⟨[.char c], scanPieces_letter stands, fun others => by
        rw [List.singleton_append, content?]⟩
  | unit digits => exact ⟨[.unit c.toNat], scanPieces_unit digits, content?_toNat c⟩
  | pair beyond first second =>
      refine ⟨[.unit _, .unit _], fun rest => ?_, content?_units beyond⟩
      rw [List.append_assoc]
      show scanPieces ('\\' :: 'u' :: (_ ++ '\\' :: 'u' :: (_ ++ rest))) = _
      rw [scanPieces_unit first, scanPieces_unit second, Option.map_map]
      rfl

theorem scanned_of_writesChars {cs written : List Char} (writes : WritesChars cs written)
    (rest : List Char) :
    ∃ pieces, scanPieces (written ++ '"' :: rest) = some (pieces, rest) ∧
      content? pieces = some cs := by
  induction writes with
  | nil => exact ⟨[], scanPieces.eq_2 rest, rfl⟩
  | @cons c cs first others head tail ih =>
      obtain ⟨later, scanned, content⟩ := ih
      obtain ⟨pieces, scans, makesUp⟩ := scanned_of_writesChar head
      refine ⟨pieces ++ later, ?_, ?_⟩
      · rw [List.append_assoc, scans, scanned]
        rfl
      · rw [makesUp, content]
        rfl

/-! ## Tokens -/

/-- A written token is read as that token, whatever follows it. -/
theorem tokenFrom_of_writesToken {token : Token} {written : List Char}
    (writes : WritesToken token written) :
    ∃ c tail, written = c :: tail ∧ isSpace c = false ∧
      ∀ rest, tokenFrom c (tail ++ rest) = (token, rest) := by
  cases writes with
  | openList => exact ⟨_, _, rfl, rfl, fun rest => rfl⟩
  | closeList => exact ⟨_, _, rfl, rfl, fun rest => rfl⟩
  | openRecord => exact ⟨_, _, rfl, rfl, fun rest => rfl⟩
  | closeRecord => exact ⟨_, _, rfl, rfl, fun rest => rfl⟩
  | colon => exact ⟨_, _, rfl, rfl, fun rest => rfl⟩
  | comma => exact ⟨_, _, rfl, rfl, fun rest => rfl⟩
  | null => exact ⟨_, _, rfl, rfl, fun rest => rfl⟩
  | yes => exact ⟨_, _, rfl, rfl, fun rest => rfl⟩
  | no => exact ⟨_, _, rfl, rfl, fun rest => rfl⟩
  | @text content chars writes =>
      refine ⟨'"', chars ++ ['"'], rfl, rfl, fun rest => ?_⟩
      obtain ⟨pieces, scanned, makesUp⟩ := scanned_of_writesChars writes rest
      have text : scanText (chars ++ '"' :: rest) = some (some content, rest) := by
        rw [scanText, scanned, Option.map_some, makesUp, Option.map_some, String.ofList_toList]
      rw [List.append_assoc]
      show orFault ((scanText (chars ++ '"' :: rest)).map _) = _
      rw [text]
      rfl

theorem isSpace_of_blank {c : Char} (blank : Blank c) : isSpace c = true := by
  obtain rfl | rfl | rfl | rfl := blank <;> rfl

theorem tokens_of_dropWhile {cs : List Char} {c : Char} {rest : List Char}
    (begins : cs.dropWhile isSpace = c :: rest) :
    tokens cs = (tokenFrom c rest).1 :: tokens (tokenFrom c rest).2 := by
  rw [tokens]
  split
  · rename_i none
    rw [begins] at none
    cases none
  · rename_i first others same
    rw [begins] at same
    cases same
    rfl

/-- **However tokens are written, the text is cut into them.** -/
theorem tokens_of_writes {ts : List Token} {cs : List Char} (writes : Writes ts cs) :
    tokens cs = ts := by
  induction writes with
  | @nil blanks blank =>
      have none : blanks.dropWhile isSpace = [] := by
        rw [← List.append_nil blanks,
          List.dropWhile_append_of_pos fun c member => isSpace_of_blank (blank c member)]
        rfl
      rw [tokens]
      split
      · rfl
      · rename_i first others same
        rw [none] at same
        cases same
  | @cons token rest blanks first others blank head tail ih =>
      obtain ⟨c, more, rfl, noSpace, reads⟩ := tokenFrom_of_writesToken head
      have begins : (blanks ++ c :: more ++ others).dropWhile isSpace = c :: (more ++ others) := by
        rw [List.append_assoc, List.dropWhile_append_of_pos fun d member =>
          isSpace_of_blank (blank d member), List.cons_append,
          List.dropWhile_cons_of_neg (by rw [noSpace]; exact Bool.false_ne_true)]
      rw [tokens_of_dropWhile begins, reads, ih]

end DeferredBinding.Document.Json
