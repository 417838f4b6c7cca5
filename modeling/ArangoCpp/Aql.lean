/-
This file splits AQL texts into tokens, by the rules of the language for words, numbers, literals,
quoted names, bind parameters, comments and operators. What the tokens mean together is left out.

Two facts are stated about texts. The letters of a keyword occur in a text exactly when they occur
in one of its lexemes, which may be a literal, a comment or a longer word; so looking for them is
not the same as looking for the keyword. And a text of names, numbers, commas, dots and dashes has
the tokens that it has alone when a blank follows it, and a literal without quotes and backslashes
in it is one token.
-/

import ArangoCpp.Scanner
import ArangoCpp.Text

namespace Aql

open Scanner

/-! ### The rules -/

/-- The kinds of lexeme. `unterminated` is a literal, a quoted name or a comment without an end. -/
inductive Kind : Type where
  | blank | comment | word | number | literal | name | parameter | symbol | unterminated
  deriving DecidableEq, Repr

def newline : UInt8 := 0x0a
def singleQuote : UInt8 := 0x27
def doubleQuote : UInt8 := 0x22
def backquote : UInt8 := 0x60
def backslash : UInt8 := 0x5c

def quotes : List UInt8 := [singleQuote, doubleQuote, backquote]

def isBlank (byte : UInt8) : Bool := byte = 0x20 || byte = 0x09 || byte = newline || byte = 0x0d

def isLetter (byte : UInt8) : Bool := (0x41 ≤ byte && byte ≤ 0x5a) || (0x61 ≤ byte && byte ≤ 0x7a)

def isDigit (byte : UInt8) : Bool := 0x30 ≤ byte && byte ≤ 0x39

def isWordByte (byte : UInt8) : Bool := isLetter byte || isDigit byte || byte = 0x5f

def equals (byte found : UInt8) : Bool := found = byte

theorem equals_eq_false {byte found : UInt8} (other : found ≠ byte) : equals byte found = false :=
  decide_eq_false other

/-- One byte. -/
def mark (byte : UInt8) : Scanner UInt8 := one (equals byte)

/-- One byte of a text. -/
def oneOf (bytes : String) : Scanner UInt8 := one fun found => (text bytes).contains found

def identifier : Scanner UInt8 := both (one isLetter) (run isWordByte)

/-- A word: letters, digits and underscores, not beginning with a digit and not without a letter. A
dollar sign may stand in front. -/
def word : Scanner UInt8 :=
  either identifier (either (both (mark 0x24) identifier)
    (both (mark 0x5f) (both (run (equals 0x5f)) identifier)))

def digits : Scanner UInt8 := runs isDigit

/-- A whole number, without zeros at the front. -/
def whole : Scanner UInt8 := either (mark 0x30) digits

def fraction : Scanner UInt8 := both (mark 0x2e) digits

def exponent : Scanner UInt8 := both (oneOf "eE") (both (perhaps (oneOf "+-")) digits)

def number : Scanner UInt8 :=
  either (both (mark 0x30) (both (oneOf "bB") (runs fun byte => (text "01").contains byte)))
    (either (both (mark 0x30) (both (oneOf "xX")
        (runs fun byte => (text "0123456789abcdefABCDEF").contains byte)))
      (either (both whole (both (perhaps fraction) (perhaps exponent)))
        (both fraction (perhaps exponent))))

/-- A bind parameter, or with two signs a bind parameter for a collection. -/
def parameter : Scanner UInt8 :=
  both (mark 0x40) (both (perhaps (mark 0x40)) (both (run (equals 0x5f))
    (both (one fun byte => isLetter byte || isDigit byte) (run isWordByte))))

/-- Everything up to the next such quote that does not stand behind a backslash. -/
def quoted (quote : UInt8) : Scanner UInt8 := both (mark quote) (through (some backslash) [quote])

/-- The quote of two bytes that may stand around names. -/
def tick (rest : Scanner UInt8) : Scanner UInt8 := both (mark 0xc2) (both (mark 0xb4) rest)

def pair (first second : UInt8) : Scanner UInt8 := both (mark first) (mark second)

/-- The operators of two bytes. -/
def operators : List (UInt8 × UInt8) :=
  [(0x3d, 0x7e), (0x21, 0x7e), (0x3d, 0x3d), (0x21, 0x3d), (0x3e, 0x3d), (0x3c, 0x3d),
    (0x26, 0x26), (0x7c, 0x7c), (0x3a, 0x3a), (0x2e, 0x2e)]

def rules : List (Kind × Scanner UInt8) :=
  [(.blank, one isBlank),
    (.word, word),
    (.number, number),
    (.literal, quoted singleQuote),
    (.literal, quoted doubleQuote),
    (.name, quoted backquote),
    (.name, tick (through (some backslash) [0xc2, 0xb4])),
    (.comment, both (mark 0x2f) (both (mark 0x2f) (run fun byte => !equals newline byte))),
    (.comment, both (mark 0x2f) (both (mark 0x2a) (through none [0x2a, 0x2f]))),
    (.unterminated, both (mark singleQuote) everything),
    (.unterminated, both (mark doubleQuote) everything),
    (.unterminated, both (mark backquote) everything),
    (.unterminated, tick everything),
    (.unterminated, both (mark 0x2f) (both (mark 0x2a) everything)),
    (.parameter, parameter)] ++
  operators.map fun operator => (.symbol, pair operator.1 operator.2)

/-- What is shown of the scanners that the rules are made of holds of the rules. -/
theorem forall_rules {property : Scanner UInt8 → Prop} (blank : property (one isBlank))
    (word : property word) (number : property number)
    (quoted : ∀ quote ∈ quotes, property (quoted quote))
    (tick : property (tick (through (some backslash) [0xc2, 0xb4])))
    (line : property (both (mark 0x2f)
      (both (mark 0x2f) (run fun byte => !equals newline byte))))
    (block : property (both (mark 0x2f) (both (mark 0x2a) (through none [0x2a, 0x2f]))))
    (openQuote : ∀ quote ∈ quotes, property (both (mark quote) everything))
    (openTick : property (Aql.tick everything))
    (openBlock : property (both (mark 0x2f) (both (mark 0x2a) everything)))
    (parameter : property parameter)
    (pair : ∀ operator ∈ operators, property (pair operator.1 operator.2)) :
    ∀ rule ∈ rules, property rule.2 := by
  intro rule member
  rcases List.mem_append.mp member with listed | listed
  · simp only [List.mem_cons, List.not_mem_nil, or_false] at listed
    rcases listed with rfl | rfl | rfl | rfl | rfl | rfl | rfl | rfl | rfl | rfl | rfl | rfl |
      rfl | rfl | rfl
    · exact blank
    · exact word
    · exact number
    · exact quoted _ (by decide)
    · exact quoted _ (by decide)
    · exact quoted _ (by decide)
    · exact tick
    · exact line
    · exact block
    · exact openQuote _ (by decide)
    · exact openQuote _ (by decide)
    · exact openQuote _ (by decide)
    · exact openTick
    · exact openBlock
    · exact parameter
  · obtain ⟨operator, known, rfl⟩ := List.mem_map.mp listed
    exact pair operator known

theorem advances_mark (byte : UInt8) : (mark byte).Advances := advances_one _

theorem bounded_oneOf (bytes : String) : (oneOf bytes).Bounded := (advances_one _).bounded

theorem advances_identifier : identifier.Advances := (advances_one _).both (bounded_run _)

theorem advances_fraction : fraction.Advances := (advances_mark _).both (advances_runs _).bounded

theorem bounded_exponent : exponent.Bounded :=
  (bounded_oneOf _).both ((bounded_oneOf _).perhaps.both (advances_runs _).bounded)

theorem advances_rules : ∀ rule ∈ rules, rule.2.Advances := by
  have based : ∀ (letters : String) (wanted : UInt8 → Bool),
      (both (mark 0x30) (both (oneOf letters) (runs wanted))).Advances := fun _ _ =>
    (advances_mark _).both ((bounded_oneOf _).both (advances_runs _).bounded)
  have decimal : (both whole (both (perhaps fraction) (perhaps exponent))).Advances :=
    ((advances_mark _).either (advances_runs _)).both
      (advances_fraction.bounded.perhaps.both bounded_exponent.perhaps)
  refine forall_rules (advances_one _) ?_ ?_ ?_ ?_ ?_ ?_ ?_ ?_ ?_ ?_ ?_
  · exact advances_identifier.either (((advances_mark _).both advances_identifier.bounded).either
      ((advances_mark _).both ((bounded_run _).both advances_identifier.bounded)))
  · exact (based _ _).either ((based _ _).either
      (decimal.either (advances_fraction.both bounded_exponent.perhaps)))
  · exact fun _ _ => (advances_mark _).both (bounded_through _ _)
  · exact (advances_mark _).both ((advances_mark _).bounded.both (bounded_through _ _))
  · exact (advances_mark _).both ((advances_mark _).bounded.both (bounded_run _))
  · exact (advances_mark _).both ((advances_mark _).bounded.both (bounded_through _ _))
  · exact fun _ _ => (advances_mark _).both bounded_everything
  · exact (advances_mark _).both ((advances_mark _).bounded.both bounded_everything)
  · exact (advances_mark _).both ((advances_mark _).bounded.both bounded_everything)
  · exact (advances_mark _).both ((advances_mark _).bounded.perhaps.both
      ((bounded_run _).both ((advances_one _).bounded.both (bounded_run _))))
  · exact fun _ _ => (advances_mark _).both (advances_mark _).bounded

/-- The lexer of AQL. What no rule matches is a symbol of one byte. -/
def lexicon : Lexicon Kind UInt8 := ⟨rules, .symbol, advances_rules⟩

/-- The lexemes of a text. -/
def lexemes (source : Bytes) : List (Lexeme Kind UInt8) := lexicon.lexemes source

/-- The tokens of a text: the lexemes without the blanks and the comments. -/
def tokens (source : Bytes) : List (Lexeme Kind UInt8) :=
  (lexemes source).filter fun lexeme => lexeme.kind != .blank && lexeme.kind != .comment

/-! ### Keywords -/

def toUpper (byte : UInt8) : UInt8 := if 0x61 ≤ byte && byte ≤ 0x7a then byte - 0x20 else byte

/-- The lexeme is the keyword, in capital or small letters. -/
def IsKeyword (keyword : Bytes) (lexeme : Lexeme Kind UInt8) : Prop :=
  lexeme.kind = .word ∧ lexeme.text.map toUpper = keyword

instance (keyword : Bytes) (lexeme : Lexeme Kind UInt8) : Decidable (IsKeyword keyword lexeme) :=
  inferInstanceAs (Decidable (_ ∧ _))

/-- Words end where no byte of a word follows. -/
theorem stops_identifier : identifier.Stops fun byte => !isWordByte byte :=
  Stops.both _ (stops_run isWordByte)

theorem stops_word : word.Stops fun byte => !isWordByte byte :=
  stops_identifier.either
    ((Stops.both _ stops_identifier).either (Stops.both _ (Stops.both _ stops_identifier)))

theorem stops_parameter : parameter.Stops fun byte => !isWordByte byte :=
  Stops.both _ (Stops.both _ (Stops.both _ (Stops.both _ (stops_run isWordByte))))

/-- The keyword that ends a query. -/
def returnKeyword : Bytes := text "RETURN"

theorem avoids_number : number.Avoids 0x52 := by
  have digit : digits.Avoids 0x52 := (avoids_one (by decide)).both (avoids_run (by decide))
  have sign : ∀ byte, byte ≠ 0x52 → (mark byte).Avoids 0x52 := fun byte other =>
    avoids_one (equals_eq_false (Ne.symm other))
  have fractions : fraction.Avoids 0x52 := (sign _ (by decide)).both digit
  have exponents : exponent.Avoids 0x52 :=
    (avoids_one (by decide)).both ((avoids_one (by decide)).perhaps.both digit)
  have based : ∀ (letters : String) (wanted : UInt8 → Bool), (text letters).contains 0x52 = false →
      wanted 0x52 = false → (both (mark 0x30) (both (oneOf letters) (runs wanted))).Avoids 0x52 :=
    fun _ _ letter other => (sign _ (by decide)).both
      ((avoids_one letter).both ((avoids_one other).both (avoids_run other)))
  have wholes : whole.Avoids 0x52 := (sign _ (by decide)).either digit
  exact (based _ _ (by decide) (by decide)).either ((based _ _ (by decide) (by decide)).either
    ((wholes.both (fractions.perhaps.both exponents.perhaps)).either
      (fractions.both exponents.perhaps)))

/-- No lexeme ends in the middle of the letters of the keyword. -/
theorem whole_returnKeyword : ∀ rule ∈ rules, rule.2.Whole returnKeyword := by
  have free : ∀ byte ∈ returnKeyword, (!isWordByte byte) = false := by decide +kernel
  have same : returnKeyword = 0x52 :: text "ETURN" := rfl
  have newlineFree : ∀ byte ∈ returnKeyword, (!(!equals newline byte)) = false := by decide +kernel
  have quoteFree : ∀ quote ∈ quotes, quote ∉ returnKeyword := by decide +kernel
  have operatorFree : ∀ operator ∈ operators,
      equals operator.1 0x52 = false ∧ equals operator.2 0x52 = false := by
    simp [operators, equals]
  have openEnd : ∀ first : Scanner UInt8, (both first everything).Whole returnKeyword :=
    fun first => (Stops.both first (stops_everything fun byte => !isWordByte byte)).whole free
  have openEnds : ∀ first second : Scanner UInt8,
      (both first (both second everything)).Whole returnKeyword := fun first second =>
    (Stops.both first (Stops.both second (stops_everything fun byte => !isWordByte byte))).whole
      free
  refine forall_rules ?_ (stops_word.whole free) ?_ ?_ ?_ ?_ ?_ (fun _ _ => openEnd _)
    (openEnds _ _) (openEnds _ _) (stops_parameter.whole free) ?_
  · exact (avoids_one (by decide)).whole
  · exact avoids_number.whole
  · exact fun quote known =>
      (EndsIn.both _ (endsIn_through _ [] quote)).whole (quoteFree quote known)
  · exact (EndsIn.both _ (EndsIn.both _ (endsIn_through _ [0xc2] 0xb4))).whole (by decide)
  · exact (Stops.both _ (Stops.both _ (stops_run _))).whole newlineFree
  · exact (EndsIn.both _ (EndsIn.both _ (endsIn_through _ [0x2a] 0x2f))).whole (by decide)
  · intro operator known
    obtain ⟨first, second⟩ := operatorFree operator known
    have avoids : (pair operator.1 operator.2).Avoids 0x52 :=
      (avoids_one first).both (avoids_one second)
    exact avoids.whole

/-- The letters of the keyword occur in a text exactly when they occur in one of its lexemes. -/
theorem infix_returnKeyword_iff (source : Bytes) :
    returnKeyword <:+: source ↔ ∃ lexeme ∈ lexemes source, returnKeyword <:+: lexeme.text := by
  refine Lexicon.infix_iff_exists_lexeme (List.cons_ne_nil _ _) whole_returnKeyword ?_ source
  intro byte rest unmatched member
  have letter : ∀ byte ∈ returnKeyword, isLetter byte = true := by decide +kernel
  have missing : word (byte :: rest) = none :=
    unmatched (.word, word) (List.mem_cons_of_mem _ List.mem_cons_self)
  simp [word, either, identifier, both, one, run, letter byte member] at missing

/-! ### Texts without quotes -/

/-- The bytes of names and numbers, and those that stand between them in a list. -/
def isPlain (byte : UInt8) : Bool :=
  isWordByte byte || isBlank byte || (text ",.-").contains byte

def blanks : Bytes := [0x20, 0x09, newline, 0x0d]

section

variable {separator : UInt8}

theorem steady_mark (blank : separator ∈ blanks) {byte : UInt8} (other : byte ∉ blanks) :
    (mark byte).Steady isPlain separator := by
  refine steady_one (equals_eq_false ?_)
  rintro rfl
  exact other blank

theorem steady_runs {wanted : UInt8 → Bool} (unwanted : wanted separator = false) :
    (runs wanted).Steady isPlain separator :=
  (steady_one unwanted).both (advances_one _).bounded (steady_run unwanted)

/-- What does not begin with a plain byte. -/
theorem steady_strange (blank : separator ∈ blanks) {byte : UInt8} (strange : isPlain byte = false)
    (second : Scanner UInt8) : (both (mark byte) second).Steady isPlain separator := by
  have differs : ∀ item, isPlain item = true → equals byte item = false := by
    intro item plain
    refine equals_eq_false ?_
    rintro rfl
    rw [strange] at plain
    cases plain
  have plain : ∀ item ∈ blanks, isPlain item = true := by decide +kernel
  exact steady_both_one (differs separator (plain separator blank)) differs second

theorem steady_identifier (blank : separator ∈ blanks) :
    identifier.Steady isPlain separator := by
  have letter : ∀ byte ∈ blanks, isLetter byte = false := by decide +kernel
  have other : ∀ byte ∈ blanks, isWordByte byte = false := by decide +kernel
  exact (steady_one (letter separator blank)).both (advances_one _).bounded
    (steady_run (other separator blank))

theorem steady_word (blank : separator ∈ blanks) : word.Steady isPlain separator := by
  have underscore : ∀ byte ∈ blanks, equals 0x5f byte = false := by decide +kernel
  exact (steady_identifier blank).either ((steady_strange blank (by decide) _).either
    ((steady_mark blank (by decide)).both (advances_mark _).bounded
      ((steady_run (underscore separator blank)).both (bounded_run _) (steady_identifier blank))))

theorem steady_number (blank : separator ∈ blanks) : number.Steady isPlain separator := by
  have digit : ∀ byte ∈ blanks, isDigit byte = false := by decide +kernel
  have letters : ∀ bytes : String, (∀ byte ∈ blanks, (text bytes).contains byte = false) →
      (oneOf bytes).Steady isPlain separator := fun _ other => steady_one (other separator blank)
  have digitsSteady : digits.Steady isPlain separator := steady_runs (digit separator blank)
  have fractionSteady : fraction.Steady isPlain separator :=
    (steady_mark blank (by decide)).both (advances_mark _).bounded digitsSteady
  have exponentSteady : exponent.Steady isPlain separator :=
    (letters _ (by decide +kernel)).both (bounded_oneOf _)
      ((letters _ (by decide +kernel)).perhaps.both (bounded_oneOf _).perhaps digitsSteady)
  have based : ∀ (bytes : String) (wanted : UInt8 → Bool),
      (∀ byte ∈ blanks, (text bytes).contains byte = false) →
      (∀ byte ∈ blanks, wanted byte = false) →
        (both (mark 0x30) (both (oneOf bytes) (runs wanted))).Steady isPlain separator :=
    fun _ _ other unwanted => (steady_mark blank (by decide)).both (advances_mark _).bounded
      ((letters _ other).both (bounded_oneOf _) (steady_runs (unwanted separator blank)))
  have wholeSteady : whole.Steady isPlain separator :=
    (steady_mark blank (by decide)).either digitsSteady
  have decimal : (both whole (both (perhaps fraction) (perhaps exponent))).Steady isPlain
      separator :=
    wholeSteady.both ((advances_mark _).either (advances_runs _)).bounded
      (fractionSteady.perhaps.both advances_fraction.bounded.perhaps exponentSteady.perhaps)
  refine Steady.either ?binary (Steady.either ?hexadecimal ?decimal)
  case binary => exact based "bB" _ (by decide +kernel) (by decide +kernel)
  case hexadecimal => exact based "xX" _ (by decide +kernel) (by decide +kernel)
  case decimal =>
    exact decimal.either (fractionSteady.both advances_fraction.bounded exponentSteady.perhaps)

/-- The rules find the same in plain texts whatever stands behind a blank. -/
theorem steady_rules (blank : separator ∈ blanks) : ∀ rule ∈ rules, ∀ item front back,
    (∀ other ∈ item :: front, isPlain other) →
      rule.2 (item :: (front ++ separator :: back)) = rule.2 (item :: front) := by
  have steady : ∀ {scanner : Scanner UInt8}, scanner.Steady isPlain separator →
      ∀ item front back, (∀ other ∈ item :: front, isPlain other) →
        scanner (item :: (front ++ separator :: back)) = scanner (item :: front) :=
    fun steady item front back all => steady (item :: front) back all
  have strangeQuote : ∀ quote ∈ quotes, isPlain quote = false := by decide +kernel
  have operatorFree : ∀ operator ∈ operators, operator.1 ∉ blanks ∧ operator.2 ∉ blanks := by
    simp [operators, blanks, newline]
  let property (scanner : Scanner UInt8) : Prop := ∀ item front back,
    (∀ other ∈ item :: front, isPlain other) →
      scanner (item :: (front ++ separator :: back)) = scanner (item :: front)
  show ∀ rule ∈ rules, property rule.2
  refine forall_rules ?_ ?_ ?_ ?_ ?_ ?_ ?_ ?_ ?_ ?_ ?_ ?_
  · exact fun _ _ _ _ => rfl
  · exact steady (steady_word blank)
  · exact steady (steady_number blank)
  · exact fun quote known => steady (steady_strange blank (strangeQuote quote known) _)
  · exact steady (steady_strange blank (by decide) _)
  · exact steady (steady_strange blank (by decide) _)
  · exact steady (steady_strange blank (by decide) _)
  · exact fun quote known => steady (steady_strange blank (strangeQuote quote known) _)
  · exact steady (steady_strange blank (by decide) _)
  · exact steady (steady_strange blank (by decide) _)
  · exact steady (steady_strange blank (by decide) _)
  · intro operator known
    obtain ⟨first, second⟩ := operatorFree operator known
    exact steady ((steady_mark blank first).both (advances_mark _).bounded
      (steady_mark blank second))

/-! ### Tokens of a text -/

/-- A blank is no token. -/
theorem tokens_blank (blank : separator ∈ blanks) (back : Bytes) :
    tokens (separator :: back) = tokens back := by
  have isBlank : ∀ byte ∈ blanks, isBlank byte = true := by decide +kernel
  have scanned : lexicon.scan (separator :: back) = (.blank, 1) := by
    simp [Lexicon.scan, lexicon, rules, one, isBlank separator blank]
  rw [tokens, lexemes, Lexicon.lexemes_cons, scanned]
  rfl

/-- In front of a blank a plain text has the tokens that it has alone. -/
theorem tokens_append (blank : separator ∈ blanks) {front : Bytes}
    (plain : ∀ byte ∈ front, isPlain byte = true) (back : Bytes) :
    tokens (front ++ separator :: back) = tokens front ++ tokens back := by
  have split := @Lexicon.lexemes_append _ _ lexicon _ _ (steady_rules blank) front plain back
  rw [← tokens_blank blank back]
  unfold tokens lexemes
  rw [← List.filter_append]
  exact congrArg _ split

end

/-- The literal that stands for a text without quotes and backslashes. -/
def literal (content : Bytes) : Lexeme Kind UInt8 :=
  ⟨.literal, singleQuote :: (content ++ [singleQuote])⟩

theorem through_quote {content : Bytes} (quoteFree : singleQuote ∉ content)
    (backslashFree : backslash ∉ content) (back : Bytes) :
    through (some backslash) [singleQuote] (content ++ singleQuote :: back) =
      some (content.length + 1) := by
  unfold through
  induction content with
  | nil => simp [throughFrom]
  | cons byte rest inductionHypothesis =>
    rw [List.mem_cons, not_or] at quoteFree backslashFree
    have opens : ¬ [singleQuote] <+: byte :: (rest ++ singleQuote :: back) := by
      simpa using quoteFree.1
    have plain : decide (some backslash = some byte) = false := by simpa using backslashFree.1
    rw [List.cons_append, throughFrom, if_neg opens, plain,
      inductionHypothesis quoteFree.2 backslashFree.2]
    rfl

/-- A literal is one token. -/
theorem tokens_literal {content : Bytes} (quoteFree : singleQuote ∉ content)
    (backslashFree : backslash ∉ content) (back : Bytes) :
    tokens (singleQuote :: (content ++ singleQuote :: back)) = literal content :: tokens back := by
  have found : quoted singleQuote (singleQuote :: (content ++ singleQuote :: back)) =
      some (1 + (content.length + 1)) :=
    congrArg (Option.map (1 + ·)) (through_quote quoteFree backslashFree back)
  have scanned : lexicon.scan (singleQuote :: (content ++ singleQuote :: back)) =
      (.literal, 1 + (content.length + 1)) := by
    have noBlank : ∀ rest, one isBlank (singleQuote :: rest) = none := fun _ => rfl
    have noWord : ∀ rest, word (singleQuote :: rest) = none := fun _ => rfl
    have noNumber : ∀ rest, number (singleQuote :: rest) = none := fun _ => rfl
    simp only [Lexicon.scan, lexicon, rules, List.cons_append, List.findSome?_cons, noBlank, noWord,
      noNumber, found, Option.map_none, Option.map_some, Option.getD_some]
  have split : singleQuote :: (content ++ singleQuote :: back) =
      (singleQuote :: (content ++ [singleQuote])) ++ back := by simp
  have length : (singleQuote :: (content ++ [singleQuote])).length = 1 + (content.length + 1) := by
    simp only [List.length_cons, List.length_append, List.length_nil]
    omega
  rw [tokens, lexemes, Lexicon.lexemes_cons, scanned, split, List.take_left' length,
    List.drop_left' length]
  rfl

end Aql
