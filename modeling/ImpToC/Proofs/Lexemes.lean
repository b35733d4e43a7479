import Mathlib.Logic.ExistsUnique
import ImpToC.Token.Scan

/-! Longest lexemes. A lexeme is a run of digits, a word or one of the fixed symbols, and
the token it gives depends on nothing else. A text splits into lexemes with blanks around
them, where each lexeme goes on as far as the text lets it. The scanner finds this
splitting, and where there is none it reports what stands at the end of the part that
splits: a character that begins no lexeme, or a run of digits that is too large. -/
namespace ImpToC.Token

def blanks : List Char :=
  [' ', '\t', '\n', '\x0b', '\x0c', '\r', '\x1c', '\x1d', '\x1e', '\x1f']

def IsWord (word : List Char) : Prop :=
  ∃ c rest, word = c :: rest ∧ c.isAlpha ∧ ∀ d ∈ rest, d.isAlphanum

def IsDigits (digits : List Char) : Prop := digits ≠ [] ∧ ∀ c ∈ digits, c.isDigit

/-- A lexeme and its token. Reserved words and marks are spelled by a kind of token; a word
that no kind spells is a name. -/
inductive Lexeme : List Char → Token → Prop where
  | number {digits : List Char} (isDigits : IsDigits digits)
    (fits : Decimal.value digits ≤ Decimal.maxValue) :
    Lexeme digits ⟨.num, some (toString (Decimal.value digits))⟩
  | name {word : List Char} (isWord : IsWord word)
    (free : ∀ kind : Kind, kind.symbol? ≠ some (String.ofList word)) :
    Lexeme word ⟨.ident, some (String.ofList word)⟩
  | symbol {kind : Kind} {text : String} (spelled : kind.symbol? = some text) :
    Lexeme text.toList ⟨kind, none⟩

/-- The text that follows a lexeme does not continue it. -/
structure Ends (word rest : List Char) : Prop where
  digits : (∃ c ∈ word.head?, c.isDigit) → ∀ d ∈ rest.head?, ¬d.isDigit
  letters : (∃ c ∈ word.head?, c.isAlpha) → ∀ d ∈ rest.head?, ¬d.isAlphanum
  equals : word ∈ [['='], ['<'], ['>']] → rest.head? ≠ some '='

/-- A front part of the text splits into lexemes and blanks, and leaves the rest. -/
inductive Splits : List Char → List Token → List Char → Prop where
  | done {rest : List Char} : Splits rest [] rest
  | blank {c : Char} {text rest : List Char} {tokens : List Token} (isBlank : c ∈ blanks)
    (others : Splits text tokens rest) : Splits (c :: text) tokens rest
  | lexeme {word text rest : List Char} {token : Token} {tokens : List Token}
    (isLexeme : Lexeme word token) (ends : Ends word text) (others : Splits text tokens rest) :
    Splits (word ++ text) (token :: tokens) rest

/-- A character, neither blank nor the first of any lexeme; or a `!` without its `=`. -/
def IsStray (c : Char) (rest : List Char) : Prop :=
  (c ∉ blanks ∧ ∀ word token, ¬Lexeme (c :: word) token) ∨ (c = '!' ∧ rest.head? ≠ some '=')

def IsOversized (digits rest : List Char) : Prop :=
  IsDigits digits ∧ (∀ d ∈ rest.head?, ¬d.isDigit) ∧ Decimal.maxValue < Decimal.value digits

def Explains (text : List Char) : Except ScanError (List Token) → Prop
  | .ok tokens => Splits text tokens []
  | .error (.unexpectedCharacter c) =>
    ∃ tokens rest, Splits text tokens (c :: rest) ∧ IsStray c rest
  | .error (.numberOutOfRange digits) =>
    ∃ tokens rest, Splits text tokens (digits.toList ++ rest) ∧ IsOversized digits.toList rest

section Runs

variable {p : Char → Bool} {run rest : List Char}

theorem takeWhile_run (inside : ∀ c ∈ run, p c) (outside : ∀ d ∈ rest.head?, ¬p d) :
    (run ++ rest).takeWhile p = run := by
  rw [List.takeWhile_append_of_pos inside]
  cases rest with
  | nil => rw [List.takeWhile_nil, List.append_nil]
  | cons d rest => rw [List.takeWhile_cons_of_neg (outside d rfl), List.append_nil]

theorem dropWhile_run (inside : ∀ c ∈ run, p c) (outside : ∀ d ∈ rest.head?, ¬p d) :
    (run ++ rest).dropWhile p = rest := by
  rw [List.dropWhile_append_of_pos inside]
  cases rest with
  | nil => rfl
  | cons d rest => rw [List.dropWhile_cons_of_neg (outside d rfl)]

theorem exists_run (p : Char → Bool) (text : List Char) :
    ∃ run rest, text = run ++ rest ∧ (∀ c ∈ run, p c) ∧ ∀ d ∈ rest.head?, ¬p d := by
  refine ⟨text.takeWhile p, text.dropWhile p, List.takeWhile_append_dropWhile.symm,
    List.all_eq_true.1 List.all_takeWhile, fun d first => ?_⟩
  have stops := List.head?_dropWhile_not p text
  rw [first] at stops
  simp [stops]

end Runs

theorem isBlank_iff {c : Char} : isBlank c ↔ c ∈ blanks := by
  simp only [isBlank, blanks, List.mem_cons, List.not_mem_nil, or_false, Bool.or_eq_true,
    beq_iff_eq, Bool.and_eq_true, decide_eq_true_eq, Char.ext_iff, ← UInt32.toNat_inj, Char.toNat]
  simp only [Char.reduceVal, UInt32.reduceToNat]
  omega

theorem not_blank_of_isAlphanum {c : Char} (isAlphanum : c.isAlphanum) : c ∉ blanks := by
  intro blank
  simp only [blanks, List.mem_cons, List.not_mem_nil, or_false] at blank
  rcases blank with rfl | rfl | rfl | rfl | rfl | rfl | rfl | rfl | rfl | rfl <;> cases isAlphanum

theorem toNat_of_isAlpha {c : Char} (isAlpha : c.isAlpha) :
    (65 ≤ c.toNat ∧ c.toNat ≤ 90) ∨ (97 ≤ c.toNat ∧ c.toNat ≤ 122) := by
  change (decide (65 ≤ c.val ∧ c.val ≤ 90) ||
    (decide (97 ≤ c.val) && decide (c.val ≤ 122))) = true at isAlpha
  simpa [UInt32.le_iff_toNat_le] using isAlpha

theorem not_isDigit_of_isAlpha {c : Char} (isAlpha : c.isAlpha) : ¬c.isDigit := by
  have letter := toNat_of_isAlpha isAlpha
  rw [Char.isDigit_iff_toNat]
  change ¬(48 ≤ c.toNat ∧ c.toNat ≤ 57)
  omega

theorem isAlphanum_of_isAlpha {c : Char} (isAlpha : c.isAlpha) : c.isAlphanum := by
  rw [Char.isAlphanum, isAlpha, Bool.true_or]

theorem isAlphanum_of_isDigit {c : Char} (isDigit : c.isDigit) : c.isAlphanum := by
  rw [Char.isAlphanum, isDigit, Bool.or_true]

/-- The mark is read by its first character and what follows it. -/
def IsMark (mark : List Char) (kind : Kind) : Prop :=
  ∃ c tail, mark = c :: tail ∧ c ∉ blanks ∧ ¬c.isAlphanum ∧
    ∀ rest, (mark ∈ [['='], ['<'], ['>']] → rest.head? ≠ some '=') →
      ofMark c (tail ++ rest) = .ok (⟨kind, none⟩, rest)

theorem isMark_single {c : Char} {kind : Kind} (notBlank : c ∉ blanks) (notPart : ¬c.isAlphanum)
    (read : ∀ rest, ofMark c rest = .ok (⟨kind, none⟩, rest)) : IsMark [c] kind :=
  ⟨c, [], rfl, notBlank, notPart, fun rest _ => read rest⟩

theorem isMark_bare {c : Char} {kind : Kind} (notBlank : c ∉ blanks) (notPart : ¬c.isAlphanum)
    (listed : [c] ∈ [['='], ['<'], ['>']]) (last : ofMark c [] = .ok (⟨kind, none⟩, []))
    (read : ∀ d rest, d ≠ '=' → ofMark c (d :: rest) = .ok (⟨kind, none⟩, d :: rest)) :
    IsMark [c] kind := by
  refine ⟨c, [], rfl, notBlank, notPart, fun rest ends => ?_⟩
  cases rest with
  | nil => exact last
  | cons d rest =>
    refine read d rest ?_
    rintro rfl
    exact ends listed rfl

theorem ofMark_bare {d : Char} (other : d ≠ '=') (rest : List Char) :
    ofMark '=' (d :: rest) = .ok (⟨.assign, none⟩, d :: rest) ∧
      ofMark '<' (d :: rest) = .ok (⟨.rel .lt, none⟩, d :: rest) ∧
      ofMark '>' (d :: rest) = .ok (⟨.rel .gt, none⟩, d :: rest) := by
  simp [ofMark, other]

theorem isMark_double {c : Char} {kind : Kind} (notBlank : c ∉ blanks) (notPart : ¬c.isAlphanum)
    (read : ∀ rest, ofMark c ('=' :: rest) = .ok (⟨kind, none⟩, rest)) : IsMark [c, '='] kind :=
  ⟨c, ['='], rfl, notBlank, notPart, fun rest _ => read rest⟩

theorem word_or_mark {kind : Kind} {text : String} (spelled : kind.symbol? = some text) :
    (IsWord text.toList ∧ ofWord text = ⟨kind, none⟩) ∨ IsMark text.toList kind := by
  cases kind with
  | num | ident => cases spelled
  | ifWord | elseWord | whileWord | printWord | functionWord =>
    cases spelled
    exact .inl ⟨⟨_, _, rfl, by decide, List.all_eq_true.1 rfl⟩, rfl⟩
  | lparen | rparen | lbrace | rbrace | semi | comma =>
    cases spelled
    exact .inr (isMark_single (by decide) (by decide) fun _ => rfl)
  | arith op =>
    cases op <;> cases spelled <;> exact .inr (isMark_single (by decide) (by decide) fun _ => rfl)
  | assign =>
    cases spelled
    exact .inr (isMark_bare (by decide) (by decide) (by decide) rfl fun d rest other =>
      (ofMark_bare other rest).1)
  | rel op =>
    cases op with
    | eq | ne | le | ge =>
      cases spelled
      exact .inr (isMark_double (by decide) (by decide) fun _ => rfl)
    | lt =>
      cases spelled
      exact .inr (isMark_bare (by decide) (by decide) (by decide) rfl fun d rest other =>
        (ofMark_bare other rest).2.1)
    | gt =>
      cases spelled
      exact .inr (isMark_bare (by decide) (by decide) (by decide) rfl fun d rest other =>
        (ofMark_bare other rest).2.2)

theorem not_listed {c : Char} (isPart : c.isAlphanum) (tail : List Char) :
    c :: tail ∉ [['='], ['<'], ['>']] := by
  simp only [List.mem_cons, List.cons.injEq, List.not_mem_nil, or_false]
  rintro (⟨rfl, -⟩ | ⟨rfl, -⟩ | ⟨rfl, -⟩) <;> cases isPart

theorem ends_of_digits {c : Char} {tail rest : List Char} (isDigit : c.isDigit)
    (outside : ∀ d ∈ rest.head?, ¬d.isDigit) : Ends (c :: tail) rest where
  digits := fun _ => outside
  letters := fun ⟨_, first, isAlpha⟩ => by
    cases first
    exact absurd isDigit (not_isDigit_of_isAlpha isAlpha)
  equals := fun listed => absurd listed (not_listed (isAlphanum_of_isDigit isDigit) tail)

theorem ends_of_word {c : Char} {tail rest : List Char} (isAlpha : c.isAlpha)
    (outside : ∀ d ∈ rest.head?, ¬d.isAlphanum) : Ends (c :: tail) rest where
  digits := fun ⟨_, first, isDigit⟩ => by
    cases first
    exact absurd isDigit (not_isDigit_of_isAlpha isAlpha)
  letters := fun _ => outside
  equals := fun listed => absurd listed (not_listed (isAlphanum_of_isAlpha isAlpha) tail)

theorem ends_of_mark {mark rest : List Char} (start : mark.head?.any Char.isAlphanum = false)
    (equals : mark ∈ [['='], ['<'], ['>']] → rest.head? ≠ some '=') : Ends mark rest := by
  have notPart : ∀ c ∈ mark.head?, ¬c.isAlphanum := by
    intro c first
    rw [Option.mem_def.1 first] at start
    exact Bool.eq_false_iff.1 start
  exact {
    digits := fun ⟨c, first, isDigit⟩ => absurd (isAlphanum_of_isDigit isDigit) (notPart c first)
    letters := fun ⟨c, first, isAlpha⟩ => absurd (isAlphanum_of_isAlpha isAlpha) (notPart c first)
    equals }

def Takes (text : List Char) (token : Token) (left : List Char) : Prop :=
  ∃ kind symbol, token = ⟨kind, none⟩ ∧ Kind.symbol? kind = some symbol ∧
    text = symbol.toList ++ left ∧ Ends symbol.toList left

section Takes

variable {kind : Kind} {symbol : String} {token : Token} {text left : List Char}

theorem takes_of_not_listed (isToken : token = ⟨kind, none⟩) (spelled : kind.symbol? = some symbol)
    (same : text = symbol.toList ++ left) (start : symbol.toList.head?.any Char.isAlphanum = false)
    (notListed : symbol.toList ∉ [['='], ['<'], ['>']]) : Takes text token left :=
  ⟨kind, symbol, isToken, spelled, same, ends_of_mark start fun listed => absurd listed notListed⟩

theorem takes_bare (isToken : token = ⟨kind, none⟩) (spelled : kind.symbol? = some symbol)
    (same : text = symbol.toList ++ left) (start : symbol.toList.head?.any Char.isAlphanum = false)
    (noEquals : ∀ rest, left = '=' :: rest → False) : Takes text token left := by
  refine ⟨kind, symbol, isToken, spelled, same, ends_of_mark start fun _ first => ?_⟩
  obtain ⟨rest, leads⟩ := List.head?_eq_some_iff.1 first
  exact noEquals rest leads

end Takes

theorem takes_of_ofMark {c : Char} {rest left : List Char} {token : Token}
    (read : ofMark c rest = .ok (token, left)) : Takes (c :: rest) token left := by
  unfold ofMark at read
  split at read <;> cases read
  case h_2 other => exact takes_bare rfl rfl rfl rfl other
  case h_4 other => exact takes_bare rfl rfl rfl rfl other
  case h_6 other => exact takes_bare rfl rfl rfl rfl other
  all_goals exact takes_of_not_listed rfl rfl rfl rfl (by decide)

theorem keyword?_of_free {text : String} (free : ∀ kind : Kind, kind.symbol? ≠ some text) :
    Kind.keyword? text = none := by
  unfold Kind.keyword?
  split
  · exact absurd rfl (free .ifWord)
  · exact absurd rfl (free .elseWord)
  · exact absurd rfl (free .whileWord)
  · exact absurd rfl (free .printWord)
  · exact absurd rfl (free .functionWord)
  · rfl

theorem ofWord_of_free {text : String} (free : ∀ kind : Kind, kind.symbol? ≠ some text) :
    ofWord text = ⟨.ident, some text⟩ := by
  rw [ofWord, keyword?_of_free free]

theorem lexeme_ofWord {word : List Char} (isWord : IsWord word) :
    Lexeme word (ofWord (String.ofList word)) := by
  by_cases free : ∀ kind : Kind, kind.symbol? ≠ some (String.ofList word)
  · rw [ofWord_of_free free]
    exact .name isWord free
  · simp only [ne_eq, Classical.not_forall, Classical.not_not] at free
    obtain ⟨kind, spelled⟩ := free
    rcases word_or_mark spelled with ⟨-, reserved⟩ | ⟨c, tail, letters, -, notPart, -⟩
    · rw [reserved]
      exact String.toList_ofList (l := word) ▸ Lexeme.symbol spelled
    · obtain ⟨d, rest, rfl, isAlpha, -⟩ := isWord
      rw [String.toList_ofList, List.cons.injEq] at letters
      exact absurd (isAlphanum_of_isAlpha isAlpha) (letters.1 ▸ notPart)

theorem first_of_word {c : Char} {tail rest : List Char} (isAlpha : c.isAlpha)
    (inside : ∀ d ∈ tail, d.isAlphanum) (outside : ∀ d ∈ rest.head?, ¬d.isAlphanum) :
    first c (tail ++ rest) = .ok (ofWord (String.ofList (c :: tail)), rest) := by
  have parts : (tail ++ rest).takeWhile isNamePart = tail := takeWhile_run inside outside
  have left : (tail ++ rest).dropWhile isNamePart = rest := dropWhile_run inside outside
  rw [first, if_neg (not_isDigit_of_isAlpha isAlpha), if_pos (show isNameStart c from isAlpha),
    parts, left]

theorem first_of_digits {c : Char} {tail rest : List Char} (isDigits : IsDigits (c :: tail))
    (outside : ∀ d ∈ rest.head?, ¬d.isDigit) :
    first c (tail ++ rest) =
      match Decimal.canonical? (c :: tail) with
      | some text => .ok (⟨.num, some text⟩, rest)
      | none => .error (.numberOutOfRange (String.ofList (c :: tail))) := by
  have inside : ∀ d ∈ tail, d.isDigit := fun d mem => isDigits.2 d (List.mem_cons_of_mem _ mem)
  cases found : Decimal.canonical? (c :: tail) <;>
  simp only [first, if_pos (isDigits.2 c List.mem_cons_self), takeWhile_run inside outside,
    dropWhile_run inside outside, found]

theorem first_of_mark {c : Char} (notPart : ¬c.isAlphanum) (rest : List Char) :
    first c rest = ofMark c rest := by
  have notStart : ¬isNameStart c := fun isAlpha => notPart (isAlphanum_of_isAlpha isAlpha)
  rw [first, if_neg fun isDigit => notPart (isAlphanum_of_isDigit isDigit), if_neg notStart]

theorem first_of_lexeme {word rest : List Char} {token : Token} (isLexeme : Lexeme word token)
    (ends : Ends word rest) :
    ∃ c tail, word = c :: tail ∧ c ∉ blanks ∧ first c (tail ++ rest) = .ok (token, rest) := by
  cases isLexeme with
  | number isDigits fits =>
    obtain ⟨c, tail, rfl⟩ := List.exists_cons_of_ne_nil isDigits.1
    have isDigit := isDigits.2 c List.mem_cons_self
    refine ⟨c, tail, rfl, not_blank_of_isAlphanum (isAlphanum_of_isDigit isDigit), ?_⟩
    rw [first_of_digits isDigits (ends.digits ⟨c, rfl, isDigit⟩), Decimal.canonical?, if_pos fits]
  | name isWord free =>
    obtain ⟨c, tail, rfl, isAlpha, inside⟩ := isWord
    refine ⟨c, tail, rfl, not_blank_of_isAlphanum (isAlphanum_of_isAlpha isAlpha), ?_⟩
    rw [first_of_word isAlpha inside (ends.letters ⟨c, rfl, isAlpha⟩), ofWord_of_free free]
  | @symbol kind text spelled =>
    rcases word_or_mark spelled with ⟨⟨c, tail, letters, isAlpha, inside⟩, reserved⟩ |
      ⟨c, tail, mark, notBlank, notPart, read⟩
    · rw [letters] at ends ⊢
      refine ⟨c, tail, rfl, not_blank_of_isAlphanum (isAlphanum_of_isAlpha isAlpha), ?_⟩
      rw [first_of_word isAlpha inside (ends.letters ⟨c, rfl, isAlpha⟩), ← letters,
        String.ofList_toList, reserved]
    · refine ⟨c, tail, mark, notBlank, ?_⟩
      rw [first_of_mark notPart]
      exact read rest ends.equals

theorem lexeme_of_first {c : Char} {rest left : List Char} {token : Token}
    (taken : first c rest = .ok (token, left)) :
    ∃ word, c :: rest = word ++ left ∧ Lexeme word token ∧ Ends word left := by
  by_cases isDigit : c.isDigit
  · obtain ⟨tail, others, rfl, inside, outside⟩ := exists_run Char.isDigit rest
    have isDigits : IsDigits (c :: tail) := ⟨nofun, List.forall_mem_cons.2 ⟨isDigit, inside⟩⟩
    rw [first_of_digits isDigits outside, Decimal.canonical?] at taken
    by_cases fits : Decimal.value (c :: tail) ≤ Decimal.maxValue
    · rw [if_pos fits] at taken
      cases taken
      exact ⟨c :: tail, rfl, .number isDigits fits, ends_of_digits isDigit outside⟩
    · rw [if_neg fits] at taken
      cases taken
  · by_cases isAlpha : c.isAlpha
    · obtain ⟨tail, others, rfl, inside, outside⟩ := exists_run Char.isAlphanum rest
      rw [first_of_word isAlpha inside outside] at taken
      cases taken
      exact ⟨c :: tail, rfl, lexeme_ofWord ⟨c, tail, rfl, isAlpha, inside⟩,
        ends_of_word isAlpha outside⟩
    · have notPart : ¬c.isAlphanum := by simp [Char.isAlphanum, isAlpha, isDigit]
      rw [first_of_mark notPart] at taken
      obtain ⟨kind, symbol, rfl, spelled, same, ends⟩ := takes_of_ofMark taken
      exact ⟨symbol.toList, same, .symbol spelled, ends⟩

theorem ofMark_eq_error {c : Char} {rest : List Char} {fault : ScanError}
    (refused : ofMark c rest = .error fault) : fault = .unexpectedCharacter c := by
  unfold ofMark at refused
  split at refused <;> cases refused
  rfl

theorem ofMark_equals {c : Char} (listed : [c] ∈ [['='], ['<'], ['>']]) (rest : List Char) :
    ∃ taken, ofMark c rest = .ok taken := by
  simp only [List.mem_cons, List.cons.injEq, and_true, List.not_mem_nil, or_false] at listed
  cases rest with
  | nil => rcases listed with rfl | rfl | rfl <;> exact ⟨_, rfl⟩
  | cons d rest =>
    by_cases same : d = '='
    · subst same
      rcases listed with rfl | rfl | rfl <;> exact ⟨_, rfl⟩
    · have bare := ofMark_bare same rest
      rcases listed with rfl | rfl | rfl
      · exact ⟨_, bare.1⟩
      · exact ⟨_, bare.2.1⟩
      · exact ⟨_, bare.2.2⟩

/-- A character that begins a mark begins one whatever follows, unless it is `!`. -/
theorem ofMark_of_symbol {kind : Kind} {symbol : String} {c : Char} {tail : List Char}
    (spelled : kind.symbol? = some symbol) (start : symbol.toList = c :: tail)
    (notPart : ¬c.isAlphanum) (other : c ≠ '!') (rest : List Char) :
    ∃ taken, ofMark c rest = .ok taken := by
  cases kind with
  | num | ident => cases spelled
  | ifWord | elseWord | whileWord | printWord | functionWord =>
    cases spelled
    cases start
    exact absurd rfl notPart
  | lparen | rparen | lbrace | rbrace | semi | comma =>
    cases spelled
    cases start
    exact ⟨_, rfl⟩
  | arith op => cases op <;> cases spelled <;> cases start <;> exact ⟨_, rfl⟩
  | assign =>
    cases spelled
    cases start
    exact ofMark_equals (by decide) rest
  | rel op =>
    cases op with
    | ne =>
      cases spelled
      cases start
      exact absurd rfl other
    | eq | lt | le | gt | ge =>
      cases spelled
      cases start
      exact ofMark_equals (by decide) rest

theorem isStray_of_ofMark {c : Char} {rest : List Char} {fault : ScanError} (notBlank : c ∉ blanks)
    (notPart : ¬c.isAlphanum) (refused : ofMark c rest = .error fault) : IsStray c rest := by
  by_cases bang : c = '!'
  · subst bang
    refine .inr ⟨rfl, fun first => ?_⟩
    obtain ⟨left, rfl⟩ := List.head?_eq_some_iff.1 first
    cases refused
  · refine .inl ⟨notBlank, fun word token isLexeme => ?_⟩
    generalize same : c :: word = lexeme at isLexeme
    cases isLexeme with
    | number isDigits fits =>
      subst same
      exact notPart (isAlphanum_of_isDigit (isDigits.2 c List.mem_cons_self))
    | name isWord free =>
      obtain ⟨d, tail, rfl, isAlpha, -⟩ := isWord
      cases same
      exact notPart (isAlphanum_of_isAlpha isAlpha)
    | symbol spelled =>
      obtain ⟨taken, read⟩ := ofMark_of_symbol spelled same.symm notPart bang rest
      rw [read] at refused
      cases refused

theorem refused_of_first {c : Char} {rest : List Char} {fault : ScanError} (notBlank : c ∉ blanks)
    (refused : first c rest = .error fault) :
    (fault = .unexpectedCharacter c ∧ IsStray c rest) ∨
      ∃ digits left, fault = .numberOutOfRange (String.ofList digits) ∧ c :: rest = digits ++ left ∧
        IsOversized digits left := by
  by_cases isDigit : c.isDigit
  · obtain ⟨tail, others, rfl, inside, outside⟩ := exists_run Char.isDigit rest
    have isDigits : IsDigits (c :: tail) := ⟨nofun, List.forall_mem_cons.2 ⟨isDigit, inside⟩⟩
    rw [first_of_digits isDigits outside, Decimal.canonical?] at refused
    by_cases fits : Decimal.value (c :: tail) ≤ Decimal.maxValue
    · rw [if_pos fits] at refused
      cases refused
    · rw [if_neg fits] at refused
      cases refused
      exact .inr ⟨c :: tail, others, rfl, rfl, isDigits, outside, Nat.lt_of_not_le fits⟩
  · by_cases isAlpha : c.isAlpha
    · obtain ⟨tail, others, rfl, inside, outside⟩ := exists_run Char.isAlphanum rest
      rw [first_of_word isAlpha inside outside] at refused
      cases refused
    · have notPart : ¬c.isAlphanum := by simp [Char.isAlphanum, isAlpha, isDigit]
      rw [first_of_mark notPart] at refused
      exact .inl ⟨ofMark_eq_error refused, isStray_of_ofMark notBlank notPart refused⟩

theorem lexeme_digit {c : Char} (isDigit : c.isDigit) :
    Lexeme [c] ⟨.num, some (toString (Decimal.value [c]))⟩ := by
  refine .number ⟨nofun, List.forall_mem_singleton.2 isDigit⟩ ?_
  simp only [Char.isDigit, Bool.and_eq_true, decide_eq_true_eq, UInt32.le_iff_toNat_le,
    Char.reduceVal, UInt32.reduceToNat] at isDigit
  have small : c.toNat ≤ 57 := isDigit.2
  simp only [Decimal.value, Decimal.digit, Decimal.maxValue, List.foldl_cons, List.foldl_nil]
  omega

theorem first_of_isStray {c : Char} {rest : List Char} (stray : IsStray c rest) :
    c ∉ blanks ∧ first c rest = .error (.unexpectedCharacter c) := by
  rcases stray with ⟨notBlank, noLexeme⟩ | ⟨rfl, noEquals⟩
  · refine ⟨notBlank, ?_⟩
    cases answer : first c rest with
    | ok taken =>
      obtain ⟨word, same, isLexeme, ends⟩ := lexeme_of_first answer
      obtain ⟨d, tail, rfl, -⟩ := first_of_lexeme isLexeme ends
      cases same
      exact absurd isLexeme (noLexeme tail _)
    | error fault =>
      rcases refused_of_first notBlank answer with ⟨rfl, -⟩ | ⟨digits, left, -, same, isDigits, -⟩
      · rfl
      · obtain ⟨d, tail, rfl⟩ := List.exists_cons_of_ne_nil isDigits.1
        cases same
        exact absurd (lexeme_digit (isDigits.2 c List.mem_cons_self)) (noLexeme [] _)
  · refine ⟨by decide, ?_⟩
    cases rest with
    | nil => rfl
    | cons d rest =>
      have other : d ≠ '=' := fun same => noEquals (by rw [same, List.head?_cons])
      rw [first_of_mark (by decide)]
      simp [ofMark, other]

theorem scan_of_blank {c : Char} (isBlank : c ∈ blanks) (rest : List Char) :
    scan (c :: rest) = scan rest := by
  rw [scan, if_pos (isBlank_iff.2 isBlank)]

theorem scan_of_first {c : Char} {rest left : List Char} {token : Token} (notBlank : c ∉ blanks)
    (taken : first c rest = .ok (token, left)) :
    scan (c :: rest) = (scan left).map (token :: ·) := by
  rw [scan, if_neg fun blank => notBlank (isBlank_iff.1 blank)]
  split
  · rename_i fault refused
    rw [taken] at refused
    cases refused
  · rename_i same
    rw [taken] at same
    cases same
    cases scan left <;> rfl

theorem scan_of_refused {c : Char} {rest : List Char} {fault : ScanError} (notBlank : c ∉ blanks)
    (refused : first c rest = .error fault) : scan (c :: rest) = .error fault := by
  rw [scan, if_neg fun blank => notBlank (isBlank_iff.1 blank)]
  split
  · rename_i same
    rw [refused] at same
    cases same
    rfl
  · rename_i taken
    rw [refused] at taken
    cases taken

theorem scan_of_splits {text rest : List Char} {tokens : List Token}
    (splits : Splits text tokens rest) : scan text = (scan rest).map (tokens ++ ·) := by
  induction splits with
  | done => cases scan _ <;> rfl
  | blank isBlank others ih => rw [scan_of_blank isBlank, ih]
  | lexeme isLexeme ends others ih =>
    obtain ⟨c, tail, rfl, notBlank, taken⟩ := first_of_lexeme isLexeme ends
    rw [List.cons_append, scan_of_first notBlank taken, ih]
    cases scan _ <;> rfl

theorem scan_of_explains {text : List Char} {answer : Except ScanError (List Token)}
    (explains : Explains text answer) : scan text = answer := by
  match answer with
  | .ok tokens =>
    rw [scan_of_splits explains, scan]
    exact congrArg Except.ok (List.append_nil tokens)
  | .error (.unexpectedCharacter c) =>
    obtain ⟨tokens, rest, splits, stray⟩ := explains
    obtain ⟨notBlank, refused⟩ := first_of_isStray stray
    rw [scan_of_splits splits, scan_of_refused notBlank refused]
    rfl
  | .error (.numberOutOfRange digits) =>
    obtain ⟨tokens, rest, splits, isDigits, outside, large⟩ := explains
    obtain ⟨c, tail, same⟩ := List.exists_cons_of_ne_nil isDigits.1
    rw [same] at splits isDigits large
    have notBlank : c ∉ blanks :=
      not_blank_of_isAlphanum (isAlphanum_of_isDigit (isDigits.2 c List.mem_cons_self))
    have refused : first c (tail ++ rest) = .error (.numberOutOfRange digits) := by
      rw [first_of_digits isDigits outside, Decimal.canonical?, if_neg (Nat.not_le_of_lt large),
        ← same, String.ofList_toList]
    rw [scan_of_splits splits, List.cons_append, scan_of_refused notBlank refused]
    rfl

theorem Splits.trans {text middle rest : List Char} {front tokens : List Token}
    (first : Splits text front middle) (second : Splits middle tokens rest) :
    Splits text (front ++ tokens) rest := by
  induction first with
  | done => exact second
  | blank isBlank _ ih => exact .blank isBlank (ih second)
  | lexeme isLexeme ends _ ih => exact .lexeme isLexeme ends (ih second)

theorem Splits.exists_lexeme {text rest : List Char} {tokens : List Token} {token : Token}
    (splits : Splits text tokens rest) (mem : token ∈ tokens) : ∃ word, Lexeme word token := by
  induction splits with
  | done => cases mem
  | blank _ _ ih => exact ih mem
  | lexeme isLexeme _ _ ih =>
    rcases List.mem_cons.1 mem with rfl | mem
    · exact ⟨_, isLexeme⟩
    · exact ih mem

theorem explains_of_splits {text rest : List Char} {front : List Token}
    (splits : Splits text front rest) (explains : Explains rest (scan rest)) :
    Explains text (scan text) := by
  rw [scan_of_splits splits]
  match scan rest, explains with
  | .ok tokens, explains => exact splits.trans explains
  | .error (.unexpectedCharacter c), ⟨tokens, left, others, stray⟩ =>
    exact ⟨front ++ tokens, left, splits.trans others, stray⟩
  | .error (.numberOutOfRange digits), ⟨tokens, left, others, oversized⟩ =>
    exact ⟨front ++ tokens, left, splits.trans others, oversized⟩

theorem explains_scan (text : List Char) : Explains text (scan text) := by
  induction size : text.length using Nat.strongRecOn generalizing text with
  | ind length ih =>
    cases text with
    | nil =>
      rw [scan]
      exact .done
    | cons c rest =>
      rw [List.length_cons] at size
      by_cases isBlank : c ∈ blanks
      · exact explains_of_splits (.blank isBlank .done) (ih rest.length (by omega) rest rfl)
      · cases taken : first c rest with
        | ok read =>
          obtain ⟨token, left⟩ := read
          have shorter := first_length_le taken
          obtain ⟨word, same, isLexeme, ends⟩ := lexeme_of_first taken
          rw [same]
          exact explains_of_splits (.lexeme isLexeme ends .done)
            (ih left.length (by omega) left rfl)
        | error fault =>
          rw [scan_of_refused isBlank taken]
          rcases refused_of_first isBlank taken with ⟨rfl, stray⟩ | ⟨digits, left, rfl, same, large⟩
          · exact ⟨[], rest, .done, stray⟩
          · rw [← String.toList_ofList (l := digits)] at same large
            exact ⟨[], left, same ▸ .done, large⟩

/-- The scanner is maximal munch. It succeeds with exactly the tokens into whose lexemes the
text splits; it refuses a character exactly if that stands, and begins no lexeme, where a
splitting has come to; and a number exactly if its digits stand there and are too large. For
every text exactly one of these holds, and of one answer only. -/
theorem ofSource_iff_splits (source : String) :
    (∀ tokens, ofSource source = .ok tokens ↔ Splits source.toList tokens []) ∧
      (∀ c, ofSource source = .error (.unexpectedCharacter c) ↔
        ∃ tokens rest, Splits source.toList tokens (c :: rest) ∧ IsStray c rest) ∧
      (∀ digits, ofSource source = .error (.numberOutOfRange digits) ↔
        ∃ tokens rest, Splits source.toList tokens (digits.toList ++ rest) ∧
          IsOversized digits.toList rest) ∧
      ∃! answer, Explains source.toList answer := by
  have exact_answer : ∀ answer, ofSource source = answer ↔ Explains source.toList answer :=
    fun answer => ⟨fun same => same ▸ explains_scan source.toList, scan_of_explains⟩
  exact ⟨fun tokens => exact_answer _, fun c => exact_answer _, fun digits => exact_answer _,
    ofSource source, explains_scan source.toList, fun answer explains =>
      (scan_of_explains explains).symm⟩

end ImpToC.Token
