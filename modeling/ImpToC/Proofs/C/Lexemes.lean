import ImpToC.C.Prelude
import ImpToC.Proofs.Lexemes

/-! C text as lexemes. A text is cut from the front into words, numbers, string constants and
marks, each as long as it can be; blanks only keep them apart. Characters that generated code does
not need are refused, also inside string constants, so an accepted text has no comments, directives,
trigraphs or spliced lines in it, and C cuts it into the same lexemes.

Code is legible if its names are identifiers, its constants have the types that their spelling
gives them and no expression lacks brackets. The text of legible code is cut into the lexemes that
the code is written with. -/
namespace ImpToC.C

inductive Lexeme where
  | word (text : String)
  | number (text : String)
  | quoted (content : String)
  | mark (text : String)
  deriving DecidableEq, Repr

namespace Lexeme

def isWordStart (char : Char) : Bool := char.isAlpha || char == '_'

def isWordPart (char : Char) : Bool := char.isAlphanum || char == '_'

/-- What a number goes on with, whether or not that makes sense. -/
def isNumberPart (char : Char) : Bool := isWordPart char || char == '.'

/-- The printable ASCII characters that stand for themselves in a string constant. A question mark
could begin a trigraph. -/
def isTextChar (char : Char) : Bool :=
  decide (' ' ≤ char) && decide (char ≤ '~') && !(['"', '\\', '?'].contains char)

/-- Two characters that are one mark, or with which a longer mark or a comment begins. -/
def pairs : List (Char × Char) :=
  [('=', '='), ('!', '='), ('<', '='), ('>', '='), ('&', '&'), ('-', '-'), ('-', '='), ('-', '>'),
    ('+', '+'), ('+', '='), ('*', '='), ('/', '='), ('/', '/'), ('/', '*'), ('<', '<'), ('<', ':'),
    ('<', '%'), ('>', '>')]

def singles : List Char :=
  ['(', ')', '\x7b', '\x7d', ',', ';', '=', '!', '<', '>', '+', '-', '*', '/']

/-- The content of a string constant behind its first quote, and how many characters it takes with
the last one. -/
def quoted? : List Char → Option (List Char × Nat)
  | [] => none
  | '"' :: _ => some ([], 1)
  | '\\' :: 'n' :: rest =>
    match quoted? rest with
    | some (content, used) => some ('\n' :: content, used + 2)
    | none => none
  | char :: rest =>
    if isTextChar char then
      match quoted? rest with
      | some (content, used) => some (char :: content, used + 1)
      | none => none
    else none

/-- The lexeme that begins with a character, of which a blank is none, and how many of the
characters behind it belong to it. -/
def lexeme? (char : Char) (rest : List Char) : Option (Option Lexeme × Nat) :=
  if char = ' ' ∨ char = '\n' then some (none, 0)
  else if isWordStart char then
    some (some (.word (String.ofList (char :: rest.takeWhile isWordPart))),
      (rest.takeWhile isWordPart).length)
  else if char.isDigit then
    some (some (.number (String.ofList (char :: rest.takeWhile isNumberPart))),
      (rest.takeWhile isNumberPart).length)
  else if char = '"' then
    match quoted? rest with
    | some (content, used) => some (some (.quoted (String.ofList content)), used)
    | none => none
  else if pairs.any fun pair => pair.1 == char && rest.head? == some pair.2 then
    some (some (.mark (String.ofList (char :: rest.take 1))), 1)
  else if singles.contains char then some (some (.mark (String.ofList [char])), 0)
  else none

/-- Adds the lexemes of a text to those already found, of which the last comes first. The number
says how many characters to pass over, since they belong to the lexeme found before. -/
def scanInto : List Lexeme → Nat → List Char → Option (List Lexeme)
  | found, _, [] => some found.reverse
  | found, skip + 1, _ :: rest => scanInto found skip rest
  | found, 0, char :: rest =>
    match lexeme? char rest with
    | none => none
    | some (none, used) => scanInto found used rest
    | some (some lexeme, used) => scanInto (lexeme :: found) used rest

def scan (text : List Char) : Option (List Lexeme) := scanInto [] 0 text

theorem scanInto_skip (found : List Lexeme) (used rest : List Char) :
    scanInto found used.length (used ++ rest) = scanInto found 0 rest := by
  induction used with
  | nil => rfl
  | cons char used ih => exact ih

theorem scanInto_lexeme {found : List Lexeme} {char : Char} {used rest : List Char}
    {lexeme : Lexeme} (read : lexeme? char (used ++ rest) = some (some lexeme, used.length)) :
    scanInto found 0 (char :: (used ++ rest)) = scanInto (lexeme :: found) 0 rest := by
  rw [scanInto, read]
  exact scanInto_skip (lexeme :: found) used rest

theorem scanInto_spaces (found : List Lexeme) (count : Nat) (rest : List Char) :
    scanInto found 0 (List.replicate count ' ' ++ rest) = scanInto found 0 rest := by
  induction count with
  | zero => rfl
  | succ count ih => exact ih

end Lexeme

open Lexeme

/-- What stands behind a word or a number and does not go on with it. -/
def Free (rest : List Char) : Prop := ∀ char ∈ rest.head?, ¬isNumberPart char

/-- The text is cut into these lexemes, whatever stands behind it. -/
def Spells (text : String) (lexemes : List Lexeme) : Prop :=
  ∀ found rest, scanInto found 0 (text.toList ++ rest) = scanInto (lexemes.reverse ++ found) 0 rest

/-- The same of a text that ends in a word or a number. -/
def SpellsOpen (text : String) (lexemes : List Lexeme) : Prop :=
  ∀ found rest, Free rest →
    scanInto found 0 (text.toList ++ rest) = scanInto (lexemes.reverse ++ found) 0 rest

/-- The text begins with a character that ends every word and every number. -/
def breaks (text : String) : Bool := text.toList.head?.any fun char => !isNumberPart char

theorem free_of_breaks {text : String} {rest : List Char} (ends : breaks text) :
    Free (text.toList ++ rest) := by
  cases chars : text.toList with
  | nil =>
    rw [breaks, chars] at ends
    cases ends
  | cons char more =>
    rw [breaks, chars] at ends
    rintro _ ⟨⟩
    simpa using ends

section

variable {first second : String} {lexemes others : List Lexeme}

theorem Spells.toOpen (spells : Spells first lexemes) : SpellsOpen first lexemes :=
  fun found rest _ => spells found rest

theorem Spells.append (spells : Spells first lexemes) (next : Spells second others) :
    Spells (first ++ second) (lexemes ++ others) := by
  intro found rest
  rw [String.toList_append, List.append_assoc, spells, next, List.reverse_append,
    List.append_assoc]

theorem Spells.appendOpen (spells : Spells first lexemes) (next : SpellsOpen second others) :
    SpellsOpen (first ++ second) (lexemes ++ others) := by
  intro found rest free
  rw [String.toList_append, List.append_assoc, spells, next _ _ free, List.reverse_append,
    List.append_assoc]

theorem SpellsOpen.append (spells : SpellsOpen first lexemes) (next : Spells second others)
    (ends : breaks second) : Spells (first ++ second) (lexemes ++ others) := by
  intro found rest
  rw [String.toList_append, List.append_assoc, spells _ _ (free_of_breaks ends), next,
    List.reverse_append, List.append_assoc]

theorem Spells.line (spells : Spells first lexemes) (level : Nat) :
    Spells (line level first) lexemes := by
  have blank : Spells "\n" [] := fun _ _ => rfl
  have ended := spells.append blank
  rw [List.append_nil] at ended
  intro found rest
  rw [C.line, String.append_assoc, String.toList_append, String.toList_ofList, List.append_assoc,
    scanInto_spaces, ended]

theorem spellsOpen_empty : SpellsOpen "" [] := fun _ _ _ => rfl

theorem Spells.intercalate {texts : List (String × List Lexeme)}
    (all : ∀ text ∈ texts, Spells text.1 text.2) :
    Spells ("\n".intercalate (texts.map Prod.fst)) (texts.flatMap Prod.snd) := by
  induction texts with
  | nil => exact fun _ _ => rfl
  | cons text texts ih =>
    obtain ⟨here, others⟩ := List.forall_mem_cons.1 all
    cases texts with
    | nil =>
      rw [List.map_singleton, String.intercalate_singleton, List.flatMap_singleton]
      exact here
    | cons next texts =>
      have blank : Spells "\n" [] := fun _ _ => rfl
      have separated := here.append blank
      rw [List.append_nil] at separated
      rw [List.map_cons, List.map_cons, String.intercalate_cons_cons, List.flatMap_cons]
      exact separated.append (ih others)

end

def isWord (text : String) : Bool :=
  match text.toList with
  | [] => false
  | char :: more => isWordStart char && more.all isWordPart

theorem isWordPart_of_isWordStart {char : Char} (start : isWordStart char) : isWordPart char := by
  simp only [isWordStart, isWordPart, Char.isAlphanum, Bool.or_eq_true] at start ⊢
  rcases start with alpha | mark
  · exact .inl (.inl alpha)
  · exact .inr mark

theorem spells_word {text : String} (word : isWord text) : SpellsOpen text [.word text] := by
  intro found rest free
  cases chars : text.toList with
  | nil =>
    rw [isWord, chars] at word
    cases word
  | cons char more =>
    rw [isWord, chars] at word
    simp only [Bool.and_eq_true, List.all_eq_true] at word
    have behind : ∀ char ∈ rest.head?, ¬isWordPart char := fun next mem part =>
      free next mem (by rw [isNumberPart, part, Bool.true_or])
    have notBlank : ¬(char = ' ' ∨ char = '\n') := by
      rintro (rfl | rfl) <;> exact absurd word.1 (by decide)
    have read : lexeme? char (more ++ rest) = some (some (.word text), more.length) := by
      rw [lexeme?, if_neg notBlank, if_pos word.1, Token.takeWhile_run word.2 behind, ← chars,
        String.ofList_toList]
    exact scanInto_lexeme read

theorem isNumberPart_of_isDigit {char : Char} (digit : char.isDigit) : isNumberPart char := by
  simp [isNumberPart, isWordPart, Char.isAlphanum, digit]

theorem not_isWordStart_of_isDigit {char : Char} (digit : char.isDigit) : ¬isWordStart char := by
  intro start
  rcases Bool.or_eq_true_iff.1 start with alpha | mark
  · exact Token.not_isDigit_of_isAlpha alpha digit
  · rw [beq_iff_eq.1 mark] at digit
    cases digit

theorem spells_number {text : String} {char : Char} {more : List Char}
    (chars : text.toList = char :: more) (digit : char.isDigit)
    (parts : ∀ next ∈ more, isNumberPart next) : SpellsOpen text [.number text] := by
  intro found rest free
  have notBlank : ¬(char = ' ' ∨ char = '\n') := by
    rintro (rfl | rfl) <;> exact absurd digit (by decide)
  have read : lexeme? char (more ++ rest) = some (some (.number text), more.length) := by
    rw [lexeme?, if_neg notBlank, if_neg (not_isWordStart_of_isDigit digit), if_pos digit,
      Token.takeWhile_run parts free, ← chars, String.ofList_toList]
  rw [chars]
  exact scanInto_lexeme read

theorem exists_digits (value : Nat) : ∃ char more, (toString value).toList = char :: more ∧
    char.isDigit ∧ ∀ next ∈ more, next.isDigit := by
  have digits : ∀ char ∈ (toString value).toList, char.isDigit :=
    fun char mem => Decimal.isDigit_of_mem_toString mem
  have some : (toString value).toList ≠ [] := by
    rw [Nat.toString_eq_repr, Nat.toList_repr]
    exact Nat.toDigits_ne_nil
  obtain ⟨char, more, chars⟩ := List.exists_cons_of_ne_nil some
  rw [chars] at digits
  exact ⟨char, more, chars, List.forall_mem_cons.1 digits⟩

theorem spells_toString (value : Nat) : SpellsOpen (toString value) [.number (toString value)] := by
  obtain ⟨char, more, chars, first, others⟩ := exists_digits value
  exact spells_number chars first fun next mem => isNumberPart_of_isDigit (others next mem)

def isLegibleChar (char : Char) : Bool :=
  char == '\n' || isTextChar char && char != '\x7b' && char != '\x7d'

theorem escape_of_isTextChar {char : Char} (plain : isTextChar char) :
    Quoted.escape char = [char] := by
  simp only [isTextChar, Bool.and_eq_true, decide_eq_true_eq, Bool.not_eq_true',
    List.contains_eq_mem, decide_eq_false_iff_not, List.mem_cons, List.not_mem_nil, or_false,
    not_or] at plain
  obtain ⟨⟨low, high⟩, notQuote, notSlash, -⟩ := plain
  have above : 32 ≤ char.toNat := low
  have below : char.toNat ≤ 126 := high
  have other (escaped : Char) (control : escaped.toNat < 32) : char ≠ escaped := by
    rintro rfl
    omega
  have shown : Hidden.isHidden char = false := by
    rw [Hidden.isHidden, if_pos (by omega)]
    simpa using above
  rw [Quoted.escape, if_neg notQuote, if_neg notSlash, if_neg (other '\n' (by decide)),
    if_neg (other '\r' (by decide)), if_neg (other '\t' (by decide)),
    if_neg (other '\x00' (by decide)), shown]
  rfl

theorem quoted?_escape {content : List Char} (legible : ∀ char ∈ content, isLegibleChar char)
    (rest : List Char) :
    quoted? (content.flatMap Quoted.escape ++ '"' :: rest) =
      some (content, (content.flatMap Quoted.escape).length + 1) := by
  induction content with
  | nil => rfl
  | cons char content ih =>
    obtain ⟨first, others⟩ := List.forall_mem_cons.1 legible
    rw [isLegibleChar, Bool.or_eq_true, beq_iff_eq] at first
    rcases first with rfl | first
    · have escaped : Quoted.escape '\n' = ['\\', 'n'] := rfl
      rw [List.flatMap_cons, escaped, List.append_assoc, List.cons_append, List.singleton_append,
        quoted?, ih others]
      simp
    · simp only [Bool.and_eq_true] at first
      have escaped := escape_of_isTextChar first.1.1
      rw [List.flatMap_cons, escaped, List.append_assoc, List.singleton_append, quoted?, ih others,
        if_pos first.1.1]
      · simp
      · rintro rfl
        exact absurd first.1.1 (by decide)
      · rintro _ rfl
        exact absurd first.1.1 (by decide)

theorem spells_quote {content : String} (legible : content.toList.all isLegibleChar) :
    Spells (Quoted.quote content) [.quoted content] := by
  intro found rest
  have read := quoted?_escape (List.all_eq_true.1 legible) rest
  have chars : (Quoted.quote content).toList =
      '"' :: (content.toList.flatMap Quoted.escape ++ ['"']) := by
    simp [Quoted.quote]
  have found : lexeme? '"' ((content.toList.flatMap Quoted.escape ++ ['"']) ++ rest) =
      some (some (.quoted content), (content.toList.flatMap Quoted.escape ++ ['"']).length) := by
    rw [List.append_assoc, List.singleton_append, List.length_append]
    simp only [lexeme?, read, String.ofList_toList]
    rfl
  rw [chars]
  exact scanInto_lexeme found

def keywords : List String :=
  ["auto", "break", "case", "char", "const", "continue", "default", "do", "double", "else", "enum",
    "extern", "float", "for", "goto", "if", "inline", "int", "long", "register", "restrict",
    "return", "short", "signed", "sizeof", "static", "struct", "switch", "typedef", "union",
    "unsigned", "void", "volatile", "while", "_Bool", "_Complex", "_Imaginary"]

def isIdentifier (name : String) : Bool := isWord name && !keywords.contains name

/-- How loosely an expression is held together without brackets: not at all, by an operator or by
`&&`. -/
def Expr.rank : Expr → Nat
  | binary _ _ _ => 1
  | both _ _ => 2
  | _ => 0

def maxInt : Nat := 32767

mutual

def Expr.isLegible : Expr → Bool
  | literal digits => Decimal.isCanonical digits
  | int value => value ≤ maxInt
  | text content => content.toList.all isLegibleChar
  | ident name => isIdentifier name
  | call callee args => isIdentifier callee && Expr.allLegible args
  | binary _ left right => left.isLegible && right.isLegible && left.rank == 0 && right.rank == 0
  | both left right => left.isLegible && right.isLegible && left.rank ≤ 1 && right.rank ≤ 1
  | neg (int value) => value ≤ maxInt
  | neg _ => false
  | cast _ inner => inner.isLegible && inner.rank == 0
  | paren inner => inner.isLegible

def Expr.allLegible : List Expr → Bool
  | [] => true
  | expr :: exprs => expr.isLegible && Expr.allLegible exprs

end

theorem Expr.allLegible_iff {exprs : List Expr} :
    Expr.allLegible exprs ↔ ∀ expr ∈ exprs, expr.isLegible := by
  induction exprs with
  | nil => simp [Expr.allLegible]
  | cons expr exprs ih => simp [Expr.allLegible, ih]

def Ty.lexemes : Ty → List Lexeme
  | int => [.word "int"]
  | longLong => [.word "long", .word "long"]
  | unsignedLongLong => [.word "unsigned", .word "long", .word "long"]

mutual

def Expr.lexemes : Expr → List Lexeme
  | literal digits => [.number (digits ++ "LL")]
  | int value => [.number (toString value)]
  | text content => [.quoted content]
  | ident name => [.word name]
  | call callee args => [.word callee] ++ [.mark "("] ++ Expr.lexemesArgs args ++ [.mark ")"]
  | binary op left right => left.lexemes ++ [.mark (symbol op)] ++ right.lexemes
  | both left right => left.lexemes ++ [.mark "&&"] ++ right.lexemes
  | neg inner => [.mark "-"] ++ inner.lexemes
  | cast ty inner => [.mark "("] ++ ty.lexemes ++ [.mark ")"] ++ inner.lexemes
  | paren inner => [.mark "("] ++ inner.lexemes ++ [.mark ")"]

def Expr.lexemesArgs : List Expr → List Lexeme
  | [] => []
  | [arg] => arg.lexemes
  | arg :: args => arg.lexemes ++ [.mark ","] ++ Expr.lexemesArgs args

end

theorem isIdentifier_of_toList {name : String} {first second : Char} {rest : List Char}
    (chars : name.toList = first :: second :: rest) (start : isWordStart first)
    (notLetter : second.isAlpha = false) (parts : ∀ char ∈ second :: rest, isWordPart char) :
    isIdentifier name := by
  have letters : ∀ keyword ∈ keywords, keyword.toList[1]?.any Char.isAlpha := by decide
  have word : isWord name := by
    rw [isWord, chars, Bool.and_eq_true, List.all_eq_true]
    exact ⟨start, parts⟩
  have notKeyword : name ∉ keywords := by
    intro mem
    have letter := letters name mem
    rw [chars, List.getElem?_cons_succ, List.getElem?_cons_zero, Option.any_some,
      notLetter] at letter
    cases letter
  rw [isIdentifier, word, Bool.true_and]
  simpa using notKeyword

theorem isWord_of_isIdentifier {name : String} (isName : isIdentifier name) : isWord name :=
  (Bool.and_eq_true_iff.1 isName).1

theorem spells_identifier {name : String} (isName : isIdentifier name) :
    SpellsOpen name [.word name] :=
  spells_word (isWord_of_isIdentifier isName)

theorem spells_literal {digits : String} (canonical : Decimal.isCanonical digits) :
    SpellsOpen (digits ++ "LL") [.number (digits ++ "LL")] := by
  obtain ⟨value, -, rfl⟩ := Decimal.isCanonical_iff.1 canonical
  obtain ⟨char, more, chars, first, others⟩ := exists_digits value
  have whole : (toString value ++ "LL").toList = char :: (more ++ ['L', 'L']) := by
    rw [String.toList_append, chars]
    rfl
  refine spells_number whole first fun next mem => ?_
  rcases List.mem_append.1 mem with mem | mem
  · exact isNumberPart_of_isDigit (others next mem)
  · have suffix : ['L', 'L'].all isNumberPart := rfl
    exact List.all_eq_true.1 suffix next mem

theorem spells_symbol (op : Operator) : Spells (" " ++ symbol op ++ " ") [.mark (symbol op)] := by
  cases op with
  | arith op => cases op <;> exact fun _ _ => rfl
  | rel op => cases op <;> exact fun _ _ => rfl

theorem spells_bracket : Spells "(" [.mark "("] := fun _ _ => rfl

theorem spells_unbracket : Spells ")" [.mark ")"] := fun _ _ => rfl

theorem spells_comma : Spells ", " [.mark ","] := fun _ _ => rfl

theorem Ty.spells_cast (ty : Ty) :
    Spells ("(" ++ ty.render ++ ")") ([.mark "("] ++ ty.lexemes ++ [.mark ")"]) := by
  cases ty <;> exact fun _ _ => rfl

/-- The two marks that stand right before an operand make no pair with what it begins with. -/
theorem scanInto_unary {found : List Lexeme} {char next : Char} {rest : List Char}
    (unary : char = '-' ∨ char = '!') (apart : ∀ pair ∈ pairs, pair.1 = char → next ≠ pair.2) :
    scanInto found 0 (char :: next :: rest) =
      scanInto (.mark (String.ofList [char]) :: found) 0 (next :: rest) := by
  simp only [pairs, List.forall_mem_cons] at apart
  have single : pairs.any (fun pair => pair.1 == char && (next :: rest).head? == some pair.2) =
      false := by
    rcases unary with rfl | rfl <;> simp_all [pairs]
  rcases unary with rfl | rfl <;> simp only [scanInto, lexeme?, single] <;> rfl

theorem spells_negative (value : Nat) :
    SpellsOpen ("-" ++ toString value) [.mark "-", .number (toString value)] := by
  intro found rest free
  obtain ⟨char, more, chars, digit, -⟩ := exists_digits value
  have number := spells_toString value (.mark "-" :: found) rest free
  have minus : ("-" ++ toString value).toList = '-' :: char :: more := by
    rw [String.toList_append, chars]
    rfl
  have apart : ∀ pair ∈ pairs, pair.1 = '-' → char ≠ pair.2 := by
    have marks : ∀ pair ∈ pairs, pair.2.isDigit = false := by decide
    rintro pair mem - rfl
    rw [marks pair mem] at digit
    cases digit
  rw [minus, List.cons_append, List.cons_append, scanInto_unary (.inl rfl) apart]
  rwa [chars] at number

mutual

theorem Expr.spells {expr : Expr} (legible : expr.isLegible) :
    SpellsOpen expr.render expr.lexemes := by
  match expr with
  | .literal digits =>
    rw [Expr.isLegible] at legible
    rw [Expr.render, Expr.lexemes]
    exact spells_literal legible
  | .int value =>
    rw [Expr.render, Expr.lexemes]
    exact spells_toString value
  | .text content =>
    rw [Expr.isLegible] at legible
    rw [Expr.render, Expr.lexemes]
    exact (spells_quote legible).toOpen
  | .ident name =>
    rw [Expr.isLegible] at legible
    rw [Expr.render, Expr.lexemes]
    exact spells_identifier legible
  | .call callee args =>
    rw [Expr.isLegible, Bool.and_eq_true] at legible
    rw [Expr.render, Expr.lexemes]
    have opened := (spells_identifier legible.1).append spells_bracket rfl
    exact ((opened.appendOpen (Expr.spells_args legible.2)).append spells_unbracket rfl).toOpen
  | .binary op left right =>
    simp only [Expr.isLegible, Bool.and_eq_true] at legible
    have apart : left.render ++ " " ++ symbol op ++ " " =
        left.render ++ (" " ++ symbol op ++ " ") := by
      simp only [String.append_assoc]
    have ends : breaks (" " ++ symbol op ++ " ") := by cases op with
      | arith op => cases op <;> rfl
      | rel op => cases op <;> rfl
    rw [Expr.render, Expr.lexemes, apart]
    exact ((Expr.spells legible.1.1.1).append (spells_symbol op) ends).appendOpen
      (Expr.spells legible.1.1.2)
  | .both left right =>
    simp only [Expr.isLegible, Bool.and_eq_true] at legible
    have joined : Spells " && " [.mark "&&"] := fun _ _ => rfl
    rw [Expr.render, Expr.lexemes]
    exact ((Expr.spells legible.1.1.1).append joined rfl).appendOpen (Expr.spells legible.1.1.2)
  | .neg (.int value) =>
    rw [Expr.render, Expr.lexemes, Expr.render, Expr.lexemes]
    exact spells_negative value
  | .cast ty inner =>
    rw [Expr.isLegible, Bool.and_eq_true] at legible
    rw [Expr.render, Expr.lexemes]
    exact ty.spells_cast.appendOpen (Expr.spells legible.1)
  | .paren inner =>
    rw [Expr.isLegible] at legible
    rw [Expr.render, Expr.lexemes]
    exact ((spells_bracket.appendOpen (Expr.spells legible)).append spells_unbracket rfl).toOpen

theorem Expr.spells_args {args : List Expr} (legible : Expr.allLegible args) :
    SpellsOpen (Expr.renderArgs args) (Expr.lexemesArgs args) := by
  match args with
  | [] =>
    rw [Expr.renderArgs, Expr.lexemesArgs]
    exact spellsOpen_empty
  | [arg] =>
    rw [Expr.allLegible, Bool.and_eq_true] at legible
    rw [Expr.renderArgs, Expr.lexemesArgs]
    exact Expr.spells legible.1
  | arg :: next :: args =>
    rw [Expr.allLegible, Bool.and_eq_true] at legible
    rw [Expr.renderArgs, Expr.lexemesArgs]
    · exact ((Expr.spells legible.1).append spells_comma rfl).appendOpen
        (Expr.spells_args legible.2)
    all_goals simp

end

/-- The first character of a legible expression is no blank and makes no pair with a mark before
it. -/
def Opens (text : String) : Prop :=
  ∃ char rest, text.toList = char :: rest ∧ char ≠ ' ' ∧ char ≠ '='

theorem Opens.append {first : String} (opens : Opens first) (second : String) :
    Opens (first ++ second) := by
  obtain ⟨char, rest, chars, apart⟩ := opens
  exact ⟨char, rest ++ second.toList, by rw [String.toList_append, chars]; rfl, apart⟩

theorem opens_toString (value : Nat) : Opens (toString value) := by
  obtain ⟨char, more, chars, digit, -⟩ := exists_digits value
  refine ⟨char, more, chars, ?_, ?_⟩ <;> rintro rfl <;> cases digit

theorem opens_of_isWord {text : String} (word : isWord text) : Opens text := by
  cases chars : text.toList with
  | nil =>
    rw [isWord, chars] at word
    cases word
  | cons char rest =>
    rw [isWord, chars, Bool.and_eq_true] at word
    have start := word.1
    refine ⟨char, rest, chars, ?_, ?_⟩ <;> rintro rfl <;> cases start

theorem Expr.opens {expr : Expr} (legible : expr.isLegible) : Opens expr.render := by
  match expr with
  | .literal digits =>
    rw [Expr.isLegible] at legible
    obtain ⟨value, -, rfl⟩ := Decimal.isCanonical_iff.1 legible
    exact (opens_toString value).append "LL"
  | .int value => exact opens_toString value
  | .text content =>
    have quote : Opens "\"" := ⟨'"', [], rfl, by decide, by decide⟩
    exact (quote.append _).append "\""
  | .ident name =>
    rw [Expr.isLegible] at legible
    exact opens_of_isWord (isWord_of_isIdentifier legible)
  | .call callee args =>
    rw [Expr.isLegible, Bool.and_eq_true] at legible
    have named := opens_of_isWord (isWord_of_isIdentifier legible.1)
    exact ((named.append "(").append (Expr.renderArgs args)).append ")"
  | .binary op left right =>
    simp only [Expr.isLegible, Bool.and_eq_true] at legible
    exact ((((Expr.opens legible.1.1.1).append " ").append (symbol op)).append " ").append
      right.render
  | .both left right =>
    simp only [Expr.isLegible, Bool.and_eq_true] at legible
    exact ((Expr.opens legible.1.1.1).append " && ").append right.render
  | .neg inner =>
    have minus : Opens "-" := ⟨'-', [], rfl, by decide, by decide⟩
    exact minus.append inner.render
  | .cast ty inner =>
    have bracket : Opens "(" := ⟨'(', [], rfl, by decide, by decide⟩
    exact ((bracket.append ty.render).append ")").append inner.render
  | .paren inner =>
    have bracket : Opens "(" := ⟨'(', [], rfl, by decide, by decide⟩
    exact (bracket.append inner.render).append ")"

mutual

def Stmt.isLegible : Stmt → Bool
  | declare _ name value => isIdentifier name && value.isLegible
  | assign name value => isIdentifier name && value.isLegible
  | expr (.call callee args) => (Expr.call callee args).isLegible
  | expr _ => false
  | ret value => value.isLegible
  | ifThen cond body => cond.isLegible && Stmt.allLegible body
  | ifElse cond body other => cond.isLegible && Stmt.allLegible body && Stmt.allLegible other
  | forever body => Stmt.allLegible body
  | breakUnless cond => cond.isLegible && cond.rank == 0

def Stmt.allLegible : List Stmt → Bool
  | [] => true
  | stmt :: stmts => stmt.isLegible && Stmt.allLegible stmts

end

theorem Stmt.allLegible_iff {stmts : List Stmt} :
    Stmt.allLegible stmts ↔ ∀ stmt ∈ stmts, stmt.isLegible := by
  induction stmts with
  | nil => simp [Stmt.allLegible]
  | cons stmt stmts ih => simp [Stmt.allLegible, ih]

theorem Stmt.allLegible_append {first second : List Stmt} (legible : Stmt.allLegible first)
    (others : Stmt.allLegible second) : Stmt.allLegible (first ++ second) := by
  rw [Stmt.allLegible_iff] at legible others ⊢
  exact List.forall_mem_append.2 ⟨legible, others⟩

theorem Stmt.allLegible_singleton {stmt : Stmt} (legible : stmt.isLegible) :
    Stmt.allLegible [stmt] := by
  rw [Stmt.allLegible, Stmt.allLegible, legible, Bool.true_and]

mutual

def Stmt.lexemes : Stmt → List Lexeme
  | declare ty name value =>
    ty.lexemes ++ [.word name] ++ [.mark "="] ++ value.lexemes ++ [.mark ";"]
  | assign name value => [.word name] ++ [.mark "="] ++ value.lexemes ++ [.mark ";"]
  | expr value => value.lexemes ++ [.mark ";"]
  | ret value => [.word "return"] ++ value.lexemes ++ [.mark ";"]
  | ifThen cond body =>
    [.word "if", .mark "("] ++ cond.lexemes ++ [.mark ")", .mark "\x7b"] ++ Stmt.lexemesAll body ++
      [.mark "\x7d"]
  | ifElse cond body other =>
    [.word "if", .mark "("] ++ cond.lexemes ++ [.mark ")", .mark "\x7b"] ++ Stmt.lexemesAll body ++
      [.mark "\x7d", .word "else", .mark "\x7b"] ++ Stmt.lexemesAll other ++ [.mark "\x7d"]
  | forever body =>
    [.word "for", .mark "(", .mark ";", .mark ";", .mark ")", .mark "\x7b"] ++
      Stmt.lexemesAll body ++ [.mark "\x7d"]
  | breakUnless cond =>
    [.word "if", .mark "("] ++ ([.mark "!"] ++ cond.lexemes) ++
      [.mark ")", .word "break", .mark ";"]

def Stmt.lexemesAll : List Stmt → List Lexeme
  | [] => []
  | stmt :: stmts => stmt.lexemes ++ Stmt.lexemesAll stmts

end

theorem Ty.spells (ty : Ty) : Spells (ty.render ++ " ") ty.lexemes := by
  cases ty <;> exact fun _ _ => rfl

theorem spells_equals : Spells " = " [.mark "="] := fun _ _ => rfl

theorem spells_semicolon : Spells ";" [.mark ";"] := fun _ _ => rfl

theorem spells_if : Spells "if (" [.word "if", .mark "("] := fun _ _ => rfl

theorem spells_block (level : Nat) : Spells (line level "\x7d") [.mark "\x7d"] :=
  Spells.line (fun _ _ => rfl) level

theorem Expr.spells_if {cond : Expr} (legible : cond.isLegible) (level : Nat) :
    Spells (line level ("if (" ++ cond.render ++ ") \x7b"))
      ([.word "if", .mark "("] ++ cond.lexemes ++ [.mark ")", .mark "\x7b"]) := by
  have opening : Spells ") \x7b" [.mark ")", .mark "\x7b"] := fun _ _ => rfl
  exact ((C.spells_if.appendOpen (Expr.spells legible)).append opening rfl).line level

theorem Expr.spells_not {cond : Expr} (legible : cond.isLegible) :
    SpellsOpen ("!" ++ cond.render) ([.mark "!"] ++ cond.lexemes) := by
  intro found rest free
  obtain ⟨char, more, chars, -, notEqual⟩ := Expr.opens legible
  have inner := Expr.spells legible (.mark "!" :: found) rest free
  have negated : ("!" ++ cond.render).toList = '!' :: cond.render.toList := by simp
  have apart : ∀ pair ∈ pairs, pair.1 = '!' → char ≠ pair.2 := by
    have only : ∀ pair ∈ pairs, pair.1 = '!' → pair.2 = '=' := by decide
    intro pair mem same
    rwa [only pair mem same]
  rw [negated, chars, List.cons_append, List.cons_append, scanInto_unary (.inr rfl) apart]
  rw [chars] at inner
  refine inner.trans ?_
  rw [List.reverse_append, List.append_assoc]
  rfl

mutual

theorem Stmt.spells {stmt : Stmt} (legible : stmt.isLegible) (level : Nat) :
    Spells (stmt.render level) stmt.lexemes := by
  match stmt with
  | .declare ty name value =>
    rw [Stmt.isLegible, Bool.and_eq_true] at legible
    rw [Stmt.render, Stmt.lexemes]
    have named := (ty.spells.appendOpen (spells_identifier legible.1)).append spells_equals rfl
    exact ((named.appendOpen (Expr.spells legible.2)).append spells_semicolon rfl).line level
  | .assign name value =>
    rw [Stmt.isLegible, Bool.and_eq_true] at legible
    rw [Stmt.render, Stmt.lexemes]
    have named := (spells_identifier legible.1).append spells_equals rfl
    exact ((named.appendOpen (Expr.spells legible.2)).append spells_semicolon rfl).line level
  | .expr (.call callee args) =>
    rw [Stmt.isLegible] at legible
    rw [Stmt.render, Stmt.lexemes]
    exact ((Expr.spells legible).append spells_semicolon rfl).line level
  | .ret value =>
    rw [Stmt.isLegible] at legible
    rw [Stmt.render, Stmt.lexemes]
    have word : Spells "return " [.word "return"] := fun _ _ => rfl
    exact ((word.appendOpen (Expr.spells legible)).append spells_semicolon rfl).line level
  | .ifThen cond body =>
    rw [Stmt.isLegible, Bool.and_eq_true] at legible
    rw [Stmt.render, Stmt.lexemes]
    exact ((Expr.spells_if legible.1 level).append (Stmt.spells_all legible.2 (level + 1))).append
      (spells_block level)
  | .ifElse cond body other =>
    simp only [Stmt.isLegible, Bool.and_eq_true] at legible
    rw [Stmt.render, Stmt.lexemes]
    have otherwise : Spells "\x7d else \x7b" [.mark "\x7d", .word "else", .mark "\x7b"] :=
      fun _ _ => rfl
    have first := (Expr.spells_if legible.1.1 level).append
      (Stmt.spells_all legible.1.2 (level + 1))
    exact ((first.append (otherwise.line level)).append
      (Stmt.spells_all legible.2 (level + 1))).append (spells_block level)
  | .forever body =>
    rw [Stmt.isLegible] at legible
    rw [Stmt.render, Stmt.lexemes]
    have opening : Spells "for (;;) \x7b"
        [.word "for", .mark "(", .mark ";", .mark ";", .mark ")", .mark "\x7b"] := fun _ _ => rfl
    exact ((opening.line level).append (Stmt.spells_all legible (level + 1))).append
      (spells_block level)
  | .breakUnless cond =>
    rw [Stmt.isLegible, Bool.and_eq_true] at legible
    have broken : Spells ") break;" [.mark ")", .word "break", .mark ";"] := fun _ _ => rfl
    have regrouped : "if (!" ++ cond.render = "if (" ++ ("!" ++ cond.render) := by
      rw [← String.append_assoc]
      rfl
    rw [Stmt.render, Stmt.lexemes, regrouped]
    exact ((C.spells_if.appendOpen (Expr.spells_not legible.1)).append broken rfl).line level

theorem Stmt.spells_all {stmts : List Stmt} (legible : Stmt.allLegible stmts) (level : Nat) :
    Spells (Stmt.renderAll level stmts) (Stmt.lexemesAll stmts) := by
  match stmts with
  | [] => exact fun _ _ => rfl
  | stmt :: stmts =>
    rw [Stmt.allLegible, Bool.and_eq_true] at legible
    rw [Stmt.renderAll, Stmt.lexemesAll]
    exact (Stmt.spells legible.1 level).append (Stmt.spells_all legible.2 level)

end

namespace Function

def isLegible (function : Function) : Bool :=
  isIdentifier function.name && function.params.all isIdentifier && Stmt.allLegible function.body

def lexemesParams : List String → List Lexeme
  | [] => []
  | [param] => Ty.longLong.lexemes ++ [.word param]
  | param :: params => Ty.longLong.lexemes ++ [.word param] ++ [.mark ","] ++ lexemesParams params

def lexemesHead (function : Function) : List Lexeme :=
  (if function.isStatic then [.word "static"] else []) ++ function.returns.lexemes ++
    [.word function.name] ++ [.mark "("] ++
    (if function.params.isEmpty then [.word "void"] else lexemesParams function.params) ++
    [.mark ")"]

def lexemes (function : Function) : List Lexeme :=
  function.lexemesHead ++ [.mark "\x7b"] ++ Stmt.lexemesAll function.body ++ [.mark "\x7d"]

theorem spells_params {params : List String} (legible : ∀ param ∈ params, isIdentifier param) :
    SpellsOpen (", ".intercalate (params.map fun param => Ty.longLong.render ++ " " ++ param))
      (lexemesParams params) := by
  induction params with
  | nil => exact spellsOpen_empty
  | cons param params ih =>
    obtain ⟨first, others⟩ := List.forall_mem_cons.1 legible
    have here := Ty.longLong.spells.appendOpen (spells_identifier first)
    cases params with
    | nil => exact here
    | cons next params =>
      rw [List.map_cons, List.map_cons, String.intercalate_cons_cons]
      exact (here.append spells_comma rfl).appendOpen (ih others)

theorem spells_signature {function : Function} (legible : function.isLegible) :
    Spells function.signature function.lexemesHead := by
  simp only [isLegible, Bool.and_eq_true, List.all_eq_true] at legible
  have static : Spells (if function.isStatic then "static " else "")
      (if function.isStatic then [.word "static"] else []) := by
    cases function.isStatic <;> exact fun _ _ => rfl
  have params : SpellsOpen (renderParams function.params)
      (if function.params.isEmpty then [.word "void"] else lexemesParams function.params) := by
    rw [renderParams]
    split
    · exact spells_word rfl
    · exact spells_params legible.1.2
  have regrouped (front ty : String) : front ++ ty ++ " " = front ++ (ty ++ " ") :=
    String.append_assoc
  have typed := static.append function.returns.spells
  have named := (typed.appendOpen (spells_identifier legible.1.1)).append spells_bracket rfl
  rw [signature, lexemesHead, regrouped]
  exact (named.appendOpen params).append spells_unbracket rfl

theorem spells {function : Function} (legible : function.isLegible) :
    Spells function.render function.lexemes := by
  have body : Stmt.allLegible function.body := (Bool.and_eq_true_iff.1 legible).2
  have opening : Spells " \x7b\n" [.mark "\x7b"] := fun _ _ => rfl
  have closing : Spells "\x7d\n" [.mark "\x7d"] := fun _ _ => rfl
  rw [render, lexemes]
  exact (((spells_signature legible).append opening).append (Stmt.spells_all body 1)).append closing

end Function

namespace File

/-- The characters of the name of a header, which stands between angle brackets. -/
def isHeaderChar (char : Char) : Bool := !(['>', '\n', '\x7b', '\x7d'].contains char)

structure Legible (file : File) : Prop where
  headers : ∀ header ∈ file.headers, header.toList.all isHeaderChar
  prelude : ∀ function ∈ file.prelude, function.isLegible ∧ function.isStatic
  globals : ∀ name ∈ file.globals, isIdentifier name
  functions : ∀ function ∈ file.functions, function.isLegible ∧ function.isStatic = false
  main : file.main.isLegible ∧ file.main.isStatic = false ∧ file.main.name = "main"

/-- The functions that are not static, `main` among them. -/
def definitions (file : File) : List Function := file.functions ++ [file.main]

theorem Legible.definitions {file : File} (legible : file.Legible) :
    ∀ function ∈ file.definitions, function.isLegible ∧ function.isStatic = false := by
  intro function mem
  rcases List.mem_append.1 mem with mem | mem
  · exact legible.functions function mem
  · rw [List.mem_singleton.1 mem]
    exact ⟨legible.main.1, legible.main.2.1⟩

def lexemesGlobal (name : String) : List Lexeme :=
  Ty.longLong.lexemes ++ [.word name] ++ [.mark "=", .number "0", .mark ";"]

def lexemesPrototype (function : Function) : List Lexeme := function.lexemesHead ++ [.mark ";"]

def parts (file : File) : List (String × List Lexeme) :=
  file.prelude.map (fun function => (function.render, function.lexemes)) ++
    (if file.globals.isEmpty then []
      else [(String.join (file.globals.map fun name => line 0 ("long long " ++ name ++ " = 0;")),
        file.globals.flatMap lexemesGlobal)]) ++
    (if file.functions.isEmpty then []
      else [(String.join (file.functions.map fun function => line 0 (function.signature ++ ";")),
        file.functions.flatMap lexemesPrototype)]) ++
    file.functions.map (fun function => (function.render, function.lexemes)) ++
    [(file.main.render, file.main.lexemes)]

def lexemes (file : File) : List Lexeme :=
  file.prelude.flatMap Function.lexemes ++ file.globals.flatMap lexemesGlobal ++
    file.functions.flatMap lexemesPrototype ++ file.functions.flatMap Function.lexemes ++
    file.main.lexemes

theorem flatMap_parts (file : File) : file.parts.flatMap Prod.snd = file.lexemes := by
  have globals : (if file.globals.isEmpty then [] else
      [(String.join (file.globals.map fun name => line 0 ("long long " ++ name ++ " = 0;")),
        file.globals.flatMap lexemesGlobal)]).flatMap Prod.snd =
      file.globals.flatMap lexemesGlobal := by
    cases file.globals <;> simp
  have prototypes : (if file.functions.isEmpty then [] else
      [(String.join (file.functions.map fun function => line 0 (function.signature ++ ";")),
        file.functions.flatMap lexemesPrototype)]).flatMap Prod.snd =
      file.functions.flatMap lexemesPrototype := by
    cases file.functions <;> simp
  rw [parts, List.flatMap_append, List.flatMap_append, List.flatMap_append, List.flatMap_append,
    globals, prototypes, List.flatMap_map, List.flatMap_map, List.flatMap_singleton, lexemes]

theorem sections_eq (file : File) :
    file.sections = renderHeaders file.headers :: file.parts.map Prod.fst := by
  rw [sections, parts]
  simp only [List.map_append, List.map_map, List.map_cons, List.map_nil, List.cons_append,
    List.nil_append, apply_ite (List.map Prod.fst), Function.comp_def]

theorem spells_join {α : Type} {own : α → String} {written : α → List Lexeme} {list : List α}
    (all : ∀ a ∈ list, Spells (own a) (written a)) :
    Spells (String.join (list.map own)) (list.flatMap written) := by
  induction list with
  | nil => exact fun _ _ => rfl
  | cons a list ih =>
    obtain ⟨first, others⟩ := List.forall_mem_cons.1 all
    rw [List.map_cons, String.join_cons, List.flatMap_cons]
    exact first.append (ih others)

theorem Legible.spells_parts {file : File} (legible : file.Legible) :
    ∀ part ∈ file.parts, Spells part.1 part.2 := by
  intro part mem
  simp only [parts, List.mem_append, List.mem_singleton, List.mem_map] at mem
  rcases mem with (((⟨function, mem, rfl⟩ | mem) | mem) | ⟨function, mem, rfl⟩) | rfl
  · exact Function.spells (legible.prelude function mem).1
  · split at mem
    · cases mem
    · rw [List.mem_singleton.1 mem]
      refine spells_join fun name listed => Spells.line ?_ 0
      have zero : Spells " = 0;" [.mark "=", .number "0", .mark ";"] := fun _ _ => rfl
      have typed : Spells "long long " Ty.longLong.lexemes := fun _ _ => rfl
      exact (typed.appendOpen (spells_identifier (legible.globals name listed))).append zero rfl
  · split at mem
    · cases mem
    · rw [List.mem_singleton.1 mem]
      refine spells_join fun function listed => Spells.line ?_ 0
      have head := Function.spells_signature (legible.functions function listed).1
      exact head.append spells_semicolon
  · exact Function.spells (legible.functions function mem).1
  · exact Function.spells legible.main.1

theorem Legible.render_eq {file : File} (legible : file.Legible) :
    ∃ rest, file.render = renderHeaders file.headers ++ "\n" ++ rest ∧
      scan rest.toList = some file.lexemes := by
  obtain ⟨part, parts, cons⟩ : ∃ part parts, file.parts = part :: parts := by
    cases all : file.parts with
    | nil => simp [File.parts] at all
    | cons part parts => exact ⟨part, parts, rfl⟩
  refine ⟨"\n".intercalate (file.parts.map Prod.fst), ?_, ?_⟩
  · rw [render, sections_eq, cons, List.map_cons, String.intercalate_cons_cons]
  · have spelled := Spells.intercalate legible.spells_parts [] []
    rw [List.append_nil, List.append_nil, flatMap_parts] at spelled
    rw [scan, spelled, scanInto, List.reverse_reverse]

end File

end ImpToC.C
