import ImpToC.Text.Decimal
import ImpToC.Token

/-! Scanning: from source text to tokens. Blanks separate tokens and are dropped; every
other character starts a token that extends as far as its class allows, or is refused.
The first refusal from the left decides the answer. -/
namespace ImpToC

inductive ScanError where
  | unexpectedCharacter (c : Char)
  | numberOutOfRange (digits : String)
  deriving DecidableEq, Repr

def ScanError.message : ScanError → String
  | unexpectedCharacter c => "unexpected character '" ++ c.toString ++ "'"
  | numberOutOfRange digits => "integer literal " ++ digits ++ " does not fit in 64 bits"

namespace Token

/-- The space, the line and page breaks, and the four information separators. -/
def isBlank (c : Char) : Bool :=
  c == ' ' || (0x09 ≤ c.toNat && c.toNat ≤ 0x0d) || (0x1c ≤ c.toNat && c.toNat ≤ 0x1f)

/-- Names begin with an ASCII letter and go on with ASCII letters and digits. -/
def isNameStart (c : Char) : Bool := c.isAlpha

def isNamePart (c : Char) : Bool := c.isAlphanum

def isName (text : String) : Bool :=
  match text.toList with
  | [] => false
  | c :: rest => isNameStart c && rest.all isNamePart

def ofWord (word : String) : Token :=
  match Kind.keyword? word with
  | some kind => ⟨kind, none⟩
  | none => ⟨.ident, some word⟩

def ofMark (c : Char) (rest : List Char) : Except ScanError (Token × List Char) :=
  match c, rest with
  | '=', '=' :: rest => .ok (⟨.rel .eq, none⟩, rest)
  | '=', rest => .ok (⟨.assign, none⟩, rest)
  | '<', '=' :: rest => .ok (⟨.rel .le, none⟩, rest)
  | '<', rest => .ok (⟨.rel .lt, none⟩, rest)
  | '>', '=' :: rest => .ok (⟨.rel .ge, none⟩, rest)
  | '>', rest => .ok (⟨.rel .gt, none⟩, rest)
  | '!', '=' :: rest => .ok (⟨.rel .ne, none⟩, rest)
  | '+', rest => .ok (⟨.arith .add, none⟩, rest)
  | '-', rest => .ok (⟨.arith .sub, none⟩, rest)
  | '*', rest => .ok (⟨.arith .mul, none⟩, rest)
  | '/', rest => .ok (⟨.arith .div, none⟩, rest)
  | '(', rest => .ok (⟨.lparen, none⟩, rest)
  | ')', rest => .ok (⟨.rparen, none⟩, rest)
  | '\x7b', rest => .ok (⟨.lbrace, none⟩, rest)
  | '\x7d', rest => .ok (⟨.rbrace, none⟩, rest)
  | ';', rest => .ok (⟨.semi, none⟩, rest)
  | ',', rest => .ok (⟨.comma, none⟩, rest)
  | c, _ => .error (.unexpectedCharacter c)

def first (c : Char) (rest : List Char) : Except ScanError (Token × List Char) :=
  if c.isDigit then
    let digits := c :: rest.takeWhile Char.isDigit
    match Decimal.canonical? digits with
    | some text => .ok (⟨.num, some text⟩, rest.dropWhile Char.isDigit)
    | none => .error (.numberOutOfRange (String.ofList digits))
  else if isNameStart c then
    .ok (ofWord (String.ofList (c :: rest.takeWhile isNamePart)), rest.dropWhile isNamePart)
  else
    ofMark c rest

theorem length_dropWhile_le {α : Type} (p : α → Bool) (xs : List α) :
    (xs.dropWhile p).length ≤ xs.length :=
  (List.dropWhile_suffix p).length_le

theorem ofMark_length_le {c : Char} {rest : List Char} {token : Token} {left : List Char}
    (taken : ofMark c rest = .ok (token, left)) : left.length ≤ rest.length := by
  unfold ofMark at taken
  split at taken <;> simp_all [Except.ok.injEq]

theorem first_length_le {c : Char} {rest : List Char} {token : Token} {left : List Char}
    (taken : first c rest = .ok (token, left)) : left.length ≤ rest.length := by
  unfold first at taken
  split at taken
  · dsimp only at taken
    split at taken
    · simp only [Except.ok.injEq, Prod.mk.injEq] at taken
      exact taken.2 ▸ length_dropWhile_le _ _
    · exact absurd taken (by simp)
  · split at taken
    · simp only [Except.ok.injEq, Prod.mk.injEq] at taken
      exact taken.2 ▸ length_dropWhile_le _ _
    · exact ofMark_length_le taken

def scan : List Char → Except ScanError (List Token)
  | [] => .ok []
  | c :: rest =>
    if isBlank c then scan rest
    else
      match _taken : first c rest with
      | .error fault => .error fault
      | .ok (token, left) =>
        match scan left with
        | .error fault => .error fault
        | .ok tokens => .ok (token :: tokens)
termination_by text => text.length
decreasing_by
  · simp
  · have := first_length_le _taken
    simp only [List.length_cons]
    omega

def ofSource (source : String) : Except ScanError (List Token) := scan source.toList

end Token

end ImpToC
