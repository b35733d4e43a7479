import ImpToC.Proofs.Blanks
import ImpToC.Proofs.Shape

/-! Writing tokens as text. A token is written as the symbol of its kind, or as the text it
carries where its kind has none, and a space goes between two tokens. The scanner reads what is
in front of the space by itself, so it finds in such a text the tokens that were written, as long
as each of them is one it could have given at all; and it gives no others. -/
namespace ImpToC.Token

def spelling (token : Token) : String := token.kind.symbol?.getD token.text

def write (tokens : List Token) : String := " ".intercalate (tokens.map spelling)

structure Valid (token : Token) : Prop where
  spelled : token.WellSpelled
  free : token.kind = .ident → Kind.keyword? token.text = none
  bare : token.kind.symbol?.isSome → token.text? = none

theorem symbol?_ne_of_keyword? {text : String} (isWord : IsWord text.toList)
    (plain : Kind.keyword? text = none) (kind : Kind) : kind.symbol? ≠ some text := by
  intro spelled
  rcases word_or_mark spelled with ⟨-, reserved⟩ | ⟨c, tail, chars, -, notPart, -⟩
  · rw [ofWord, plain] at reserved
    cases reserved
  · obtain ⟨d, rest, same, isAlpha, -⟩ := isWord
    rw [chars] at same
    cases same
    exact notPart (isAlphanum_of_isAlpha isAlpha)

theorem Valid.lexeme {token : Token} (valid : token.Valid) :
    Lexeme token.spelling.toList token := by
  obtain ⟨⟨name, number⟩, free, bare⟩ := valid
  obtain ⟨kind, text?⟩ := token
  cases found : kind.symbol? with
  | some symbol =>
    cases (bare (by simp [found]) : text? = none)
    simp only [spelling, found, Option.getD_some]
    exact .symbol found
  | none =>
    simp only [spelling, found, Option.getD_none]
    cases kind with
    | num =>
      obtain ⟨n, fits, same⟩ := number rfl
      cases (same : text? = some (toString n))
      have isLexeme := Lexeme.number (Decimal.isNumeral_toString fits).digits
        ((Decimal.value_toString n).symm ▸ fits)
      rwa [Decimal.value_toString] at isLexeme
    | ident =>
      obtain ⟨word, same, isWord⟩ := name rfl
      cases (same : text? = some word)
      have isFree := symbol?_ne_of_keyword? isWord (free rfl)
      have isLexeme := Lexeme.name isWord (by rwa [String.ofList_toList])
      rwa [String.ofList_toList] at isLexeme
    | arith op => cases op <;> cases found
    | rel op => cases op <;> cases found
    | _ => cases found

theorem Valid.scan_spelling {token : Token} (valid : token.Valid) :
    scan token.spelling.toList = .ok [token] := by
  have whole : Splits (token.spelling.toList ++ []) [token] [] :=
    .lexeme valid.lexeme (ends_of_beginsBlank nofun) .done
  rw [List.append_nil] at whole
  exact scan_of_explains whole

theorem write_cons (token next : Token) (tokens : List Token) :
    (write (token :: next :: tokens)).toList =
      token.spelling.toList ++ [' '] ++ (write (next :: tokens)).toList := by
  simp [write, String.toList_intercalate]

theorem ofSource_write_of_valid {tokens : List Token} (valid : ∀ token ∈ tokens, token.Valid) :
    ofSource (write tokens) = .ok tokens := by
  induction tokens with
  | nil => exact scan_of_explains .done
  | cons token tokens ih =>
    obtain ⟨first, others⟩ := List.forall_mem_cons.1 valid
    cases tokens with
    | nil =>
      rw [write, List.map_singleton, String.intercalate_singleton]
      exact first.scan_spelling
    | cons next tokens =>
      have scanned : scan (write (next :: tokens)).toList = .ok (next :: tokens) := ih others
      rw [ofSource, write_cons, scan_append_blanks (List.cons_ne_nil _ _) (by simp [blanks]),
        first.scan_spelling, scanned]
      rfl

theorem valid_of_lexeme {word : List Char} {token : Token} (isLexeme : Lexeme word token) :
    token.Valid := by
  refine ⟨wellSpelled_of_lexeme isLexeme, ?_, ?_⟩
  · intro isName
    cases isLexeme with
    | number => cases isName
    | name _ free => exact keyword?_of_free free
    | symbol spelled =>
      cases isName
      cases spelled
  · intro hasSymbol
    cases isLexeme with
    | number | name => cases hasSymbol
    | symbol => rfl

theorem valid_of_ofSource {source : String} {tokens : List Token}
    (scanned : ofSource source = .ok tokens) : ∀ token ∈ tokens, token.Valid := by
  intro token mem
  have splits : Explains source.toList (.ok tokens) := scanned ▸ explains_scan source.toList
  obtain ⟨word, isLexeme⟩ := Splits.exists_lexeme splits mem
  exact valid_of_lexeme isLexeme

/-- Writing tokens and scanning the text gives the tokens back, if they are valid; the scanner
gives only valid tokens; so what it has given once it gives again for the text of it. -/
theorem write_scans_back :
    (∀ tokens, (∀ token ∈ tokens, Valid token) → ofSource (write tokens) = .ok tokens) ∧
      (∀ source tokens, ofSource source = .ok tokens → ∀ token ∈ tokens, token.Valid) ∧
      ∀ source tokens, ofSource source = .ok tokens → ofSource (write tokens) = .ok tokens :=
  ⟨fun _ valid => ofSource_write_of_valid valid, fun _ _ scanned => valid_of_ofSource scanned,
    fun _ _ scanned => ofSource_write_of_valid (valid_of_ofSource scanned)⟩

/-- A word that begins with a reserved one, the largest numeral, and a row of `=`. -/
theorem write_scans_back_marks :
    let source := "iffy!=009223372036854775807=====else"
    let tokens : List Token := [⟨.ident, "iffy"⟩, ⟨.rel .ne, none⟩, ⟨.num, "9223372036854775807"⟩,
      ⟨.rel .eq, none⟩, ⟨.rel .eq, none⟩, ⟨.assign, none⟩, ⟨.elseWord, none⟩]
    ofSource source = .ok tokens ∧ (∀ token ∈ tokens, token.Valid) ∧
      write tokens = "iffy != 9223372036854775807 == == = else" ∧
      ofSource (write tokens) = .ok tokens := by
  intro source tokens
  have scanned : ofSource source = .ok tokens := by decide +kernel
  have valid := write_scans_back.2.1 source tokens scanned
  exact ⟨scanned, valid, by decide +kernel, write_scans_back.1 tokens valid⟩

end ImpToC.Token
