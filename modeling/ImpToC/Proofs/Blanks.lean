import Mathlib.Control.Monad.Basic
import ImpToC.Proofs.Lexemes

/-! Blanks between texts. No lexeme goes on over a blank, and no fault depends on what stands
behind one. So the text in front of a blank is scanned as if it stood alone, and the text behind
it is scanned afresh. -/
namespace ImpToC.Token

variable {text rest more : List Char} {tokens : List Token}

def BeginsBlank (text : List Char) : Prop := ∀ c ∈ text.head?, c ∈ blanks

theorem ends_of_beginsBlank {word : List Char} (begins : BeginsBlank rest) : Ends word rest where
  digits := fun _ d first isDigit =>
    not_blank_of_isAlphanum (isAlphanum_of_isDigit isDigit) (begins d first)
  letters := fun _ d first isPart => not_blank_of_isAlphanum isPart (begins d first)
  equals := fun _ first => absurd (begins '=' first) (by decide)

theorem Ends.append {word : List Char} (ends : Ends word text) (begins : BeginsBlank more) :
    Ends word (text ++ more) := by
  cases text with
  | nil => exact ends_of_beginsBlank begins
  | cons d text => exact ⟨ends.digits, ends.letters, ends.equals⟩

theorem Splits.append (splits : Splits text tokens rest) (begins : BeginsBlank more) :
    Splits (text ++ more) tokens (rest ++ more) := by
  induction splits with
  | done => exact .done
  | blank isBlank _ ih => exact .blank isBlank ih
  | lexeme isLexeme ends _ ih =>
    rw [List.append_assoc]
    exact .lexeme isLexeme (ends.append begins) ih

theorem IsStray.append {c : Char} (stray : IsStray c rest) (begins : BeginsBlank more) :
    IsStray c (rest ++ more) := by
  rcases stray with noLexeme | ⟨bang, noEquals⟩
  · exact .inl noLexeme
  · refine .inr ⟨bang, ?_⟩
    cases rest with
    | nil => exact fun first => absurd (begins '=' first) (by decide)
    | cons d rest => exact noEquals

theorem IsOversized.append {digits : List Char} (oversized : IsOversized digits rest)
    (begins : BeginsBlank more) : IsOversized digits (rest ++ more) := by
  obtain ⟨isDigits, outside, large⟩ := oversized
  refine ⟨isDigits, ?_, large⟩
  cases rest with
  | nil =>
    intro d first isDigit
    exact not_blank_of_isAlphanum (isAlphanum_of_isDigit isDigit) (begins d first)
  | cons d rest => exact outside

theorem explains_append_of_error {fault : ScanError} (explains : Explains text (.error fault))
    (begins : BeginsBlank more) : Explains (text ++ more) (.error fault) := by
  cases fault with
  | unexpectedCharacter c =>
    obtain ⟨tokens, rest, splits, stray⟩ := explains
    exact ⟨tokens, rest ++ more, splits.append begins, stray.append begins⟩
  | numberOutOfRange digits =>
    obtain ⟨tokens, rest, splits, oversized⟩ := explains
    refine ⟨tokens, rest ++ more, ?_, oversized.append begins⟩
    rw [← List.append_assoc]
    exact splits.append begins

theorem scan_append_of_beginsBlank (begins : BeginsBlank more) :
    scan (text ++ more) = (scan text).bind fun tokens => (scan more).map (tokens ++ ·) := by
  have explains := explains_scan text
  cases answer : scan text with
  | ok tokens =>
    rw [answer] at explains
    exact scan_of_splits (Splits.append explains begins)
  | error fault =>
    rw [answer] at explains
    exact scan_of_explains (explains_append_of_error explains begins)

theorem scan_of_blanks {run : List Char} (skipped : ∀ c ∈ run, c ∈ blanks) (rest : List Char) :
    scan (run ++ rest) = scan rest := by
  induction run with
  | nil => rfl
  | cons c run ih =>
    obtain ⟨isBlank, others⟩ := List.forall_mem_cons.1 skipped
    rw [List.cons_append, scan_of_blank isBlank, ih others]

theorem scan_append_blanks {run : List Char} (nonempty : run ≠ [])
    (skipped : ∀ c ∈ run, c ∈ blanks) (text rest : List Char) :
    scan (text ++ run ++ rest) =
      (scan text).bind fun tokens => (scan rest).map (tokens ++ ·) := by
  have begins : BeginsBlank (run ++ rest) := by
    obtain ⟨c, run, rfl⟩ := List.exists_cons_of_ne_nil nonempty
    rintro d ⟨⟩
    exact skipped c List.mem_cons_self
  rw [List.append_assoc, scan_append_of_beginsBlank begins, scan_of_blanks skipped]

theorem ofSource_append_blanks {blank : String} (nonempty : blank ≠ "")
    (skipped : ∀ c ∈ blank.toList, c ∈ blanks) (front back : String) :
    ofSource (front ++ blank ++ back) =
      (ofSource front).bind fun first => (ofSource back).map (first ++ ·) := by
  have characters : blank.toList ≠ [] := by simpa using nonempty
  rw [ofSource, String.toList_append, String.toList_append]
  exact scan_append_blanks characters skipped front.toList back.toList

/-- Scanning distributes over blanks. Where blanks stand between two texts, the tokens of the
whole are those of the first text and then those of the second; the fault of the first text is
the fault of the whole whatever follows, and otherwise that of the second is. -/
theorem ofSource_distributes {blank : String} (nonempty : blank ≠ "")
    (skipped : ∀ c ∈ blank.toList, c ∈ blanks) (front back : String) :
    (∀ fault, ofSource front = .error fault →
        ofSource (front ++ blank ++ back) = .error fault) ∧
      (∀ first fault, ofSource front = .ok first → ofSource back = .error fault →
        ofSource (front ++ blank ++ back) = .error fault) ∧
      ∀ first second, ofSource front = .ok first → ofSource back = .ok second →
        ofSource (front ++ blank ++ back) = .ok (first ++ second) := by
  have whole := ofSource_append_blanks nonempty skipped front back
  refine ⟨fun fault failed => ?_, fun first fault scanned failed => ?_,
    fun first second scanned scannedBack => ?_⟩
  · rw [whole, failed]
    rfl
  · rw [whole, scanned, failed]
    rfl
  · rw [whole, scanned, scannedBack]
    rfl

/-- A mark that waits for its `=`, a bare `!` and a numeral out of range at the cut. -/
theorem ofSource_distributes_marks :
    ofSource ("x=" ++ "\t\n" ++ "=1") =
        .ok [⟨.ident, "x"⟩, ⟨.assign, none⟩, ⟨.assign, none⟩, ⟨.num, "1"⟩] ∧
      ofSource ("x !" ++ " " ++ "= é") = .error (.unexpectedCharacter '!') ∧
      ofSource ("whil" ++ "\x1f" ++ "e 9223372036854775808x") =
        .error (.numberOutOfRange "9223372036854775808") := by
  refine ⟨?_, ?_, ?_⟩
  · exact (ofSource_distributes (by decide) (by simp [blanks]) "x=" "=1").2.2
      [⟨.ident, "x"⟩, ⟨.assign, none⟩] _ (by decide +kernel) (by decide +kernel)
  · exact (ofSource_distributes (by decide) (by simp [blanks]) "x !" "= é").1 _ (by decide +kernel)
  · exact (ofSource_distributes (by decide) (by simp [blanks]) "whil" "e 9223372036854775808x").2.1
      [⟨.ident, "whil"⟩] _ (by decide +kernel) (by decide +kernel)

end ImpToC.Token
