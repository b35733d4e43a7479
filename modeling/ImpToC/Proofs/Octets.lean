import ImpToC.Proofs.Lexemes

/-! Scanning by octets. A cursor on the UTF-8 form of the source tests single octets, and its tests
accept ASCII only. An ASCII character is one octet, and every other character begins with an octet
above ASCII, so where a character begins such a test says the same of the octet as of the
character. A run of octets that pass is therefore a run of characters that pass, and the cursor
stops where the next character begins. -/
namespace ImpToC.Token

def octets (text : List Char) : List UInt8 := text.flatMap String.utf8EncodeChar

/-- Behind the octets of the first characters of a text stand those of the others. -/
theorem drop_toUTF8 {source : String} {before rest : List Char}
    (split : source.toList = before ++ rest) :
    source.toUTF8.data.toList.drop (octets before).length = octets rest := by
  have all : source.toUTF8.data.toList = octets (before ++ rest) := by
    rw [← split, ← String.ofList_toList (s := source), String.toUTF8_eq_toByteArray,
      String.toByteArray_ofList, String.toList_ofList]
    exact List.toList_data_toByteArray
  have parts : octets (before ++ rest) = octets before ++ octets rest := List.flatMap_append
  rw [all, parts, List.drop_left]

theorem decode_octets (text : List Char) :
    (octets text).toByteArray.utf8DecodeChar? 0 = text.head? := by
  cases text with
  | nil => rfl
  | cons c rest => exact List.utf8DecodeChar?_utf8Encode_cons

theorem octets_ascii {c : Char} (ascii : c.toNat < 128) (rest : List Char) :
    octets (c :: rest) = UInt8.ofNat c.toNat :: octets rest := by
  have low : c.val.toNat ≤ 127 := Nat.le_of_lt_succ ascii
  rw [octets, List.flatMap_cons, String.utf8EncodeChar, if_pos low]
  rfl

theorem octets_high {c : Char} (high : 128 ≤ c.toNat) (rest : List Char) :
    ∃ lead more, octets (c :: rest) = lead :: more ∧ 128 ≤ lead.toNat := by
  have above : ¬c.val.toNat ≤ 127 := Nat.not_le.2 high
  rw [octets, List.flatMap_cons, String.utf8EncodeChar, if_neg above]
  split
  · exact ⟨_, _, rfl, by simp; omega⟩
  · split
    · exact ⟨_, _, rfl, by simp; omega⟩
    · exact ⟨_, _, rfl, by simp; omega⟩

/-- A test of octets and a test of characters that accept the same of ASCII, and nothing else. -/
structure SameTest (onOctet : UInt8 → Bool) (onChar : Char → Bool) : Prop where
  ascii : ∀ code : Fin 128, onOctet (UInt8.ofNat code) = onChar (Char.ofNat code)
  octet : ∀ octet, onOctet octet → octet.toNat < 128
  char : ∀ c, onChar c → c.toNat < 128

namespace SameTest

variable {onOctet : UInt8 → Bool} {onChar : Char → Bool}

theorem passes (same : SameTest onOctet onChar) {c : Char} (passed : onChar c) :
    ∃ lead, onOctet lead ∧ ∀ rest, octets (c :: rest) = lead :: octets rest := by
  have ascii := same.char c passed
  have agree := same.ascii ⟨c.toNat, ascii⟩
  rw [Char.ofNat_toNat, passed] at agree
  exact ⟨UInt8.ofNat c.toNat, agree, octets_ascii ascii⟩

theorem fails (same : SameTest onOctet onChar) {c : Char} (failed : ¬onChar c) (rest : List Char) :
    ∃ lead more, octets (c :: rest) = lead :: more ∧ ¬onOctet lead := by
  by_cases ascii : c.toNat < 128
  · have agree := same.ascii ⟨c.toNat, ascii⟩
    rw [Char.ofNat_toNat] at agree
    exact ⟨_, _, octets_ascii ascii rest, fun passed => failed (agree ▸ passed)⟩
  · obtain ⟨lead, more, split, high⟩ := octets_high (Nat.not_lt.1 ascii) rest
    exact ⟨lead, more, split, fun passed => absurd (same.octet lead passed) (Nat.not_lt.2 high)⟩

theorem takeWhile (same : SameTest onOctet onChar) (text : List Char) :
    (octets text).takeWhile onOctet = octets (text.takeWhile onChar) := by
  induction text with
  | nil => rfl
  | cons c rest ih =>
    by_cases passed : onChar c
    · obtain ⟨lead, accepted, split⟩ := same.passes passed
      rw [split, List.takeWhile_cons_of_pos accepted, ih, List.takeWhile_cons_of_pos passed, split]
    · obtain ⟨lead, more, split, refused⟩ := same.fails passed rest
      rw [split, List.takeWhile_cons_of_neg refused, List.takeWhile_cons_of_neg passed]
      rfl

theorem dropWhile (same : SameTest onOctet onChar) (text : List Char) :
    (octets text).dropWhile onOctet = octets (text.dropWhile onChar) := by
  induction text with
  | nil => rfl
  | cons c rest ih =>
    by_cases passed : onChar c
    · obtain ⟨lead, accepted, split⟩ := same.passes passed
      rw [split, List.dropWhile_cons_of_pos accepted, ih, List.dropWhile_cons_of_pos passed]
    · obtain ⟨lead, more, split, refused⟩ := same.fails passed rest
      rw [List.dropWhile_cons_of_neg passed, split, List.dropWhile_cons_of_neg refused]

theorem head? (same : SameTest onOctet onChar) (text : List Char) :
    (octets text).head?.any onOctet = text.head?.any onChar := by
  cases text with
  | nil => rfl
  | cons c rest =>
    by_cases passed : onChar c
    · obtain ⟨lead, accepted, split⟩ := same.passes passed
      rw [split]
      exact accepted.trans passed.symm
    · obtain ⟨lead, more, split, refused⟩ := same.fails passed rest
      rw [split]
      exact (Bool.eq_false_iff.2 refused).trans (Bool.eq_false_iff.2 passed).symm

end SameTest

def isBlankOctet (octet : UInt8) : Bool :=
  octet == 0x20 || (0x09 ≤ octet && octet ≤ 0x0d) || (0x1c ≤ octet && octet ≤ 0x1f)

def isDigitOctet (octet : UInt8) : Bool := 0x30 ≤ octet && octet ≤ 0x39

def isNamePartOctet (octet : UInt8) : Bool :=
  (0x41 ≤ octet && octet ≤ 0x5a) || (0x61 ≤ octet && octet ≤ 0x7a) || isDigitOctet octet

theorem sameTest_isBlank : SameTest isBlankOctet isBlank where
  ascii := by decide
  octet octet passed := by
    simp [isBlankOctet, UInt8.le_iff_toNat_le, ← UInt8.toNat_inj] at passed
    omega
  char c passed := by
    have listed := isBlank_iff.1 passed
    simp only [blanks, List.mem_cons, List.not_mem_nil, or_false] at listed
    rcases listed with rfl | rfl | rfl | rfl | rfl | rfl | rfl | rfl | rfl | rfl <;> decide

theorem sameTest_isDigit : SameTest isDigitOctet Char.isDigit where
  ascii := by decide
  octet octet passed := by
    simp [isDigitOctet, UInt8.le_iff_toNat_le] at passed
    omega
  char c passed := by
    have upper : c.toNat ≤ '9'.toNat := (Char.isDigit_iff_toNat.1 passed).2
    exact Nat.lt_of_le_of_lt upper (by decide)

theorem sameTest_isNamePart : SameTest isNamePartOctet isNamePart where
  ascii := by decide
  octet octet passed := by
    simp [isNamePartOctet, isDigitOctet, UInt8.le_iff_toNat_le] at passed
    omega
  char c passed := by
    rcases Bool.or_eq_true_iff.1 passed with letter | digit
    · have code := toNat_of_isAlpha letter
      omega
    · exact sameTest_isDigit.char c digit

theorem sameTest_equals : SameTest (· == 0x3d) (· == '=') where
  ascii := by decide
  octet octet passed := by
    rw [beq_iff_eq.1 passed]
    decide
  char c passed := by
    rw [beq_iff_eq.1 passed]
    decide

/-- What a cursor finds in the octets that are left, if these characters are left: the next
character, the runs it passes over, and whether an equals sign follows an ASCII character. -/
structure Seen (left : List UInt8) (rest : List Char) : Prop where
  current : left.toByteArray.utf8DecodeChar? 0 = rest.head?
  blanks : left.dropWhile isBlankOctet = octets (rest.dropWhile isBlank)
  digits : left.takeWhile isDigitOctet = octets (rest.takeWhile Char.isDigit) ∧
    left.dropWhile isDigitOctet = octets (rest.dropWhile Char.isDigit)
  word : left.takeWhile isNamePartOctet = octets (rest.takeWhile isNamePart) ∧
    left.dropWhile isNamePartOctet = octets (rest.dropWhile isNamePart)
  equals : ∀ c after, rest = c :: after → c.toNat < 128 →
    left[1]?.any (· == 0x3d) = after.head?.any (· == '=')

theorem seen_of_split {source : String} {before rest : List Char}
    (split : source.toList = before ++ rest) :
    Seen (source.toUTF8.data.toList.drop (octets before).length) rest := by
  rw [drop_toUTF8 split]
  refine ⟨decode_octets rest, sameTest_isBlank.dropWhile rest,
    ⟨sameTest_isDigit.takeWhile rest, sameTest_isDigit.dropWhile rest⟩,
    ⟨sameTest_isNamePart.takeWhile rest, sameTest_isNamePart.dropWhile rest⟩, ?_⟩
  rintro c after rfl ascii
  rw [octets_ascii ascii, List.getElem?_cons_succ, ← List.head?_eq_getElem?]
  exact sameTest_equals.head? after

end ImpToC.Token
