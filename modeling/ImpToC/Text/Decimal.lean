import Std.Data.String.ToNat

/-! Decimal numerals. A numeral stands for a nonnegative 64-bit value and has one
accepted spelling, the decimal text of its value, so two numerals are equal exactly
when their spellings are. -/
namespace ImpToC.Decimal

def maxValue : Nat := 9223372036854775807

def digit (c : Char) : Nat := c.toNat - '0'.toNat

def value (digits : List Char) : Nat :=
  digits.foldl (fun total c => 10 * total + digit c) 0

def canonical? (digits : List Char) : Option String :=
  if value digits ≤ maxValue then some (toString (value digits)) else none

/-- Whether a text is the decimal text of its own value and that value is in range. -/
def isCanonical (text : String) : Bool :=
  text == toString (value text.toList) && value text.toList ≤ maxValue

theorem value_toString (n : Nat) : value (toString n).toList = n := by
  rw [Nat.toString_eq_repr, Nat.toList_repr]
  exact Nat.ofDigitChars_eq_foldl.symm.trans (Nat.ofDigitChars_toDigits (by omega) (by omega))

theorem isDigit_of_mem_toString {n : Nat} {c : Char} (mem : c ∈ (toString n).toList) :
    c.isDigit := by
  rw [Nat.toString_eq_repr, Nat.toList_repr] at mem
  exact Nat.isDigit_of_mem_toDigits (by decide) (by decide) mem

theorem isCanonical_iff {text : String} :
    isCanonical text ↔ ∃ n, n ≤ maxValue ∧ text = toString n := by
  simp only [isCanonical, Bool.and_eq_true, beq_iff_eq, decide_eq_true_eq]
  constructor
  · exact fun ⟨same, fits⟩ => ⟨_, fits, same⟩
  · rintro ⟨n, fits, rfl⟩
    rw [value_toString]
    exact ⟨rfl, fits⟩

end ImpToC.Decimal
