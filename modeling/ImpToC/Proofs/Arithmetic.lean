import Mathlib.Data.Int.ModEq
import ImpToC.Proofs.Lowering

/-! The arithmetic of programs against that of all integers. An operation gives what is left of its
exact result in 64 bits with a sign, and the functions of a generated file give the same in another
way: through numbers without a sign, and with two quotients caught before the division. -/
namespace ImpToC

def ArithOp.exact : ArithOp → Int → Int → Int
  | add, a, b => a + b
  | sub, a, b => a - b
  | mul, a, b => a * b
  | div, a, b => a.tdiv b

def RelOp.Relates : RelOp → Int → Int → Prop
  | eq, a, b => a = b
  | ne, a, b => a ≠ b
  | lt, a, b => a < b
  | le, a, b => a ≤ b
  | gt, a, b => a > b
  | ge, a, b => a ≥ b

namespace Signed

def InRange (n : Int) : Prop := -2 ^ 63 ≤ n ∧ n < 2 ^ 63

def Wraps (exact n : Int) : Prop := InRange n ∧ n ≡ exact [ZMOD 2 ^ 64]

instance (n : Int) : Decidable (InRange n) := inferInstanceAs (Decidable (_ ∧ _))

instance (exact n : Int) : Decidable (Wraps exact n) := inferInstanceAs (Decidable (_ ∧ _))

theorem inRange_toInt (a : Int64) : InRange a.toInt := ⟨a.le_toInt, a.toInt_lt⟩

theorem wraps_iff {exact n : Int} : Wraps exact n ↔ n = exact.bmod (2 ^ 64) := by
  simp only [Wraps, InRange, Int.ModEq, Int.bmod]
  constructor
  · rintro ⟨_, same⟩
    split <;> omega
  · rintro rfl
    split <;> omega

end Signed

open Signed

variable {a b c : Int64}

theorem ArithOp.toInt_result {op : ArithOp} (result : op.result? a b = some c) :
    c.toInt = (op.exact a.toInt b.toInt).bmod (2 ^ 64) := by
  cases op with
  | add =>
    cases result
    exact Int64.toInt_add a b
  | sub =>
    cases result
    exact Int64.toInt_sub a b
  | mul =>
    cases result
    exact Int64.toInt_mul a b
  | div =>
    rw [result?] at result
    split at result
    · cases result
    · cases result
      exact Int64.toInt_div a b

theorem ArithOp.wraps_result {op : ArithOp} (result : op.result? a b = some c) (n : Int) :
    Wraps (op.exact a.toInt b.toInt) n ↔ n = c.toInt := by
  rw [wraps_iff, toInt_result result]

/-- The numbers without a sign that the operands are read as give the same number, if their exact
result is cut down modulo 2 to the power 64 and read with a sign again. -/
theorem ArithOp.unsigned_result {op : ArithOp} (notDiv : op ≠ .div)
    (result : op.result? a b = some c) :
    ∃ w : UInt64, (w.toNat : Int) = op.exact a.toUInt64.toNat b.toUInt64.toNat % 2 ^ 64 ∧
      c = w.toInt64 := by
  cases op with
  | add =>
    cases result
    refine ⟨a.toUInt64 + b.toUInt64, ?_, by simp⟩
    rw [UInt64.toNat_add, exact]
    omega
  | sub =>
    cases result
    refine ⟨a.toUInt64 - b.toUInt64, ?_, by simp⟩
    have := b.toUInt64.toNat_lt
    rw [UInt64.toNat_sub, exact]
    omega
  | mul =>
    cases result
    refine ⟨a.toUInt64 * b.toUInt64, ?_, by simp⟩
    rw [UInt64.toNat_mul, exact]
    push_cast
    rfl
  | div => exact absurd rfl notDiv

theorem RelOp.holds_iff (op : RelOp) : op.holds a b = true ↔ op.Relates a.toInt b.toInt := by
  cases op <;>
    simp [holds, Relates, Int64.toInt_inj, Int64.lt_iff_toInt_lt, Int64.le_iff_toInt_le]

theorem Signed.inRange_quotient :
    InRange (a.toInt.tdiv b.toInt) ↔ ¬(a = Int64.minValue ∧ b = -1) := by
  constructor
  · rintro ⟨-, small⟩ ⟨rfl, rfl⟩
    revert small
    decide
  · intro small
    have quotient : (a / b).toInt = a.toInt.tdiv b.toInt := by
      by_cases least : a = Int64.minValue
      · exact Int64.toInt_div_of_ne_right a b fun minusOne => small ⟨least, minusOne⟩
      · exact Int64.toInt_div_of_ne_left a b least
    exact quotient ▸ inRange_toInt (a / b)

theorem C.Value.operate?_div_eq_none_iff :
    operate? (.arith .div) (.longLong a) (.longLong b) = none ↔
      b = 0 ∨ a = Int64.minValue ∧ b = -1 := by
  constructor
  · intro undefined
    by_contra caught
    rw [not_or] at caught
    rw [operate?_div caught.1 caught.2] at undefined
    cases undefined
  · rintro (rfl | ⟨rfl, rfl⟩)
    · rw [operate?, meet?_longLong]
      rfl
    · decide

namespace Lower

open C (State)

variable (linked : Linked) (rounds : Nat) (state : State)

theorem call_arith {op : ArithOp} (result : op.result? a b = some c) :
    linked.lower.call rounds (arithName op) [.longLong a, .longLong b] state =
      .ok (some (.longLong c)) state := by
  rw [call_of_not_functionName linked rounds fun name => functionName_ne_arithName name op]
  exact C.Prelude.preludeCall_arith rfl result

theorem call_div_zero (a : Int64) :
    ∃ after, linked.lower.call rounds (arithName .div) [.longLong a, .longLong 0] state =
      .error (.exited C.Prelude.divisionByZeroStatus) after := by
  rw [call_of_not_functionName linked rounds fun name => functionName_ne_arithName name .div]
  exact ⟨_, C.Prelude.preludeCall_div_zero rfl a⟩

end Lower

namespace Exec

variable {σ : Type}

theorem operate_of_some {op : Operator} (result : op.result? a b = some c) (machine : Machine σ) :
    operate op a b machine = .ok c machine := by
  simp only [operate, result]
  rfl

theorem operate_div_eq_error_iff (machine : Machine σ) :
    operate (.arith .div) a b machine = .error .divisionByZero machine ↔ b = 0 := by
  cases result : (Operator.arith .div).result? a b with
  | some c =>
    have nonzero : b ≠ 0 := fun zero => by
      rw [Operator.result?_eq_none_iff.2 ⟨rfl, zero⟩] at result
      cases result
    simp only [operate_of_some result, reduceCtorEq, nonzero]
  | none =>
    have zero := (Operator.result?_eq_none_iff.1 result).2
    simp only [operate, zero, iff_true]
    rfl

theorem operate_arith (linked : Linked) (rounds : Nat) (state : C.State) (machine : Machine σ)
    (op : ArithOp) (defined : ¬(op = .div ∧ b = 0)) :
    ∃ c, op.result? a b = some c ∧ operate (.arith op) a b machine = .ok c machine ∧
      (∀ n, Wraps (op.exact a.toInt b.toInt) n ↔ n = c.toInt) ∧
      linked.lower.call rounds (Lower.arithName op) [.longLong a, .longLong b] state =
        .ok (some (.longLong c)) state := by
  cases result : op.result? a b with
  | none =>
    have missing : (Operator.arith op).result? a b = none := result
    obtain ⟨same, zero⟩ := Operator.result?_eq_none_iff.1 missing
    cases same
    exact absurd ⟨rfl, zero⟩ defined
  | some c =>
    have found : (Operator.arith op).result? a b = some c := result
    exact ⟨c, rfl, operate_of_some found machine, op.wraps_result result,
      Lower.call_arith linked rounds state result⟩

theorem operate_rel (machine : Machine σ) (op : RelOp) :
    ∃ c, operate (.rel op) a b machine = .ok c machine ∧
      (c = 1 ∧ op.Relates a.toInt b.toInt ∨ c = 0 ∧ ¬op.Relates a.toInt b.toInt) ∧
      C.Value.operate? (.rel op) (.longLong a) (.longLong b) = some (.int c.toInt) := by
  refine ⟨ofBool (op.holds a b), operate_of_some rfl machine, ?_, ?_⟩
  · rw [← op.holds_iff]
    cases op.holds a b
    · exact .inr ⟨rfl, Bool.false_ne_true⟩
    · exact .inl ⟨rfl, rfl⟩
  · rw [C.Value.operate?_rel]
    cases op.holds a b <;> rfl

/-- Every operation on numbers of 64 bits with a sign gives the one number in range that differs
from its exact result by a multiple of 2 to the power 64, and the functions of a generated file
give that number too. For sums, differences and products it is also what the operands give when
they are read without a sign. A division fails if and only if the divisor is 0, where the file
exits instead. The division of C itself would have no meaning there and for the least number
divided by -1, so of what is left for it after these are caught nothing overflows. The comparisons
give 1 or 0 in the order of the integers. -/
theorem operate_exact (linked : Linked) (rounds : Nat) (state : C.State) (machine : Machine σ)
    (a b : Int64) :
    (∀ op : ArithOp, op ≠ .div → ∃ c,
      operate (.arith op) a b machine = .ok c machine ∧
      (∀ n, Wraps (op.exact a.toInt b.toInt) n ↔ n = c.toInt) ∧
      (∃ w : UInt64, (w.toNat : Int) = op.exact a.toUInt64.toNat b.toUInt64.toNat % 2 ^ 64 ∧
        c = w.toInt64) ∧
      linked.lower.call rounds (Lower.arithName op) [.longLong a, .longLong b] state =
        .ok (some (.longLong c)) state) ∧
    (operate (.arith .div) a b machine = .error .divisionByZero machine ↔ b = 0) ∧
    (b = 0 → ∃ after,
      linked.lower.call rounds (Lower.arithName .div) [.longLong a, .longLong b] state =
        .error (.exited C.Prelude.divisionByZeroStatus) after) ∧
    (b ≠ 0 → ∃ c,
      operate (.arith .div) a b machine = .ok c machine ∧
      (∀ n, Wraps (a.toInt.tdiv b.toInt) n ↔ n = c.toInt) ∧
      linked.lower.call rounds (Lower.arithName .div) [.longLong a, .longLong b] state =
        .ok (some (.longLong c)) state) ∧
    (C.Value.operate? (.arith .div) (.longLong a) (.longLong b) = none ↔
      b = 0 ∨ a = Int64.minValue ∧ b = -1) ∧
    (¬InRange (a.toInt.tdiv b.toInt) ↔ a = Int64.minValue ∧ b = -1) ∧
    ∀ op : RelOp, ∃ c,
      operate (.rel op) a b machine = .ok c machine ∧
      (c = 1 ∧ op.Relates a.toInt b.toInt ∨ c = 0 ∧ ¬op.Relates a.toInt b.toInt) ∧
      C.Value.operate? (.rel op) (.longLong a) (.longLong b) = some (.int c.toInt) := by
  refine ⟨fun op notDiv => ?_, operate_div_eq_error_iff machine, ?_, fun nonzero => ?_,
    C.Value.operate?_div_eq_none_iff, not_iff_comm.1 inRange_quotient.symm, operate_rel machine⟩
  · obtain ⟨c, result, operated, wraps, called⟩ :=
      operate_arith (b := b) linked rounds state machine op fun both => notDiv both.1
    exact ⟨c, operated, wraps, op.unsigned_result notDiv result, called⟩
  · rintro rfl
    exact Lower.call_div_zero linked rounds state a
  · obtain ⟨c, -, operated, wraps, called⟩ :=
      operate_arith linked rounds state machine .div fun both => nonzero both.2
    exact ⟨c, operated, wraps, called⟩

/-- The least number times -1 and divided by -1 is out of range, and wraps to itself. Without the
test that comes before it the division would have no meaning. -/
theorem operate_exact_least :
    let linked : Linked := ⟨⟨[]⟩, .empty⟩
    let machine : Machine (Array Int64) := { stepsLeft := 0, sink := #[] }
    let state : C.State := { globals := [] }
    let least := Int64.minValue
    (operate (.arith .mul) least (-1) machine = .ok least machine ∧
      linked.lower.call 0 (Lower.arithName .mul) [.longLong least, .longLong (-1)] state =
        .ok (some (.longLong least)) state) ∧
    (operate (.arith .div) least (-1) machine = .ok least machine ∧
      linked.lower.call 0 (Lower.arithName .div) [.longLong least, .longLong (-1)] state =
        .ok (some (.longLong least)) state) ∧
    C.Value.operate? (.arith .div) (.longLong least) (.longLong (-1)) = none := by
  intro linked machine state least
  obtain ⟨wrapping, -, -, quotient, undefined, -⟩ := operate_exact linked 0 state machine least (-1)
  refine ⟨?_, ?_, undefined.2 (.inr ⟨rfl, rfl⟩)⟩
  · obtain ⟨c, operated, wraps, -, called⟩ := wrapping .mul (by decide)
    have same : least.toInt = c.toInt := (wraps least.toInt).1 (by decide)
    cases Int64.toInt_inj.1 same
    exact ⟨operated, called⟩
  · obtain ⟨c, operated, wraps, called⟩ := quotient (by decide)
    have same : least.toInt = c.toInt := (wraps least.toInt).1 (by decide)
    cases Int64.toInt_inj.1 same
    exact ⟨operated, called⟩

end Exec

end ImpToC
