import ImpToC.Token

/-! Arithmetic on 64-bit two's-complement numbers. Sums, differences and products wrap,
quotients are cut toward zero, and comparisons give 1 or 0. Division by zero is the only
operation without a result. -/
namespace ImpToC

def ofBool (b : Bool) : Int64 := if b then 1 else 0

def ArithOp.result? : ArithOp → Int64 → Int64 → Option Int64
  | add, a, b => some (a + b)
  | sub, a, b => some (a - b)
  | mul, a, b => some (a * b)
  | div, a, b => if b = 0 then none else some (a / b)

def RelOp.holds : RelOp → Int64 → Int64 → Bool
  | eq, a, b => a == b
  | ne, a, b => a != b
  | lt, a, b => a < b
  | le, a, b => a ≤ b
  | gt, a, b => b < a
  | ge, a, b => b ≤ a

def Operator.result? : Operator → Int64 → Int64 → Option Int64
  | arith op, a, b => op.result? a b
  | rel op, a, b => some (ofBool (op.holds a b))

theorem Operator.result?_eq_none_iff {op : Operator} {a b : Int64} :
    op.result? a b = none ↔ op = .arith .div ∧ b = 0 := by
  cases op with
  | arith op => cases op <;> simp [result?, ArithOp.result?]
  | rel op => simp [result?]

end ImpToC
