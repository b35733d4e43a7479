import ImpToC.Arith
import ImpToC.Run.Machine
import ImpToC.Proofs.Execution
import ImpToC.Proofs.Names

/-! What the functions that every file begins with do. The arithmetic of the source is
computed on unsigned numbers and brought back, which wraps as the source does, and the
two quotients that C leaves undefined never reach the division. -/
namespace ImpToC.C

namespace Value

theorem convert?_ofBool (b : Bool) :
    convert? .longLong (ofBool b) = some (.longLong (ImpToC.ofBool b)) := by
  cases b <;> rfl

theorem meet?_longLong (a b : Int64) :
    meet? (.longLong a) (.longLong b) = some (.longLong, a.toInt, b.toInt) := by
  simp [meet?, ty?, Ty.common, number?]

theorem holds_toInt (op : RelOp) (a b : Int64) : holds op a.toInt b.toInt = op.holds a b := by
  rw [Bool.eq_iff_iff]
  cases op <;>
    simp [holds, RelOp.holds, Int64.toInt_inj, Int64.lt_iff_toInt_lt, Int64.le_iff_toInt_le]

theorem operate?_rel (op : RelOp) (a b : Int64) :
    operate? (.rel op) (.longLong a) (.longLong b) = some (ofBool (op.holds a b)) := by
  simp [operate?, meet?_longLong, holds_toInt]

theorem operate?_int (op : Operator) (a : Int64) (n : Int) :
    operate? op (.longLong a) (.int n) = operate? op (.longLong a) (.longLong (Int64.ofInt n)) := by
  simp only [operate?, meet?, ty?, Ty.common, convert?, number?, Option.bind_eq_bind,
    Option.bind_some, Int64.ofInt_toInt]

theorem isTrue?_ofBool (b : Bool) : isTrue? (ofBool b) = some b := by cases b <;> rfl

theorem ofInt_unsigned (n : Int) : Int64.ofInt (UInt64.ofInt n).toNat = Int64.ofInt n := by
  rw [← Int64.toInt_inj, Int64.toInt_ofInt, Int64.toInt_ofInt]
  simp only [UInt64.ofInt, UInt64.toNat_ofNat']
  have small : (n % 2 ^ 64).toNat < 2 ^ 64 := by omega
  rw [Nat.mod_eq_of_lt small, Int.toNat_of_nonneg (by omega)]
  exact Int.emod_bmod n Int64.size

theorem unsigned_ofInt_toNat (u : UInt64) : UInt64.ofInt u.toNat = u := by
  apply UInt64.toNat_inj.1
  have small := u.toNat_lt
  simp only [UInt64.ofInt, UInt64.toNat_ofNat']
  omega

/-- Sums, differences and products on unsigned numbers, brought back, are those of the
source. -/
theorem operate?_unsigned {op : ArithOp} (notDiv : op ≠ .div) (a b : Int64) :
    ∃ wide, operate? (.arith op) (.unsignedLongLong (UInt64.ofInt a.toInt))
        (.unsignedLongLong (UInt64.ofInt b.toInt)) = some wide ∧
      wide.convert? .longLong = (op.result? a b).map .longLong := by
  cases op with
  | div => exact absurd rfl notDiv
  | _ =>
    simp only [operate?, meet?, ty?, Ty.common, convert?, number?, unsigned_ofInt_toNat, integer?,
      fit?, ArithOp.result?, Option.bind_eq_bind, Option.bind_some, Option.pure_def,
      Option.some.injEq, exists_eq_left', Option.map_some, ofInt_unsigned,
      Int64.ofInt_add, Int64.ofInt_sub, Int64.ofInt_mul, Int64.ofInt_toInt]

theorem operate?_div {a b : Int64} (nonzero : b ≠ 0)
    (small : ¬(a = Int64.minValue ∧ b = -1)) :
    operate? (.arith .div) (.longLong a) (.longLong b) = some (.longLong (a / b)) := by
  have quotient : (a / b).toInt = a.toInt.tdiv b.toInt := by
    by_cases least : a = Int64.minValue
    · exact Int64.toInt_div_of_ne_right a b fun minusOne => small ⟨least, minusOne⟩
    · exact Int64.toInt_div_of_ne_left a b least
  have divisor : b.toInt ≠ 0 := fun zero => nonzero (Int64.toInt_inj.1 zero)
  simp only [operate?, meet?_longLong, Option.bind_eq_bind, Option.bind_some, integer?,
    if_neg divisor, fit?, longLong?, ← quotient, Int64.minValue_le_toInt, Int64.toInt_le,
    and_self, if_true, Int64.ofInt_toInt]

end Value

namespace Prelude

variable {file : File} {rounds : Nat} {state : State}

/-- What the parameters of a function of two numbers are bound to. -/
def pair (a b : Int64) : List (String × Value) := [("a", .longLong a), ("b", .longLong b)]

section

variable {inner : State} {a b : Int64} (inside : inner.locals = pair a b)

include inside

theorem read?_left : inner.read? "a" = some (.longLong a) := by
  simp only [State.read?, inside]
  rfl

theorem read?_right : inner.read? "b" = some (.longLong b) := by
  simp only [State.read?, inside]
  rfl

theorem value?_wrapping {op : ArithOp} (notDiv : op ≠ .div) :
    (wrapping op).value? inner = (op.result? a b).map .longLong := by
  obtain ⟨wide, computed, narrowed⟩ := Value.operate?_unsigned notDiv a b
  simp only [wrapping, Expr.value?, read?_left inside, read?_right inside, Option.bind_eq_bind,
    Option.bind_some, Value.convert?, Value.number?]
  rw [computed]
  exact narrowed

theorem test_zero (calls : Calls) :
    (Expr.binary (.rel .eq) (.ident "b") (.int 0)).test calls inner = .ok (b == 0) inner := by
  have value := (Value.operate?_int (.rel .eq) b 0).trans (Value.operate?_rel .eq b 0)
  refine Expr.test_of_value? ?_ (Value.isTrue?_ofBool _)
  simp only [Expr.value?, read?_right inside, Option.bind_eq_bind, Option.bind_some]
  exact value

theorem test_overflow (calls : Calls) :
    (Expr.both (.binary (.rel .eq) (.ident "a") (.ident "LLONG_MIN"))
        (.binary (.rel .eq) (.ident "b") (.neg (.int 1)))).test calls inner =
      .ok (a == Int64.minValue && b == -1) inner := by
  have least : inner.read? "LLONG_MIN" = some (.longLong Int64.minValue) := rfl
  have minusOne : ((Value.int? (1 : Nat)).bind fun one => one.negate?) = some (.int (-1)) := rfl
  have left := Value.operate?_rel .eq a Int64.minValue
  have right := (Value.operate?_int (.rel .eq) b (-1)).trans (Value.operate?_rel .eq b (-1))
  refine Expr.test_of_value? ?_ (Value.isTrue?_ofBool _)
  simp only [Expr.value?, read?_left inside, read?_right inside, least, minusOne, left, right,
    Option.bind_eq_bind, Option.bind_some, Option.pure_def, Value.isTrue?_ofBool, RelOp.holds]
  cases a == Int64.minValue <;> rfl

theorem value?_quotient (nonzero : b ≠ 0) (small : ¬(a = Int64.minValue ∧ b = -1)) :
    (Expr.binary (.arith .div) (.ident "a") (.ident "b")).value? inner =
      some (.longLong (a / b)) := by
  simp only [Expr.value?, read?_left inside, read?_right inside, Option.bind_eq_bind,
    Option.bind_some]
  exact Value.operate?_div nonzero small

/-- The least number divided by -1 never reaches the division. -/
theorem execAll_div (nonzero : b ≠ 0) :
    Stmt.execAll Library.call rounds div.body inner =
      .ok (.returned (.longLong (a / b))) inner := by
  have notZero : (b == 0) = false := beq_false_of_ne nonzero
  have first := test_zero inside Library.call
  rw [notZero] at first
  rw [div, Stmt.execAll_cons_of_next (Stmt.exec_ifThen_of_false first)]
  have second := test_overflow inside Library.call
  by_cases overflow : a = Int64.minValue ∧ b = -1
  · obtain ⟨rfl, rfl⟩ := overflow
    have least : Stmt.execAll Library.call rounds [.ret (.ident "LLONG_MIN")] inner =
        .ok (.returned (.longLong Int64.minValue)) inner := rfl
    have block := Act.block_of_ok least
    rw [State.leaveBlock_self] at block
    exact Stmt.execAll_cons_of_flow ((Stmt.exec_ifThen_of_true second).trans block) nofun
  · have small : (a == Int64.minValue && b == -1) = false := by simpa using overflow
    rw [small] at second
    rw [Stmt.execAll_cons_of_next (Stmt.exec_ifThen_of_false second), Stmt.execAll_singleton]
    exact Stmt.exec_ret (Expr.result_of_value? (value?_quotient inside nonzero overflow))

/-- What was written so far is flushed and the status says what happened. -/
theorem execAll_div_zero (zero : b = 0) :
    Stmt.execAll Library.call rounds div.body inner =
      .error (.exited divisionByZeroStatus)
        (inner.print .err "runtime error: division by zero\n") := by
  have first := test_zero inside Library.call
  rw [zero, beq_self_eq_true] at first
  rw [div]
  refine Stmt.execAll_cons_of_error ((Stmt.exec_ifThen_of_true first).trans ?_)
  exact Act.block_of_error rfl

end

theorem formatted?_line (a : Int64) :
    Library.formatted? "%lld\n".toList [.longLong a] = some (Writer.line a) := by
  have number : "%lld\n".toList = ['%', 'l', 'l', 'd', '\n'] := rfl
  simp only [number, Library.formatted?, Option.pure_def, Option.bind_eq_bind, Writer.line]
  rfl

theorem call_printf (format : String) (args : List Value) (state : State) :
    Library.call "printf" (.text format :: args) state =
      match Library.formatted? format.toList args with
      | some text => .ok none (state.print .out text)
      | none => .error .undefined state := rfl

theorem execAll_print {inner : State} {a : Int64}
    (inside : inner.locals = [("value", .longLong a)]) :
    Stmt.execAll Library.call rounds print.body inner =
      .ok (.returned (.longLong a)) (inner.print .out (Writer.line a)) := by
  have read (now : State) (same : now.locals = inner.locals) :
      now.read? "value" = some (.longLong a) := by
    simp only [State.read?, same, inside]
    rfl
  have args : Expr.values? inner [.text "%lld\n", .ident "value"] =
      some [.text "%lld\n", .longLong a] := by
    simp only [Expr.values?, Expr.value?, read inner rfl]
    rfl
  have printed : Library.call "printf" [.text "%lld\n", .longLong a] inner =
      .ok none (inner.print .out (Writer.line a)) := by
    rw [call_printf, formatted?_line]
  rw [print, Stmt.execAll_cons_of_next (Stmt.exec_expr ((Expr.eval_call args).trans printed)),
    Stmt.execAll_singleton]
  exact Stmt.exec_ret (Expr.result_of_value? (read (inner.print .out (Writer.line a)) rfl))

section

variable (starts : file.prelude = functions)

include starts

theorem preludeCall_eq {function : Function} {callee : String}
    (found : (functions.find? fun f => f.name == callee) = some function) (args : List Value) :
    file.preludeCall rounds callee args =
      function.call (Stmt.execAll Library.call rounds) args := by
  simp only [File.preludeCall, starts, found]

theorem preludeCall_pair {function : Function} {callee : String} {a b c : Int64}
    (found : (functions.find? fun f => f.name == callee) = some function)
    (params : function.params = ["a", "b"]) (returns : function.returns = .longLong)
    (ran : ∀ inner : State, inner.locals = pair a b →
      Stmt.execAll Library.call rounds function.body inner = .ok (.returned (.longLong c)) inner) :
    file.preludeCall rounds callee [.longLong a, .longLong b] state =
      .ok (some (.longLong c)) state := by
  have bound : function.bind? ([a, b].map .longLong) = some (pair a b) := by
    rw [Function.bind?_longLong (by rw [params]; rfl), params]
    rfl
  have fits : (Value.longLong c).convert? function.returns = some (.longLong c) := by
    rw [returns, Value.convert?_longLong]
  have done := Function.call_of_returned bound (ran { state with locals := pair a b } rfl) fits
  rw [preludeCall_eq starts found]
  exact done

theorem preludeCall_wrapping {function : Function} {op : ArithOp} {a b c : Int64}
    (notDiv : op ≠ .div) (result : op.result? a b = some c)
    (found : (functions.find? fun f => f.name == Lower.arithName op) = some function)
    (params : function.params = ["a", "b"]) (returns : function.returns = .longLong)
    (body : function.body = [.ret (wrapping op)]) :
    file.preludeCall rounds (Lower.arithName op) [.longLong a, .longLong b] state =
      .ok (some (.longLong c)) state := by
  refine preludeCall_pair starts found params returns fun inner inside => ?_
  have value := value?_wrapping inside notDiv
  rw [result] at value
  rw [body, Stmt.execAll_singleton]
  exact Stmt.exec_ret (Expr.result_of_value? value)

theorem preludeCall_arith {op : ArithOp} {a b c : Int64} (result : op.result? a b = some c) :
    file.preludeCall rounds (Lower.arithName op) [.longLong a, .longLong b] state =
      .ok (some (.longLong c)) state := by
  cases op with
  | add => exact preludeCall_wrapping starts (by decide) result rfl rfl rfl rfl
  | sub => exact preludeCall_wrapping starts (by decide) result rfl rfl rfl rfl
  | mul => exact preludeCall_wrapping starts (by decide) result rfl rfl rfl rfl
  | div =>
    rw [ArithOp.result?] at result
    split at result
    · cases result
    · rename_i nonzero
      cases result
      exact preludeCall_pair starts rfl rfl rfl fun inner inside => execAll_div inside nonzero

theorem preludeCall_div_zero (a : Int64) :
    file.preludeCall rounds (Lower.arithName .div) [.longLong a, .longLong 0] state =
      .error (.exited divisionByZeroStatus)
        (State.print .err "runtime error: division by zero\n"
          { state with locals := pair a 0 }) := by
  have bound : div.bind? ([a, 0].map .longLong) = some (pair a 0) := Function.bind?_longLong rfl
  rw [preludeCall_eq starts rfl]
  exact Function.call_of_error bound (execAll_div_zero rfl rfl)

theorem preludeCall_print (a : Int64) :
    file.preludeCall rounds "rt_print" [.longLong a] state =
      .ok (some (.longLong a)) (state.print .out (Writer.line a)) := by
  have bound : print.bind? ([a].map .longLong) = some [("value", .longLong a)] :=
    Function.bind?_longLong rfl
  have ran : Stmt.execAll Library.call rounds print.body
      { state with locals := [("value", .longLong a)] } = _ := execAll_print rfl
  rw [preludeCall_eq starts rfl]
  exact Function.call_of_returned bound ran (Value.convert?_longLong a)

end

end Prelude

end ImpToC.C
