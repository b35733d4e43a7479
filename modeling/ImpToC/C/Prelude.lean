import ImpToC.C.Syntax

/-! The functions every generated file begins with. Sums, differences and products are
taken on unsigned numbers, where C lets them wrap; the two quotients that C leaves
undefined are caught before the division. -/
namespace ImpToC.C.Prelude

def divisionByZeroStatus : Nat := 2

def headers : List String := ["limits.h", "stdio.h", "stdlib.h"]

def wrapping (op : ArithOp) : Expr :=
  .cast .longLong (.paren (.binary (.arith op)
    (.cast .unsignedLongLong (.ident "a")) (.cast .unsignedLongLong (.ident "b"))))

def add : Function :=
  { isStatic := true, name := "rt_add", params := ["a", "b"], body := [.ret (wrapping .add)] }

def sub : Function :=
  { isStatic := true, name := "rt_sub", params := ["a", "b"], body := [.ret (wrapping .sub)] }

def mul : Function :=
  { isStatic := true, name := "rt_mul", params := ["a", "b"], body := [.ret (wrapping .mul)] }

def div : Function :=
  { isStatic := true, name := "rt_div", params := ["a", "b"],
    body :=
      [.ifThen (.binary (.rel .eq) (.ident "b") (.int 0))
        [.expr (.call "fflush" [.ident "stdout"]),
         .expr (.call "fputs" [.text "runtime error: division by zero\n", .ident "stderr"]),
         .expr (.call "exit" [.int divisionByZeroStatus])],
       .ifThen
        (.both (.binary (.rel .eq) (.ident "a") (.ident "LLONG_MIN"))
          (.binary (.rel .eq) (.ident "b") (.neg (.int 1))))
        [.ret (.ident "LLONG_MIN")],
       .ret (.binary (.arith .div) (.ident "a") (.ident "b"))] }

def print : Function :=
  { isStatic := true, name := "rt_print", params := ["value"],
    body :=
      [.expr (.call "printf" [.text "%lld\n", .ident "value"]), .ret (.ident "value")] }

def functions : List Function := [add, sub, mul, div, print]

def render : String :=
  "\n".intercalate (renderHeaders headers :: functions.map Function.render)

end ImpToC.C.Prelude
