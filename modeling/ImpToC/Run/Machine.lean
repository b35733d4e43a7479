import Std.Data.HashMap
import ImpToC.Functions
import ImpToC.Syntax.OfTree

/-! The state of a running program: the global variables, the stack of calls in
progress, the steps it may still take, and the sink that takes what it prints. -/
namespace ImpToC

structure Limits where
  steps : Nat := 10000000
  callDepth : Nat := 1000
  deriving DecidableEq, Repr

inductive RunError where
  | divisionByZero
  | function (fault : FunctionError)
  | stepLimitExceeded (limit : Nat)
  | callDepthExceeded (limit : Nat)
  | malformedTree (fault : ShapeError)
  | output (reason : String)
  deriving DecidableEq, Repr

def RunError.message : RunError → String
  | divisionByZero => "division by zero"
  | function fault => fault.message
  | stepLimitExceeded limit => "program did not finish within " ++ toString limit ++ " steps"
  | callDepthExceeded limit => "call depth exceeded " ++ toString limit
  | malformedTree fault => "malformed tree: " ++ fault.message
  | output reason => "failed to write output: " ++ reason

class Sink (σ : Type) where
  put : Int64 → σ → σ × Option String

instance : Sink (Array Int64) where
  put value values := (values.push value, none)

/-- A text that takes a line per value, as long as there is room for it. Of a line that
does not fit, the part that does is kept. How often it was asked to get the text out is noted. -/
structure Writer where
  kept : String := ""
  room? : Option Nat := none
  whenFull : String := "disk full"
  flushFault? : Option String := none
  flushes : Nat := 0
  deriving DecidableEq, Repr

namespace Writer

def line (value : Int64) : String := toString value ++ "\n"

def put (value : Int64) (writer : Writer) : Writer × Option String :=
  let text := line value
  match writer.room? with
  | none => ({ writer with kept := writer.kept ++ text }, none)
  | some room =>
    if text.length ≤ room then
      ({ writer with kept := writer.kept ++ text, room? := some (room - text.length) }, none)
    else
      ({ writer with
          kept := writer.kept ++ String.ofList (text.toList.take room), room? := some 0 },
        some writer.whenFull)

instance : Sink Writer := ⟨put⟩

def flush (writer : Writer) : Writer × Option String :=
  ({ writer with flushes := writer.flushes + 1 }, writer.flushFault?)

end Writer

/-- A call in progress: the values of its parameters, and the value of the last
assignment or print it made itself. -/
structure Frame where
  params : List (String × Int64)
  result : Int64 := 0
  deriving DecidableEq, Repr

namespace Frame

def assign (name : String) (value : Int64) : List (String × Int64) → List (String × Int64)
  | [] => []
  | (param, old) :: rest =>
    if param = name then (param, value) :: rest else (param, old) :: assign name value rest

end Frame

structure Machine (σ : Type) where
  globals : Std.HashMap String Int64 := ∅
  frames : List Frame := []
  stepsLeft : Nat
  sink : σ

namespace Machine

variable {σ : Type}

/-- The value of a variable: a parameter of the innermost call if it has one of this
name, otherwise the global variable, which is 0 until it is assigned. -/
def load (machine : Machine σ) (name : String) : Int64 :=
  match machine.frames with
  | [] => machine.globals.getD name 0
  | frame :: _ =>
    match frame.params.lookup name with
    | some value => value
    | none => machine.globals.getD name 0

def store (name : String) (value : Int64) (machine : Machine σ) : Machine σ :=
  match machine with
  | { globals, frames := [], stepsLeft, sink } =>
    { globals := globals.insert name value, frames := [], stepsLeft, sink }
  | { globals, frames := frame :: frames, stepsLeft, sink } =>
    if (frame.params.lookup name).isSome then
      { globals, stepsLeft, sink,
        frames := { frame with params := Frame.assign name value frame.params } :: frames }
    else
      { globals := globals.insert name value, frames := frame :: frames, stepsLeft, sink }

def record (value : Int64) (machine : Machine σ) : Machine σ :=
  match machine with
  | { globals, frames := [], stepsLeft, sink } => { globals, frames := [], stepsLeft, sink }
  | { globals, frames := frame :: frames, stepsLeft, sink } =>
    { globals, frames := { frame with result := value } :: frames, stepsLeft, sink }

def enter (frame : Frame) (machine : Machine σ) : Machine σ :=
  { machine with frames := frame :: machine.frames }

def leave (machine : Machine σ) : Machine σ :=
  { machine with frames := machine.frames.tail }

def result (machine : Machine σ) : Int64 :=
  match machine.frames with
  | [] => 0
  | frame :: _ => frame.result

end Machine

end ImpToC
