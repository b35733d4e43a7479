import ImpToC.Linked
import ImpToC.Run.Exec

/-! Running a tree: it is linked first, then its statements are executed on a fresh
machine. -/
namespace ImpToC

def Linked.run {σ : Type} [Sink σ] (linked : Linked) (limits : Limits) (sink : σ) :
    Except RunError Unit × σ :=
  match Stmt.execAll ⟨linked.table, limits⟩ limits.steps linked.program.statements
      { stepsLeft := limits.steps, sink } with
  | .ok () machine => (.ok (), machine.sink)
  | .error fault machine => (.error fault, machine.sink)

def LinkError.toRunError : LinkError → RunError
  | malformedTree fault => .malformedTree fault
  | function fault => .function fault

namespace Tree

def run {σ : Type} [Sink σ] (tree : Tree) (limits : Limits) (sink : σ) :
    Except RunError Unit × σ :=
  match Linked.ofTree tree with
  | .error fault => (.error fault.toRunError, sink)
  | .ok linked => linked.run limits sink

def values (tree : Tree) (limits : Limits) : Except RunError (Array Int64) :=
  match tree.run limits (#[] : Array Int64) with
  | (.ok (), printed) => .ok printed
  | (.error fault, _) => .error fault

/-- Writes what a program prints; a program that ran to its end still has to get the
written text out. -/
def write (tree : Tree) (limits : Limits) (writer : Writer) : Except RunError Unit × Writer :=
  match tree.run limits writer with
  | (.ok (), writer) =>
    match writer.flush with
    | (writer, none) => (.ok (), writer)
    | (writer, some reason) => (.error (.output reason), writer)
  | (.error fault, writer) => (.error fault, writer)

end Tree

end ImpToC
