import ImpToC.Functions
import ImpToC.Syntax.OfTree

/-! Linked programs: programs together with the table of their functions, in which every
call resolves. Running a tree and turning it into C both start from its linked program,
so they refuse the same trees for the same reasons. -/
namespace ImpToC

inductive LinkError where
  | malformedTree (fault : ShapeError)
  | function (fault : FunctionError)
  deriving DecidableEq, Repr

def LinkError.message : LinkError → String
  | malformedTree fault => "malformed tree: " ++ fault.message
  | function fault => fault.message

structure Linked where
  program : Program
  table : Table Stmt

namespace Linked

/-- Declarations are collected first, so a repeated declaration is reported before any
call that does not resolve. -/
def ofProgram (program : Program) : Except FunctionError Linked :=
  match Table.ofDeclarations program.declarations with
  | .error fault => .error fault
  | .ok table =>
    match table.checkCalls program.calls with
    | .error fault => .error fault
    | .ok () => .ok ⟨program, table⟩

def ofTree (tree : Tree) : Except LinkError Linked :=
  match Program.ofTree tree with
  | .error fault => .error (.malformedTree fault)
  | .ok program =>
    match ofProgram program with
    | .error fault => .error (.function fault)
    | .ok linked => .ok linked

end Linked

end ImpToC
