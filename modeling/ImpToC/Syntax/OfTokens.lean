import ImpToC.Syntax.Progress

/-! A program is a sequence of statements that uses up all its tokens. -/
namespace ImpToC

def Parse.statements (tokens : List Token) : Except ParseError (List Stmt) :=
  match tokens with
  | [] => .ok []
  | token :: rest =>
    match _read : Parse.statement Parse.maxLevels (token :: rest) with
    | .error fault => .error fault
    | .ok (first, left) =>
      match Parse.statements left with
      | .error fault => .error fault
      | .ok others => .ok (first :: others)
termination_by tokens.length
decreasing_by exact Parse.shrinks_statement _ _ _ _ _read

def Program.ofTokens (tokens : List Token) : Except ParseError Program :=
  match Parse.statements tokens with
  | .error fault => .error fault
  | .ok statements => .ok ⟨statements⟩

end ImpToC
