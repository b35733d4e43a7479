import ImpToC.Lower
import ImpToC.Syntax.OfTokens

/-! From source text to a program and on to C, with the stage that refused a text named
in front of its reason. -/
namespace ImpToC

inductive SourceError where
  | scan (fault : ScanError)
  | parse (fault : ParseError)
  | generate (fault : LinkError)
  deriving DecidableEq, Repr

def SourceError.message : SourceError → String
  | scan fault => "scan error: " ++ fault.message
  | parse fault => "parse error: " ++ fault.message
  | generate fault => "code generation error: " ++ fault.message

def Program.ofSource (source : String) : Except SourceError Program :=
  match Token.ofSource source with
  | .error fault => .error (.scan fault)
  | .ok tokens =>
    match Program.ofTokens tokens with
    | .error fault => .error (.parse fault)
    | .ok program => .ok program

theorem Program.ofSource_eq_ok {source : String} {program : Program} :
    ofSource source = .ok program ↔
      ∃ tokens, Token.ofSource source = .ok tokens ∧ ofTokens tokens = .ok program := by
  rw [ofSource]
  cases Token.ofSource source with
  | error fault => simp
  | ok tokens => cases parsed : ofTokens tokens <;> simp [parsed]

def generateSource (source : String) : Except SourceError String :=
  match Program.ofSource source with
  | .error fault => .error fault
  | .ok program =>
    match program.toTree.generate with
    | .error fault => .error (.generate fault)
    | .ok text => .ok text

end ImpToC
