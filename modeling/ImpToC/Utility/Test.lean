import ImpToC.Shell.Condition
import ImpToC.Utility.Basic

/-! The program `test`. Up to four words are read by their number alone, and more of them as
tests joined by operators. Words that are left over, or that are missing, are told. -/
namespace ImpToC.Utility

namespace Test
open Shell.Condition (View)

/-- A test stands on the words that are left, and complains in words. -/
abbrev Rule := EStateM String (List String)

structure Scene where
  view : View
  last : String

def isBinary (word : String) : Bool :=
  ["=", "!=", "==", "-nt", "-ot", "-ef", "-eq", "-ne", "-lt", "-le", "-gt", "-ge"].contains word

def isUnary (word : String) : Bool :=
  (Shell.Condition.unaryFile ++ ["-t", "-n", "-z", "-N"]).contains word

def isLetter (word : String) : Bool := word.startsWith "-" && word.length = 2

def Scene.beyond {α : Type} (scene : Scene) : Rule α :=
  throw ("missing argument after " ++ quote scene.last)

def Scene.take (scene : Scene) : Rule String := do
  match ← get with
  | [] => scene.beyond
  | word :: rest =>
    set rest
    return word

def skip : Rule Unit := modify List.tail

def integer (text : String) : Rule Int := do
  let blank := fun (c : Char) => c == ' ' || '\t' ≤ c && c ≤ '\r'
  let (sign, digits) := match text.toList.dropWhile blank with
    | '-' :: rest => ((-1 : Int), rest)
    | '+' :: rest => (1, rest)
    | rest => (1, rest)
  let number := digits.takeWhile Char.isDigit
  if number.isEmpty || !(digits.drop number.length).all blank then
    throw ("invalid integer " ++ quote text)
  else return sign * (number.foldl (fun n c => 10 * n + (c.toNat - 48)) 0 : Nat)

/-- A word that is true unless it is empty. -/
def one (scene : Scene) : Rule Bool := return !(← scene.take).isEmpty

def unary (scene : Scene) : Rule Bool := do
  let operator ← scene.take
  if !isUnary operator then throw (quote operator ++ ": unary operator expected")
  let operand ← scene.take
  match operator with
  | "-n" => return !operand.isEmpty
  | "-z" => return operand.isEmpty
  | "-N" => return false
  | "-t" =>
    let _ ← integer operand
    return false
  | _ => return Shell.Condition.fileTest scene.view operator operand

/-- Two words around an operator; `-l` in front of a word stands for its length. -/
def binary (scene : Scene) (measured : Bool) : Rule Bool := do
  if measured then skip
  let left ← scene.take
  let operator ← scene.take
  let measuredToo := match ← get with
    | "-l" :: _ :: _ => true
    | _ => false
  if measuredToo then skip
  let right ← scene.take
  let value := fun (isMeasured : Bool) (text : String) =>
    if isMeasured then (return (text.length : Int)) else integer text
  match operator with
  | "=" | "==" => return left == right
  | "!=" => return left != right
  | "-nt" | "-ot" | "-ef" =>
    if measured || measuredToo then throw (operator ++ " does not accept -l")
    match Shell.Condition.binary scene.view operator left right [] with
    | .ok holds _ => return holds
    | .error message _ => throw message
  | _ =>
    let a ← value measured left
    let b ← value measuredToo right
    match operator with
    | "-eq" => return a == b
    | "-ne" => return a != b
    | "-ge" => return b ≤ a
    | "-gt" => return b < a
    | "-le" => return a ≤ b
    | _ => return a < b

def two (scene : Scene) : Rule Bool := do
  match ← get with
  | "!" :: _ =>
    skip
    return !(← one scene)
  | word :: _ =>
    if isLetter word then unary scene else scene.beyond
  | [] => scene.beyond

def three (scene : Scene) (whole : Rule Bool) : Rule Bool := do
  match ← get with
  | first :: second :: third :: _ =>
    if isBinary second then binary scene false
    else if first = "!" then
      skip
      return !(← two scene)
    else if first = "(" && third = ")" then
      skip
      let value ← one scene
      skip
      return value
    else if second = "-a" || second = "-o" then whole
    else throw (quote second ++ ": binary operator expected")
  | _ => scene.beyond

def counted (scene : Scene) (whole : Rule Bool) : Nat → Rule Bool
  | 1 => one scene
  | 2 => two scene
  | 3 => three scene whole
  | 4 => do
    match ← get with
    | "!" :: _ =>
      skip
      return !(← three scene whole)
    | "(" :: _ :: _ :: ")" :: _ =>
      skip
      let value ← two scene
      skip
      return value
    | _ => whole
  | _ => whole

def span (words : List String) : Nat :=
  let inside := (words.drop 1).takeWhile (· != ")")
  if inside.length ≥ 3 then words.length else inside.length + 1

def term (scene : Scene) (whole : Rule Bool) : Nat → Rule Bool
  | 0 => scene.beyond
  | bound + 1 => do
    match ← get with
    | [] => scene.beyond
    | "!" :: rest =>
      if rest.isEmpty then scene.beyond
      skip
      return !(← term scene whole bound)
    | "(" :: rest =>
      if rest.isEmpty then scene.beyond
      skip
      let value ← counted scene whole (span rest)
      match ← get with
      | [] => throw "')' expected"
      | ")" :: rest =>
        set rest
        return value
      | word :: _ => throw ("')' expected, found " ++ word)
    | words =>
      let second := words.getD 1 ""
      if words.length ≥ 4 && words.head? == some "-l" && isBinary (words.getD 2 "") then
        binary scene true
      else if words.length ≥ 3 && isBinary second then binary scene false
      else if isLetter (words.headD "") then unary scene
      else one scene

def chain (operator : String) (part : Rule Bool) (combine : Bool → Bool → Bool) :
    Nat → Rule Bool
  | 0 => return false
  | bound + 1 => do
    let value ← part
    match ← get with
    | word :: rest =>
      if word = operator then
        set rest
        return combine value (← chain operator part combine bound)
      else return value
    | [] => return value

def whole (scene : Scene) : Nat → Rule Bool
  | 0 => return false
  | bound + 1 => do
    let size := (← get).length + 1
    let conjunction := chain "-a" (term scene (whole scene bound) size) (· && ·) size
    chain "-o" conjunction (· || ·) size

def holds (view : View) (words : List String) : Except String Bool :=
  if words.isEmpty then .ok false
  else
    let scene : Scene := ⟨view, words.getLastD ""⟩
    match counted scene (whole scene (words.length + 1)) words.length words with
    | .error message _ => .error message
    | .ok value [] => .ok value
    | .ok _ (extra :: _) => .error ("extra argument " ++ quote extra)

end Test

def testProgram (bracket : Bool) (args : List String) : Act Nat := do
  match bracket, args with
  | true, ["--help"] => answer 0 .help
  | true, ["--version"] => answer 0 .version
  | _, _ =>
    if bracket && args.getLast? != some "]" then
      complain "missing ']'"
      return 2
    match Test.holds ⟨← Act.files, (← Act.process).folder⟩
        (if bracket then args.dropLast else args) with
    | .ok value => return if value then 0 else 1
    | .error message =>
      complain message
      return 2

end ImpToC.Utility
