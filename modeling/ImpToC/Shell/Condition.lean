import ImpToC.Shell.Formula
import ImpToC.Shell.Process

/-! Conditions, as `test` and `[` evaluate them: on texts, numbers and files. -/
namespace ImpToC.Shell.Condition

def unaryFile : List String :=
  ["-r", "-w", "-x", "-e", "-f", "-d", "-c", "-b", "-p", "-u", "-g", "-k", "-s", "-h", "-L", "-S",
   "-O", "-G"]

def isUnary (word : String) : Bool := ["-t", "-z", "-n"].contains word || unaryFile.contains word

def isBinary (word : String) : Bool :=
  ["=", "!=", "<", ">", "-eq", "-ne", "-ge", "-gt", "-le", "-lt", "-nt", "-ot", "-ef"].contains word

inductive Kind where
  | missing | operand | unary | binary | not | and | or | open | close
  deriving DecidableEq

/-- What the first of some words is, given those after it: a unary operator with nothing to
work on is an operand like others. -/
def kind : List String → Kind
  | [] => .missing
  | word :: rest =>
    if isUnary word then
      match rest with
      | [] => .operand
      | [_] => .unary
      | second :: _ => if isBinary second then .operand else .unary
    else if isBinary word then .binary
    else match word with
      | "!" => .not
      | "-a" => .and
      | "-o" => .or
      | "(" => if rest.isEmpty then .operand else .open
      | ")" => .close
      | _ => .operand

structure View where
  files : FileSystem
  folder : Nat

abbrev Rule := EStateM String (List String)

def fileTest (view : View) (operator path : String) : Bool :=
  let follow := operator != "-h" && operator != "-L"
  match view.files.resolve view.folder path follow with
  | .error _ => false
  | .ok n =>
    let inode := view.files.node n
    match operator with
    | "-e" => true
    | "-f" => inode.isFile
    | "-d" => inode.isFolder
    | "-h" | "-L" => inode.isLink
    | "-s" => inode.isFolder || inode.bytes.size > 0
    | "-r" => inode.allows 4
    | "-w" => inode.allows 2
    | "-x" => inode.allows 1
    | "-c" => match inode.content with
      | .device _ => true
      | _ => false
    | "-O" | "-G" => inode.owned
    | "-u" => inode.mode / 2048 % 2 == 1
    | "-g" => inode.mode / 1024 % 2 == 1
    | "-k" => inode.mode / 512 % 2 == 1
    | _ => false

def number (text : String) : Rule Int :=
  match Formula.signed? 10 text.toList with
  | some (value, rest) =>
    if rest.all Formula.isBlank && Formula.smallest ≤ value && value ≤ Formula.largest then
      return value
    else throw ("Illegal number: " ++ text)
  | none => throw ("Illegal number: " ++ text)

def binary (view : View) (operator left right : String) : Rule Bool := do
  let stamp := fun (path : String) => match view.files.resolve view.folder path true with
    | .ok n => some (n, (view.files.node n).stamp)
    | .error _ => none
  match operator with
  | "=" => return left == right
  | "!=" => return left != right
  | "<" => return decide (left < right)
  | ">" => return decide (right < left)
  | "-nt" => return match stamp left, stamp right with
    | some (_, a), some (_, b) => b < a
    | _, _ => false
  | "-ot" => return match stamp left, stamp right with
    | some (_, a), some (_, b) => a < b
    | _, _ => false
  | "-ef" => return match stamp left, stamp right with
    | some (m, _), some (n, _) => m == n
    | _, _ => false
  | _ =>
    let a ← number left
    let b ← number right
    match operator with
    | "-eq" => return a == b
    | "-ne" => return a != b
    | "-ge" => return b ≤ a
    | "-gt" => return b < a
    | "-le" => return a ≤ b
    | _ => return a < b

def skip : Rule Unit := modify List.tail

/-- A test, at the first of the words that are left; it stops at the last word it uses. -/
def primary (view : View) (whole : Kind → Rule Bool) (first : Kind) : Rule Bool := do
  match first, ← get with
  | .missing, _ => return false
  | .open, _ =>
    skip
    let inside := kind (← get)
    if inside = .close then return false
    let value ← whole inside
    skip
    if kind (← get) ≠ .close then throw "closing paren expected"
    return value
  | .unary, operator :: _ =>
    skip
    match ← get with
    | [] => throw (operator ++ ": argument expected")
    | operand :: _ =>
      match operator with
      | "-z" => return operand.isEmpty
      | "-n" => return !operand.isEmpty
      | "-t" =>
        let _ ← number operand
        return false
      | _ => return fileTest view operator operand
  | _, left :: rest =>
    match rest with
    | operator :: more =>
      if isBinary operator then
        match more with
        | [] => throw (operator ++ ": argument expected")
        | right :: _ =>
          let value ← binary view operator left right
          skip
          skip
          return value
      else return !left.isEmpty
    | [] => return !left.isEmpty
  | _, [] => return false

def negation (view : View) (whole : Kind → Rule Bool) : Nat → Kind → Rule Bool
  | 0, _ => return false
  | bound + 1, first => do
    if first ≠ .not then primary view whole first
    else
      let next := kind (← get).tail
      if next ≠ .missing then skip
      return !(← negation view whole bound next)

def chain (operator : Kind) (one : Kind → Rule Bool) (combine : Bool → Bool → Bool) :
    Nat → Kind → Rule Bool
  | 0, _ => return false
  | bound + 1, first => do
    let value ← one first
    if kind (← get).tail = operator then
      skip
      skip
      let more ← chain operator one combine bound (kind (← get))
      return combine value more
    else return value

def whole (view : View) : Nat → Kind → Rule Bool
  | 0, _ => return false
  | bound + 1, first => do
    let size := (← get).length + 1
    let conjunction := chain .and (negation view (whole view bound) size) (· && ·) size
    chain .or conjunction (· || ·) size first

def fromFirst (view : View) (words : List String) (first : Kind) : Except String Bool :=
  match whole view (words.length + 1) first words with
  | .error message _ => .error message
  | .ok value left => match left with
    | last :: _ :: _ => .error (last ++ ": unexpected operator")
    | _ => .ok value

/-- The truth of a condition. With three or four words a binary operator in the middle,
parentheses around and a negation in front are seen first. -/
def holds (view : View) : List String → Except String Bool
  | [] => .ok false
  | [left, operator, right] =>
    if isBinary operator then fromFirst view [left, operator, right] .operand
    else if left = "(" && right = ")" then fromFirst view [operator] (kind [operator])
    else if left = "!" then (holds view [operator, right]).map (!·)
    else fromFirst view [left, operator, right] (kind [left, operator, right])
  | [first, second, third, fourth] =>
    if first = "(" && fourth = ")" then fromFirst view [second, third] (kind [second, third])
    else if first = "!" then
      -- Two negations in a row count as one here.
      (if second = "!" && !isBinary third then fromFirst view [third, fourth] (kind [third, fourth])
        else holds view [second, third, fourth]).map (!·)
    else fromFirst view [first, second, third, fourth] (kind [first, second, third, fourth])
  | words => fromFirst view words (kind words)

end ImpToC.Shell.Condition
