import ImpToC.Shell.Format
import ImpToC.Text.Regex.Reader
import ImpToC.Utility.Basic

/-! Programs that compute: sequences of numbers, expressions. -/
namespace ImpToC.Utility

structure Decimal where
  parts : Int
  places : Nat

def tenTo (n : Nat) : Int := (Nat.pow 10 n : Nat)

/-- A decimal number with an optional sign, point and power of ten. -/
def decimal? (text : String) : Option Decimal :=
  let (negative, rest) := match text.toList.dropWhile (· == ' ') with
    | '-' :: rest => (true, rest)
    | '+' :: rest => (false, rest)
    | rest => (false, rest)
  let whole := rest.takeWhile Char.isDigit
  let rest := rest.drop whole.length
  let (fraction, rest) := match rest with
    | '.' :: rest =>
      let digits := rest.takeWhile Char.isDigit
      (digits, rest.drop digits.length)
    | _ => ([], rest)
  let power? : Option Int := match rest with
    | [] => some 0
    | e :: rest =>
      if e != 'e' && e != 'E' then none
      else
        let (down, digits) := match rest with
          | '-' :: digits => (true, digits)
          | '+' :: digits => (false, digits)
          | digits => (false, digits)
        (natural? (String.ofList digits)).map fun n => if down then -(n : Int) else n
  if whole.isEmpty && fraction.isEmpty then none
  else power?.map fun power =>
    let parts : Int := ((String.ofList (whole ++ fraction)).toNat?.getD 0 : Nat)
    let parts := if negative then -parts else parts
    let places : Int := fraction.length - power
    if places ≥ 0 then ⟨parts, places.toNat⟩ else ⟨parts * tenTo (-places).toNat, 0⟩

def Decimal.scaled (d : Decimal) (places : Nat) : Int := d.parts * tenTo (places - d.places)

/-- A number of parts with the given places after the point. -/
def decimalText (places : Nat) (parts : Int) : String :=
  let digits := toString parts.natAbs
  let digits := String.ofList (List.replicate (places + 1 - digits.length) '0') ++ digits
  let whole := digits.toList.take (digits.length - places)
  let fraction := digits.toList.drop (digits.length - places)
  (if parts < 0 then "-" else "") ++ String.ofList whole ++
    if places = 0 then "" else "." ++ String.ofList fraction

structure Sequence where
  first : Int
  step : Int
  last : Int
  places : Nat
  width : Nat
  format? : Option String
  separator : String

def Sequence.ended (s : Sequence) (n : Int) : Bool :=
  if s.step > 0 then decide (n > s.last) else decide (n < s.last)

def Sequence.text (s : Sequence) (n : Int) : String :=
  match s.format? with
  | some format =>
    (Shell.printf format.toList 2 [decimalText s.places n] {}).text
  | none =>
    let text := decimalText s.places n
    let sign := if n < 0 then "-" else ""
    let digits := (text.drop sign.length).toString
    sign ++ String.ofList (List.replicate (s.width - text.length) '0') ++ digits

def Sequence.run (s : Sequence) : Nat → Int → Act Unit
  | 0, _ => return
  | bound + 1, n => do
    if s.ended n then return
    let count := 500
    let numbers := ((List.range count).map fun (i : Nat) => n + s.step * (i : Int)).takeWhile
      fun n => !s.ended n
    print (String.join (numbers.map fun n =>
      s.text n ++ if s.ended (n + s.step) then "\n" else s.separator))
    Act.pause 10
    s.run bound (n + s.step * (count : Int))

def sequenceSpec : Spec :=
  { letters := "f:s:w", first := true,
    long := [("equal-width", 'w'), ("format", 'f'), ("separator", 's')] }

/-- The options of a sequence; a word that looks like a negative number is none. -/
def sequenceWords : Nat → List String → Parsed → Parsed
  | 0, words, parsed => { parsed with words }
  | bound + 1, words, parsed =>
    match words with
    | [] => parsed
    | "--" :: rest => { parsed with words := rest }
    | word :: rest =>
      match word.toList with
      | '-' :: c :: more =>
        if c.isDigit || c = '.' then { parsed with words }
        else match sequenceSpec.option (c :: more) rest parsed with
          | (parsed, some rest) => sequenceWords bound rest parsed
          | (parsed, none) => parsed
      | _ => { parsed with words }

def formatFault? (format : String) : Option String :=
  let start := "format " ++ quote format
  let rec skip : List Char → Option (List Char)
    | '%' :: '%' :: rest => skip rest
    | '%' :: rest => some rest
    | _ :: rest => skip rest
    | [] => none
  match skip format.toList with
  | none => some (start ++ " has no % directive")
  | some rest =>
    let rest := (rest.dropWhile fun c => "-+#0 \x27".toList.contains c).dropWhile Char.isDigit
    let rest := match rest with
      | '.' :: rest => rest.dropWhile Char.isDigit
      | rest => rest
    match rest with
    | [] => some (start ++ " ends in %")
    | letter :: rest =>
      if !("efgaEFGA".toList.contains letter) then
        some (start ++ " has unknown %" ++ String.singleton letter ++ " directive")
      else if (skip rest).isSome then some (start ++ " has too many % directives")
      else none

def seq (args : List String) : Act Nat :=
  sequenceSpec.settle (sequenceWords (args.length + 1) args {}) fun parsed => do
  match parsed.words with
  | [] => misuse "missing operand" 1
  | words =>
    if words.length > 3 then return ← misuse ("extra operand " ++ quote (words.getD 3 "")) 1
    if let some message := (parsed.value? 'f').bind formatFault? then
      complain message
      return 1
    if parsed.has 'f' && parsed.has 'w' then
      return ← misuse "format string may not be specified when printing equal width strings" 1
    match words.find? fun word => (decimal? word).isNone with
    | some word => misuse ("invalid floating point argument: " ++ quote word) 1
    | none =>
      let numbers := words.filterMap decimal?
      let one : Decimal := ⟨1, 0⟩
      let (first, step, last) := match numbers with
        | [last] => (one, one, last)
        | [first, last] => (first, one, last)
        | [first, step, last] => (first, step, last)
        | _ => (one, one, one)
      if step.parts = 0 then
        return ← misuse ("invalid Zero increment value: " ++ quote (words.getD 1 "")) 1
      let shown := max first.places step.places
      let places := max shown last.places
      -- The last number may have more places than are shown; the bound is cut to those.
      let bound := last.scaled places
      let unit := tenTo (places - shown)
      let bound := if step.parts > 0 then Int.fdiv bound unit else -(Int.fdiv (-bound) unit)
      let start := first.scaled shown
      let width := if parsed.has 'w' then
          max (decimalText shown start).length (decimalText shown bound).length
        else 0
      let sequence : Sequence :=
        { first := start, step := step.scaled shown, last := bound, places := shown, width,
          format? := parsed.value? 'f', separator := (parsed.value? 's').getD "\n" }
      sequence.run 1000000000 sequence.first
      return 0

structure ExprFault where
  message : String
  status : Nat

abbrev ExprRule := EStateM ExprFault (List String × String)

namespace Expr

def fail {α : Type} (message : String) (status : Nat) : ExprRule α := throw ⟨message, status⟩

def next : ExprRule String := do
  match ← get with
  | ([], before) => fail ("syntax error: missing argument after " ++ quote before) 2
  | (word :: rest, _) =>
    set (rest, word)
    return word

def peek? : ExprRule (Option String) := return (← get).1.head?

def integer? (text : String) : Option Int :=
  match text.toList with
  | '-' :: digits => (natural? (String.ofList digits)).map fun n => -(n : Int)
  | _ => (natural? text).map Int.ofNat

def isNull (text : String) : Bool := text.isEmpty || integer? text == some 0

def number (text : String) : ExprRule Int := match integer? text with
  | some n => return n
  | none => fail "non-integer argument" 2

def matches_ (text pattern : String) : ExprRule String := do
  match Regex.read { extended := false } pattern with
  | .error message => fail message 2
  | .ok regex =>
    let subject := Regex.Subject.ofString text false
    let grouped := pattern.contains '(' && (pattern.splitOn "\\(").length > 1
    match regex.matchAt? subject 0 with
    | none => return if grouped then "" else "0"
    | some found =>
      if grouped then
        let groups := if regex.hasAgain then found.groups
          else Regex.assign subject regex found.first found.last []
        return ({ found with groups } : Regex.Match).group subject 1
      else return toString found.last

def leftward (operators : List String) (operand : ExprRule String)
    (apply : String → String → String → ExprRule String) : Nat → String → ExprRule String
  | 0, value => return value
  | bound + 1, value => do
    match ← peek? with
    | some operator =>
      if operators.contains operator then
        let _ ← next
        let other ← operand
        leftward operators operand apply bound (← apply operator value other)
      else return value
    | none => return value

def compareWords (operator a b : String) : ExprRule String :=
  let order := match integer? a, integer? b with
    | some x, some y => compare x y
    | _, _ => compare a b
  let holds : Bool := match operator with
    | "<" => order == .lt
    | "<=" => order != .gt
    | "=" | "==" => order == .eq
    | "!=" => order != .eq
    | ">=" => order != .lt
    | _ => order == .gt
  return if holds then "1" else "0"

def arithmetic (operator a b : String) : ExprRule String := do
  let x ← number a
  let y ← number b
  match operator with
  | "+" => return toString (x + y)
  | "-" => return toString (x - y)
  | "*" => return toString (x * y)
  | _ =>
    if y = 0 then fail "division by zero" 2
    else return toString (if operator = "/" then Int.tdiv x y else Int.tmod x y)

/-- An expression of words; each level takes those that bind more tightly. -/
def level : Nat → Nat → ExprRule String
  | 0, _ => fail "syntax error" 2
  | bound + 1, n => do
    let inner := level bound (n + 1)
    match n with
    | 0 =>
      let first ← inner
      leftward ["|"] inner (fun _ a b =>
        return if !isNull a then a else if !isNull b then b else "0") bound first
    | 1 =>
      let first ← inner
      leftward ["&"] inner (fun _ a b => return if isNull a || isNull b then "0" else a) bound first
    | 2 =>
      let first ← inner
      leftward ["<", "<=", "=", "==", "!=", ">=", ">"] inner compareWords bound first
    | 3 =>
      let first ← inner
      leftward ["+", "-"] inner arithmetic bound first
    | 4 =>
      let first ← inner
      leftward ["*", "/", "%"] inner arithmetic bound first
    | 5 =>
      let first ← inner
      leftward [":"] inner (fun _ a b => matches_ a b) bound first
    | _ =>
      let word ← next
      match word with
      | "(" =>
        let value ← level bound 0
        match (← get).1 with
        | ")" :: rest =>
          set (rest, ")")
          return value
        | [] => fail ("syntax error: expecting ')' after " ++ quote (← get).2) 2
        | other :: _ => fail ("syntax error: expecting ')' instead of " ++ quote other) 2
      | ")" => fail "syntax error: unexpected ')'" 2
      | "+" => next
      | "length" => return toString (← level bound 6).length
      | "match" =>
        let text ← level bound 6
        matches_ text (← level bound 6)
      | "index" =>
        let text ← level bound 6
        let chars ← level bound 6
        return match text.toList.findIdx? fun c => chars.contains c with
          | some i => toString (i + 1)
          | none => "0"
      | "substr" =>
        let text ← level bound 6
        let start ← level bound 6
        let count ← level bound 6
        match integer? start, integer? count with
        | some i, some n =>
          if i ≤ 0 || n ≤ 0 then return ""
          else return String.ofList ((text.toList.drop (i.toNat - 1)).take n.toNat)
        | _, _ => return ""
      | word => return word

end Expr

def expr (args : List String) : Act Nat := do
  if args = ["--help"] then return ← answer 0 .help
  if args = ["--version"] then return ← answer 0 .version
  let args := match args with
    | "--" :: rest => rest
    | args => args
  if args.isEmpty then return ← misuse "missing operand" 2
  match (Expr.level (20 * args.length + 20) 0).run (args, "") with
  | .error fault _ =>
    complain fault.message
    return fault.status
  | .ok value (rest, _) =>
    match rest with
    | extra :: _ =>
      complain ("syntax error: unexpected argument " ++ quote extra)
      return 2
    | [] =>
      printLine value
      return if Expr.isNull value then 1 else 0

end ImpToC.Utility
