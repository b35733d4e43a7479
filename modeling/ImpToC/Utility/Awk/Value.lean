import ImpToC.Shell.Format
import ImpToC.Utility.Awk.Syntax

/-! Values, which are numbers, texts, or texts from the input that look like numbers. -/
namespace ImpToC.Utility.Awk

inductive Value where
  | none
  | number (x : Float)
  | text (s : String)
  | both (s : String) (x : Float)
  deriving Inhabited

namespace Value

def isBlankChar (c : Char) : Bool := c = ' ' || c = '\t' || c = '\n' || c = '\r'

def ofInput (s : String) : Value :=
  match Floating.signed? s.toList with
  | some (x, rest) => if rest.all isBlankChar then both s x else text s
  | .none => text s

def leading (text : List Char) : Option Float :=
  let (sign, digits) : Float × List Char := match text.dropWhile isBlankChar with
    | '-' :: rest => (-1, rest)
    | '+' :: rest => (1, rest)
    | rest => (1, rest)
  let isHex := fun (c : Char) => c.isDigit || ('a' ≤ c && c ≤ 'f') || ('A' ≤ c && c ≤ 'F')
  match digits with
  | '0' :: x :: rest =>
    let hex := rest.takeWhile isHex
    if (x = 'x' || x = 'X') && !hex.isEmpty then
      some (sign * hex.foldl (fun value c => 16 * value + (Shell.Formula.digitValue c).toFloat) 0)
    else (Floating.signed? text).map Prod.fst
  | _ => (Floating.signed? text).map Prod.fst

def toNumber : Value → Float
  | none => 0
  | number x => x
  | both _ x => x
  | text s => (leading s.toList).getD 0

/-- Whether a number is a whole one that is written without a point. -/
def isWhole (x : Float) : Bool := x == x.floor && x.abs < 1e19

def wholeText (x : Float) : String :=
  let n := x.abs.toUInt64.toNat
  if x.abs ≥ 18446744073709551615.0 then Floating.render 'f' 0 x
  else (if x < 0 then "-" else "") ++ toString n

def numberText (format : String) (x : Float) : String :=
  if x.isNaN then (if Floating.isNegative x then "-nan" else "nan")
  else if x.isInf then (if x < 0 then "-inf" else "inf")
  else if isWhole x then wholeText x
  else match Shell.directive? (format.toList.drop 1) [] with
    | .ok (directive, _, _) =>
      if "diouxX".toList.contains directive.letter then
        directive.integer (if x < 0 then -(x.abs.toUInt64.toNat : Int) else x.toUInt64.toNat)
      else directive.real x
    | .error _ => Floating.render 'g' 6 x

def toText (format : String) : Value → String
  | none => ""
  | number x => numberText format x
  | text s => s
  | both s _ => s

def toBool : Value → Bool
  | none => false
  | number x => x != 0
  | text s => !s.isEmpty
  | both _ x => x != 0

def isNumeric : Value → Bool
  | text _ => false
  | _ => true

def ofBool (b : Bool) : Value := number (if b then 1 else 0)

def compare (format : String) (a b : Value) : Ordering :=
  if a.isNumeric && b.isNumeric then
    let x := a.toNumber
    let y := b.toNumber
    if x < y then .lt else if x == y then .eq else .gt
  else Ord.compare (a.toText format) (b.toText format)

end Value

def truncated (x : Float) : Int :=
  if x.isNaN then 0
  else if x < 0 then -(x.abs.toUInt64.toNat : Int) else x.toUInt64.toNat

def powerOf (x y : Float) : Float :=
  if y == y.floor && y.abs ≤ 1024 then
    let rec go : Nat → Float
      | 0 => 1
      | n + 1 => x * go n
    let p := go y.abs.toUInt64.toNat
    if y < 0 then 1 / p else p
  else Float.pow x y

/-- What a format gives for some values; too few values are a fault, after what comes before. -/
def formatted (convert : String) : Nat → List Char → List Value → String → Except String String
  | 0, _, _, output => .ok output
  | bound + 1, format, values, output =>
    match format with
    | [] => .ok output
    | '%' :: '%' :: rest => formatted convert bound rest values (output ++ "%")
    | '%' :: rest =>
      match Shell.directive? rest (values.map (Value.toText convert)) with
      | .error _ => .ok (output ++ String.ofList format)
      | .ok (directive, rest, left) =>
        let values := values.drop (values.length - left.length)
        match values with
        | [] => .error output
        | value :: values =>
          let shown := match directive.letter with
            | 's' => directive.text (value.toText convert)
            | 'c' =>
              let c := match value with
                | .number x | .both _ x => String.singleton (Char.ofNat (truncated x).toNat)
                | value => String.ofList ((value.toText convert).toList.take 1)
              directive.pad c
            | 'd' | 'i' => directive.integer (truncated value.toNumber)
            | 'o' | 'x' | 'X' | 'u' => directive.integer (truncated value.toNumber)
            | 'b' => ""
            | _ => directive.real value.toNumber
          formatted convert bound rest values (output ++ shown)
    | c :: rest => formatted convert bound rest values (output.push c)

end ImpToC.Utility.Awk
