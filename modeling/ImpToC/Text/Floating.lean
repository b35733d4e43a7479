/-! Floating-point numbers in decimal: reading them, and writing them with a given number of
places or digits. Writing starts from the exact value of the number, and a tie goes to the
even neighbour. -/
namespace ImpToC.Floating

structure Exact where
  negative : Bool
  num : Nat
  den : Nat

def exact (x : Float) : Exact :=
  let bits := x.toBits.toNat
  let negative := bits / 9223372036854775808 == 1
  let exponent := bits / 4503599627370496 % 2048
  let fraction := bits % 4503599627370496
  let (m, e) := if exponent = 0 then (fraction, 1) else (fraction + 4503599627370496, exponent)
  if e ≥ 1075 then ⟨negative, m * Nat.pow 2 (e - 1075), 1⟩ else ⟨negative, m, Nat.pow 2 (1075 - e)⟩

def roundDiv (num den : Nat) : Nat :=
  let q := num / den
  let r := num % den
  if 2 * r < den then q
  else if den < 2 * r then q + 1
  else if q % 2 = 0 then q else q + 1

def padded (width : Nat) (text : String) : String :=
  String.ofList (List.replicate (width - text.length) '0') ++ text

def withPoint (places n : Nat) : String :=
  if places = 0 then toString n
  else
    let digits := (padded (places + 1) (toString n)).toList
    String.ofList (digits.take (digits.length - places)) ++ "." ++
      String.ofList (digits.drop (digits.length - places))

def fixedExact (x : Exact) (places : Nat) : String :=
  withPoint places (roundDiv (x.num * Nat.pow 10 places) x.den)

/-- The power of ten of the first digit of a value that is not zero. -/
def magnitude (x : Exact) : Int :=
  if x.num ≥ x.den then ((toString (x.num / x.den)).length : Int) - 1
  else
    let k := (toString (x.den / x.num)).length
    if x.num * Nat.pow 10 (k - 1) ≥ x.den then 1 - (k : Int) else -(k : Int)

/-- The first digits of a value, `places` of them behind the first, and the power of ten of
the first. -/
def leading (x : Exact) (places : Nat) : Nat × Int :=
  if x.num = 0 then (0, 0)
  else
    let e := magnitude x
    let shift : Int := (places : Int) - e
    let n := roundDiv (x.num * Nat.pow 10 shift.toNat) (x.den * Nat.pow 10 (-shift).toNat)
    if n ≥ Nat.pow 10 (places + 1) then (n / 10, e + 1) else (n, e)

def scientificOf (places n : Nat) (e : Int) : String :=
  withPoint places n ++ "e" ++ (if e < 0 then "-" else "+") ++ padded 2 (toString e.natAbs)

def scientificExact (x : Exact) (places : Nat) : String :=
  let (n, e) := leading x places
  scientificOf places n e

/-- A text without the zeros that end the part after its point. -/
def stripZeros (text : String) : String :=
  let cs := text.toList
  let mantissa := cs.takeWhile (· != 'e')
  let exponent := cs.drop mantissa.length
  if !mantissa.contains '.' then text
  else
    let kept := (mantissa.reverse.dropWhile (· == '0')).dropWhile (· == '.')
    String.ofList (kept.reverse ++ exponent)

def generalExact (x : Exact) (digits : Nat) : String :=
  let digits := max digits 1
  let (n, e) := leading x (digits - 1)
  if e < -4 || e ≥ digits then stripZeros (scientificOf (digits - 1) n e)
  else stripZeros (fixedExact x ((digits : Int) - 1 - e).toNat)

def hexadecimal (places? : Option Nat) (x : Float) : String :=
  let bits := x.toBits.toNat
  let exponent := bits / 4503599627370496 % 2048
  let mantissa := bits % 4503599627370496 + if exponent = 0 then 0 else 4503599627370496
  let power : Int := if mantissa = 0 then 0 else if exponent = 0 then -1022 else exponent - 1023
  let places := places?.getD 13
  let digits := padded (places + 1) (String.ofList (Nat.toDigits 16 (if places ≥ 13
    then mantissa * Nat.pow 16 (places - 13) else roundDiv mantissa (Nat.pow 16 (13 - places)))))
  let fraction := digits.toList.drop 1
  let fraction := if places?.isSome then fraction
    else (fraction.reverse.dropWhile (· == '0')).reverse
  "0x" ++ (digits.take 1).toString ++ (if fraction.isEmpty then "" else ".") ++
    String.ofList fraction ++ "p" ++ (if power < 0 then "-" else "+") ++ toString power.natAbs

def render (form : Char) (precision : Nat) (x : Float) : String :=
  if x.isNaN then "nan"
  else if x.isInf then "inf"
  else match form with
    | 'e' => scientificExact (exact x) precision
    | 'f' => fixedExact (exact x) precision
    | _ => generalExact (exact x) precision

def isNegative (x : Float) : Bool := x.toBits.toNat / 9223372036854775808 == 1

def digitsValue (cs : List Char) : Nat := cs.foldl (fun n c => 10 * n + (c.toNat - 48)) 0

def unsigned? (cs : List Char) : Option (Float × List Char) :=
  let whole := cs.takeWhile Char.isDigit
  let rest := cs.drop whole.length
  let (fraction, rest) := match rest with
    | '.' :: after =>
      let fraction := after.takeWhile Char.isDigit
      (fraction, after.drop fraction.length)
    | _ => ([], rest)
  if whole.isEmpty && fraction.isEmpty then none
  else
    let exponent? : Option (Int × List Char) := match rest with
      | mark :: after =>
        if mark = 'e' || mark = 'E' then
          let (sign, after) := match after with
            | '-' :: after => (-1, after)
            | '+' :: after => (1, after)
            | after => ((1 : Int), after)
          let digits := after.takeWhile Char.isDigit
          if digits.isEmpty then none
          else some (sign * digitsValue digits, after.drop digits.length)
        else none
      | [] => none
    let (exponent, rest) := exponent?.getD (0, rest)
    let scale := exponent - fraction.length
    let scale := if scale > 400 then 400 else if scale < -800 then -800 else scale
    some (Float.ofScientific (digitsValue (whole ++ fraction)) (scale < 0) scale.natAbs, rest)

def signed? (cs : List Char) : Option (Float × List Char) :=
  match cs.dropWhile fun c => c == ' ' || ('\t' ≤ c && c ≤ '\r') with
  | '-' :: rest => (unsigned? rest).map fun (x, rest) => (-x, rest)
  | '+' :: rest => unsigned? rest
  | rest => unsigned? rest

def hexadecimal? (cs : List Char) : Option (Float × List Char) :=
  let isHex := fun (c : Char) => c.isDigit || 'a' ≤ c.toLower && c.toLower ≤ 'f'
  let digit := fun (c : Char) => if c.isDigit then c.toNat - 48 else c.toLower.toNat - 87
  let whole := cs.takeWhile isHex
  let rest := cs.drop whole.length
  let (fraction, rest) := match rest with
    | '.' :: after =>
      let fraction := after.takeWhile isHex
      if whole.isEmpty && fraction.isEmpty then ([], rest) else (fraction, after.drop fraction.length)
    | _ => ([], rest)
  if whole.isEmpty && fraction.isEmpty then none
  else
    let power? : Option (Int × List Char) := match rest with
      | 'p' :: after | 'P' :: after =>
        let (sign, after) := match after with
          | '-' :: after => (-1, after)
          | '+' :: after => (1, after)
          | after => ((1 : Int), after)
        let digits := after.takeWhile Char.isDigit
        if digits.isEmpty then none
        else some (sign * digitsValue digits, after.drop digits.length)
      | _ => none
    let (power, rest) := power?.getD (0, rest)
    let mantissa := (whole ++ fraction).foldl (fun n c => 16 * n + digit c) 0
    let scale := power - 4 * fraction.length
    let scale := if scale > 3000 then 3000 else if scale < -3000 then -3000 else scale
    some (Float.scaleB (Float.ofNat mantissa) scale, rest)

def number? (cs : List Char) : Option (Float × List Char) :=
  let cs := cs.dropWhile fun c => c == ' ' || ('\t' ≤ c && c ≤ '\r')
  let (negative, after) := match cs with
    | '-' :: rest => (true, rest)
    | '+' :: rest => (false, rest)
    | rest => (false, rest)
  let starts := fun (word : String) =>
    (after.take word.length).map Char.toLower == word.toList
  let value? := if starts "infinity" then some (1.0 / 0.0, after.drop 8)
    else if starts "inf" then some (1.0 / 0.0, after.drop 3)
    else if starts "nan" then some (0.0 / 0.0, after.drop 3)
    else if starts "0x" then (hexadecimal? (after.drop 2)).orElse fun _ => unsigned? after
    else unsigned? after
  value?.map fun (value, rest) => (if negative then -value else value, rest)

end ImpToC.Floating
