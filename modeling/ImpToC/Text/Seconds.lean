/-! Durations in seconds, written with the fewest digits that tell them apart. Whole
seconds and the fraction are rounded to 53 binary digits separately and so is their sum;
the text is the shortest decimal that the sum is nearest to among numbers of that
precision. -/
namespace ImpToC.Seconds

def pow (base : Rat) (exponent : Int) : Rat :=
  match exponent with
  | .ofNat n => base ^ n
  | .negSucc n => 1 / base ^ (n + 1)

def nearest (q : Rat) : Int :=
  let below := q.floor
  let rest := q - below
  if rest < 1 / 2 then below
  else if 1 / 2 < rest then below + 1
  else if below % 2 = 0 then below
  else below + 1

structure Rounded where
  mantissa : Int
  exponent : Int

namespace Rounded

def value (x : Rounded) : Rat := x.mantissa * pow 2 x.exponent

def log (q : Rat) : Int :=
  let guess : Int := (q.num.toNat.log2 : Int) - (q.den.log2 : Int)
  if pow 2 guess ≤ q then guess else guess - 1

def ofRat (q : Rat) : Rounded :=
  if q ≤ 0 then ⟨0, 0⟩
  else
    let exponent := log q - 52
    ⟨nearest (q / pow 2 exponent), exponent⟩

def leastMantissa : Int := 4503599627370496

/-- The reals that round to a number reach half a unit to either side, a quarter below a
power of two, and include the ends if the mantissa is even. -/
def near (x : Rounded) (q : Rat) : Bool :=
  let unit := pow 2 x.exponent
  let low := x.value - (if x.mantissa = leastMantissa then unit / 4 else unit / 2)
  let high := x.value + unit / 2
  if x.mantissa % 2 = 0 then low ≤ q && q ≤ high else low < q && q < high

def decimal? (x : Rounded) (place : Int) : Option Int :=
  let unit := pow 10 place
  let digits := nearest (x.value / unit)
  if digits ≠ 0 && x.near (digits * unit) then some digits else none

def shortest (x : Rounded) (place : Int) : Nat → Int × Int
  | 0 => (nearest (x.value / pow 10 place), place)
  | tries + 1 =>
    match x.decimal? place with
    | some digits => (digits, place)
    | none => x.shortest (place - 1) tries

def positional (digits : Nat) (place : Int) : String :=
  let text := (toString digits).toList
  match place with
  | .ofNat n => String.ofList (text ++ List.replicate n '0')
  | .negSucc n =>
    let places := n + 1
    let padded := List.replicate (places + 1 - text.length) '0' ++ text
    let cut := padded.length - places
    String.ofList (padded.take cut ++ '.' :: padded.drop cut)

/-- Numbers up to 10 to the power 20 have at most 21 places before the point, and 17
digits tell all numbers apart. -/
def render (x : Rounded) : String :=
  if x.mantissa = 0 then "0"
  else
    let (digits, place) := x.shortest 20 60
    positional digits.toNat place

end Rounded

def ofMilliseconds (ms : Nat) : Rounded :=
  let whole := Rounded.ofRat (ms / 1000 : Nat)
  let fraction := Rounded.ofRat (((ms % 1000 : Nat) : Rat) / 1000)
  Rounded.ofRat (whole.value + fraction.value)

def render (ms : Nat) : String := (ofMilliseconds ms).render

end ImpToC.Seconds
