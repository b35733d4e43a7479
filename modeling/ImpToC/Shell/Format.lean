import ImpToC.Shell.Formula
import ImpToC.Text.Floating

/-! The texts that `echo` and `printf` write: backslash escapes, and directives that are
filled in from arguments. -/
namespace ImpToC.Shell

def isOctal (c : Char) : Bool := '0' ≤ c && c ≤ '7'

def octal (most : Nat) (cs : List Char) : Nat × List Char :=
  let digits := (cs.take most).takeWhile isOctal
  (digits.foldl (fun n c => 8 * n + (c.toNat - '0'.toNat)) 0, cs.drop digits.length)

def escaped? : Char → Option Nat
  | 'a' => some 7
  | 'b' => some 8
  | 't' => some 9
  | 'n' => some 10
  | 'v' => some 11
  | 'f' => some 12
  | 'r' => some 13
  | 'e' => some 27
  | '\\' => some 92
  | _ => none

/-- The characters for what stands after a backslash, and what follows it. With `zero`, an
octal number may have a further `0` in front. -/
def escape (zero : Bool) (cs : List Char) : List Char × List Char :=
  match cs with
  | [] => (['\\'], [])
  | c :: rest =>
    if isOctal c then
      let (n, rest) := octal 3 (if zero && c = '0' then rest else cs)
      ([Char.ofNat (n % 256)], rest)
    else
      match escaped? c with
      | some n => ([Char.ofNat n], rest)
      | none => (['\\', c], rest)

/-- A text with its escapes replaced, and whether `\c` broke it off. The first argument
bounds the number of stretches. -/
def unescape (zero stops : Bool) : Nat → List Char → List Char × Bool
  | 0, _ => ([], false)
  | bound + 1, cs =>
    match cs with
    | [] => ([], false)
    | '\\' :: rest =>
      if stops && rest.head? == some 'c' then ([], true)
      else
        let (escaped, rest) := escape zero rest
        let (more, stopped) := unescape zero stops bound rest
        (escaped ++ more, stopped)
    | cs =>
      let (more, stopped) := unescape zero stops bound (cs.dropWhile (· != '\\'))
      (cs.takeWhile (· != '\\') ++ more, stopped)

def echo (args : List String) : String :=
  let (newline, args) := match args with
    | "-n" :: args => (false, args)
    | args => (true, args)
  let text := (" ".intercalate args).toList
  let (text, stopped) := unescape true true (text.length + 1) text
  String.ofList text ++ if newline && !stopped then "\n" else ""

structure Directive where
  left : Bool := false
  zeros : Bool := false
  plus : Bool := false
  space : Bool := false
  alternate : Bool := false
  width : Nat := 0
  precision? : Option Nat := none
  letter : Char

def fill (count : Nat) (c : Char) : String := String.ofList (List.replicate count c)

def Directive.pad (directive : Directive) (text : String) : String :=
  let missing := fill (directive.width - text.length) ' '
  if directive.left then text ++ missing else missing ++ text

def Directive.padNumber (directive : Directive) (zeros : Bool) (sign digits : String) : String :=
  if zeros && !directive.left then
    sign ++ fill (directive.width - sign.length - digits.length) '0' ++ digits
  else directive.pad (sign ++ digits)

def Directive.sign (directive : Directive) (negative : Bool) : String :=
  if negative then "-" else if directive.plus then "+" else if directive.space then " " else ""

def Directive.integer (directive : Directive) (value : Int) : String :=
  let word := (if value < 0 then value + 18446744073709551616 else value).toNat
  let upper := fun (text : String) => if directive.letter = 'X' then text.toUpper else text
  let (sign, lead, digits) := match directive.letter with
    | 'd' | 'i' => (directive.sign (value < 0), "", toString value.natAbs)
    | 'u' => ("", "", toString word)
    | 'o' => ("", "", String.ofList (Nat.toDigits 8 word))
    | _ => ("", if directive.alternate && word ≠ 0 then upper "0x" else "",
        upper (String.ofList (Nat.toDigits 16 word)))
  let digits := match directive.precision? with
    | some n => if n = 0 && value = 0 then "" else fill (n - digits.length) '0' ++ digits
    | none => digits
  let digits := if directive.letter = 'o' && directive.alternate && !digits.startsWith "0" then
    "0" ++ digits else digits
  directive.padNumber (directive.zeros && directive.precision?.isNone) (sign ++ lead) digits

def Directive.real (directive : Directive) (value : Float) : String :=
  let finite := !value.isNaN && !value.isInf
  let text := if directive.letter.toLower = 'a' && finite
    then Floating.hexadecimal directive.precision? value
    else Floating.render directive.letter.toLower (directive.precision?.getD 6) value
  let text := if directive.letter.isUpper then text.toUpper else text
  let sign := directive.sign (Floating.isNegative value)
  -- Zeros stand behind the letters that mark a hexadecimal number.
  if directive.letter.toLower = 'a' && finite then
    directive.padNumber directive.zeros (sign ++ (text.take 2).toString) (text.drop 2).toString
  else directive.padNumber (directive.zeros && finite) sign text

def Directive.text (directive : Directive) (value : String) : String :=
  directive.pad (match directive.precision? with
    | some n => String.ofList (value.toList.take n)
    | none => value)

inductive Complaint where
  | noNumber (arg : String)
  | partly (arg : String)
  | outOfRange (arg : String)
  | unfinished (text : String)
  | noDirective (text : String)

def Complaint.message : Complaint → String
  | noNumber arg => arg ++ ": expected numeric value"
  | partly arg => arg ++ ": not completely converted"
  | outOfRange arg => arg ++ ": Numerical result out of range"
  | unfinished _ => "missing format character"
  | noDirective text => text ++ ": invalid directive"

structure Printed where
  text : String := ""
  complaints : Array Complaint := #[]
  stopped : Bool := false
  broken : Bool := false
  unused? : Option String := none

def integerArgument (signed : Bool) (arg : String) : Int × Option Complaint :=
  match arg.toList with
  | '\x27' :: c :: _ => (c.toNat, none)
  | '"' :: c :: _ => (c.toNat, none)
  | ['\x27'] | ['"'] | [] => (0, none)
  | cs =>
    match Formula.signed? 0 cs with
    | none => (0, some (.noNumber arg))
    | some (value, rest) =>
      let (low, high) := if signed then (Formula.smallest, Formula.largest)
        else (-18446744073709551615, 18446744073709551615)
      let fits := low ≤ value && value ≤ high
      let nearest := if value < low then (if signed then low else high) else min value high
      (nearest, if !rest.isEmpty then some (.partly arg)
        else if fits then none else some (.outOfRange arg))

def realArgument (arg : String) : Float × Option Complaint :=
  match arg.toList with
  | '\x27' :: c :: _ => (c.toNat.toFloat, none)
  | '"' :: c :: _ => (c.toNat.toFloat, none)
  | [] => (0, none)
  | cs =>
    match Floating.number? cs with
    | none => (0, some (.noNumber arg))
    | some (value, rest) =>
      let written := !(cs.any fun c => c.toLower = 'i')
      let tiny := value != 0 && value.abs < 2.2250738585072014e-308
      (value, if !rest.isEmpty then some (.partly arg)
        else if written && value.isInf || tiny then some (.outOfRange arg) else none)

/-- A directive, whose sign has been passed, with the arguments left after those it takes for
its width and precision; or the text that is no directive, and whether it ends too early. -/
def directive? (cs : List Char) (args : List String) :
    Except (List Char × Bool) (Directive × List Char × List String) :=
  let isFlag := fun (c : Char) => "-+ 0#".toList.contains c
  let flags := cs.takeWhile isFlag
  let after := cs.drop flags.length
  let number := fun (cs : List Char) (args : List String) =>
    match cs with
    | '*' :: rest => ((integerArgument true (args.head?.getD "")).1, rest, args.tail)
    | _ =>
      let digits := cs.takeWhile Char.isDigit
      ((Floating.digitsValue digits : Int), cs.drop digits.length, args)
  let (width, rest, args) := number after args
  let (precision?, rest, args) := match rest with
    | '.' :: rest =>
      let (n, rest, args) := number rest args
      (if n < 0 then none else some n.toNat, rest, args)
    | _ => (none, rest, args)
  match rest with
  | [] => .error (cs, true)
  | letter :: rest =>
    if "diouxXcsbeEfFgGaA".toList.contains letter then
      .ok ({ left := flags.contains '-' || width < 0, zeros := flags.contains '0',
             plus := flags.contains '+', space := flags.contains ' ',
             alternate := flags.contains '#', width := width.natAbs, precision?, letter },
           rest, args)
    else .error (cs.take (cs.length - rest.length), false)

def printOnce : Nat → List Char → List String → Printed → Printed × List String
  | 0, _, args, printed => (printed, args)
  | bound + 1, cs, args, printed =>
    let add := fun (text : String) => { printed with text := printed.text ++ text }
    match cs with
    | [] => (printed, args)
    | '%' :: '%' :: rest => printOnce bound rest args (add "%")
    | '%' :: rest =>
      match directive? rest args with
      | .error (text, early) =>
        let text := "%" ++ String.ofList text
        ({ printed with
            complaints := printed.complaints.push
              (if early then .unfinished text else .noDirective text),
            broken := true }, args)
      | .ok (directive, rest, args) =>
        let arg := args.head?.getD ""
        let filled := fun (text : String) (complaint? : Option Complaint) =>
          printOnce bound rest args.tail { printed with
            text := printed.text ++ text,
            complaints := printed.complaints ++ complaint?.toList }
        match directive.letter with
        | 's' => filled (directive.text arg) none
        | 'c' => filled (directive.pad (String.singleton (arg.toList.head?.getD '\x00'))) none
        | 'b' =>
          let (text, stopped) := unescape true true (arg.length + 1) arg.toList
          if stopped then
            ({ add (directive.text (String.ofList text)) with stopped := true }, args.tail)
          else filled (directive.text (String.ofList text)) none
        | 'd' | 'i' =>
          let (value, complaint?) := integerArgument true arg
          filled (directive.integer value) complaint?
        | 'o' | 'u' | 'x' | 'X' =>
          let (value, complaint?) := integerArgument false arg
          filled (directive.integer value) complaint?
        | _ =>
          let (value, complaint?) := realArgument arg
          filled (directive.real value) complaint?
    | '\\' :: rest =>
      let (escaped, rest) := escape false rest
      printOnce bound rest args (add (String.ofList escaped))
    | cs =>
      let plain := fun (c : Char) => c != '%' && c != '\\'
      printOnce bound (cs.dropWhile plain) args (add (String.ofList (cs.takeWhile plain)))

def printf (format : List Char) : Nat → List String → Printed → Printed
  | 0, _, printed => printed
  | bound + 1, args, printed =>
    let (printed, left) := printOnce (format.length + 1) format args printed
    if left.isEmpty || printed.stopped || printed.broken then printed
    else if left.length = args.length then { printed with unused? := left.head? }
    else printf format bound left printed

end ImpToC.Shell
