import ImpToC.Text.Floating
import ImpToC.Text.Regex.Reader
import ImpToC.Utility.Reading

/-! Numbers in front of lines. A page has a header, a body and a footer, each of which begins
after a line of marks and has its own rule for the lines that get numbers. -/
namespace ImpToC.Utility

inductive Numbered where
  | all
  | filled
  | none
  | holding (regex : Regex)

namespace Numbering

/-- The rule that a letter stands for, with an expression after `p`. -/
def rule? (text : String) : Option (Except String Numbered) :=
  match text.toList with
  | ['a'] => some (.ok .all)
  | ['t'] => some (.ok .filled)
  | ['n'] => some (.ok .none)
  | 'p' :: pattern => some ((Regex.read { extended := false } (String.ofList pattern)).map .holding)
  | _ => Option.none

structure Style where
  header : Numbered
  body : Numbered
  footer : Numbered
  format : String
  width : Nat
  separator : String
  start : Int
  step : Int
  keeps : Bool
  joined : Nat
  marks : String

structure State where
  number : Int
  rule : Numbered
  blanks : Nat := 1

def shown (style : Style) (number : Int) : String :=
  match style.format with
  | "ln" => padRight style.width (toString number)
  | "rz" =>
    let sign := if number < 0 then "-" else ""
    sign ++ Floating.padded (style.width - sign.length) (toString number.natAbs)
  | _ => padLeft style.width (toString number)

def withNumber (style : Style) (state : State) (text : String) : State × String :=
  ({ state with number := state.number + style.step },
    shown style state.number ++ style.separator ++ text ++ "\n")

def withoutNumber (style : Style) (state : State) (text : String) : State × String :=
  (state, String.ofList (List.replicate (style.width + style.separator.length) ' ') ++ text ++ "\n")

def line (style : Style) (state : State) (text : String) : State × String :=
  let enter := fun (rule : Numbered) =>
    ({ state with
        number := if style.keeps then state.number else style.start, rule }, "\n")
  if text = style.marks ++ style.marks ++ style.marks then enter style.header
  else if text = style.marks ++ style.marks then enter style.body
  else if text = style.marks then enter style.footer
  else match state.rule with
    | .all =>
      if style.joined ≤ 1 then withNumber style state text
      else if !text.isEmpty || state.blanks = style.joined then
        withNumber style { state with blanks := 1 } text
      else withoutNumber style { state with blanks := state.blanks + 1 } text
    | .filled =>
      if text.isEmpty then withoutNumber style state text else withNumber style state text
    | .none => withoutNumber style state text
    | .holding regex =>
      if regex.occurs (Regex.Subject.ofString text false) then withNumber style state text
      else withoutNumber style state text

def check (letter : Char) (value : String) : Act (Option Misuse) := do
  let style := fun (what : String) => match rule? value with
    | some (.ok _) => Option.none
    | some (.error message) => some (Misuse.value message)
    | Option.none => some (.option ("invalid " ++ what ++ " numbering style: " ++ quote value))
  let number := fun (what : String) (signed : Bool) =>
    let digits := if signed && value.startsWith "-" then (value.drop 1).toString else value
    match natural? digits with
    | Option.none => some (Misuse.value ("invalid " ++ what ++ ": " ++ quote value))
    | some n => if signed || 0 < n then Option.none
      else some (.value ("invalid " ++ what ++ ": " ++ quote value ++ ": " ++
        SystemError.outOfRange.reason))
  return match letter with
    | 'h' => style "header"
    | 'b' => style "body"
    | 'f' => style "footer"
    | 'n' => if ["ln", "rn", "rz"].contains value then Option.none
      else some (.option ("invalid line numbering format: " ++ quote value))
    | 'l' => number "line number of blank lines" false
    | 'w' => number "line number field width" false
    | 'v' => number "starting line number" true
    | 'i' => number "line number increment" true
    | _ => Option.none

end Numbering

open ImpToC.Utility.Numbering in
def nl (args : List String) : Act Nat :=
  withSpec
    { letters := "h:b:f:v:i:pl:s:w:n:d:", patient := true,
      long := [("header-numbering", 'h'), ("body-numbering", 'b'), ("footer-numbering", 'f'),
        ("starting-line-number", 'v'), ("line-increment", 'i'), ("no-renumber", 'p'),
        ("join-blank-lines", 'l'), ("number-separator", 's'), ("number-width", 'w'),
        ("number-format", 'n'), ("section-delimiter", 'd')] }
    Numbering.check args fun parsed => do
  let rule := fun (letter : Char) (usual : Numbered) =>
    match (parsed.value? letter).bind rule? with
    | some (.ok rule) => rule
    | _ => usual
  let number := fun (letter : Char) (usual : Int) =>
    ((parsed.value? letter).bind String.toInt?).getD usual
  let style : Style :=
    { header := rule 'h' .none, body := rule 'b' .filled, footer := rule 'f' .none,
      format := (parsed.value? 'n').getD "rn", width := (number 'w' 6).toNat,
      separator := (parsed.value? 's').getD "\t", start := number 'v' 1, step := number 'i' 1,
      keeps := parsed.has 'p', joined := (number 'l' 1).toNat,
      marks := match (parsed.value? 'd').map String.toList with
        | some [c] => String.ofList [c, ':']
        | some marks => String.ofList marks
        | Option.none => "\\:" }
  let (texts, status) ← readPaths parsed.words
  let lines := texts.flatMap fun text => linesOf text.2
  let (_, output) := lines.foldl (fun (state, output) each =>
    let (state, shown) := line style state each.text
    (state, output ++ shown)) (({ number := style.start, rule := style.body } : State), "")
  print output
  return status

end ImpToC.Utility
