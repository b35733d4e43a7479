import ImpToC.Utility.Sort

/-! Two sorted files side by side. Lines that are out of order are told once for each file, but
only after a line has been found that has no partner. -/
namespace ImpToC.Utility

inductive Side where
  | first | second
  deriving DecidableEq

def Side.number : Side → Nat
  | first => 1
  | second => 2

inductive CommEvent where
  | row (column : Nat) (text : String)
  | disorder (side : Side)

/-- A file being read: the line before, the line at hand and those after it. -/
structure CommFile where
  before? : Option String := none
  current? : Option String := none
  rest : List String := []
  told : Bool := false

/-- Goes on to the next line. Two lines in the wrong order are told if `checks` is set; at the
end the last two are looked at once more. -/
def CommFile.advance (file : CommFile) (checks : Bool) (side : Side) :
    CommFile × List CommEvent :=
  let wrong := fun (a? b? : Option String) => match a?, b? with
    | some a, some b => decide (b < a)
    | _, _ => false
  let (pair, next) := match file.rest with
    | line :: rest =>
      ((file.current?, some line),
        { file with before? := file.current?, current? := some line, rest })
    | [] => ((file.before?, file.current?), { file with current? := none })
  if checks && !file.told && wrong pair.1 pair.2 then ({ next with told := true }, [.disorder side])
  else (next, [])

def commEvents (checked : Bool) : Nat → CommFile → CommFile → Bool → List CommEvent
  | 0, _, _, _ => []
  | bound + 1, a, b, unpaired =>
    match a.current?, b.current? with
    | none, none => []
    | x?, y? =>
      let order : Ordering := match x?, y? with
        | some x, some y => compare x y
        | some _, none => .lt
        | _, _ => .gt
      let unpaired := unpaired || order != .eq
      let row : CommEvent := match order with
        | .eq => .row 3 (x?.getD "")
        | .lt => .row 1 (x?.getD "")
        | .gt => .row 2 (y?.getD "")
      let checks := checked && unpaired
      let (a, toldA) := if order != .gt then a.advance checks .first else (a, [])
      let (b, toldB) := if order != .lt then b.advance checks .second else (b, [])
      row :: toldA ++ toldB ++ commEvents checked bound a b unpaired

def comm (args : List String) : Act Nat :=
  withOptions "123z\x03:"
    [("check-order", 'c'), ("nocheck-order", 'n'), ("output-delimiter", '\x03'), ("total", 't'),
     ("zero-terminated", 'z')] args fun parsed => do
  let mark := markOf parsed
  match parsed.words with
  | [first, second] =>
    let (texts, status) ← readPaths [first, second]
    match texts with
    | [(_, a), (_, b)] =>
      let hidden := fun (column : Nat) => parsed.has (Char.ofNat (48 + column))
      let gap := (parsed.value? '\x03').getD "\t"
      let file := fun (text : String) =>
        match (linesBy mark text).map Line.text with
        | [] => ({} : CommFile)
        | line :: rest => { current? := some line, rest }
      let events := commEvents (!parsed.has 'n') (a.length + b.length + 2) (file a) (file b)
        (parsed.has 'c')
      let mut output := ""
      let mut disordered := false
      let mut totals := #[0, 0, 0, 0]
      for event in events do
        match event with
        | .row column text =>
          totals := totals.modify column (· + 1)
          if !hidden column then
            let gaps := ((List.range column).filter fun c => 0 < c && !hidden c).length
            output := output ++ String.join (List.replicate gaps gap) ++ text.push mark
        | .disorder side =>
          complain ("file " ++ toString side.number ++ " is not in sorted order")
          disordered := true
          if parsed.has 'c' then
            print output
            return 1
      if parsed.has 't' then
        output := output ++ gap.intercalate [toString (totals.getD 1 0), toString (totals.getD 2 0),
          toString (totals.getD 3 0), "total"] |>.push mark
      print output
      if disordered then
        complain "input is not in sorted order"
        return 1
      return status
    | _ => return 1
  | [] => misuse "missing operand" 1
  | [first] => misuse ("missing operand after " ++ quote first) 1
  | _ :: _ :: third :: _ => misuse ("extra operand " ++ quote third) 1

end ImpToC.Utility
