import ImpToC.Utility.Reading

/-! Lines in order, and lines compared with their neighbours. -/
namespace ImpToC.Utility

inductive SortKind where
  | bytes | number | general | human | month | version
  deriving DecidableEq, Repr

structure SortRule where
  kind : SortKind := .bytes
  reverse : Bool := false
  fold : Bool := false
  blanks : Bool := false
  dictionary : Bool := false
  printable : Bool := false
  deriving DecidableEq, Repr

structure SortKey where
  field : Nat := 1
  char : Nat := 1
  lastField? : Option Nat := none
  lastChar : Nat := 0
  rule : SortRule := {}

namespace SortRule

def add (rule : SortRule) : Char → Option SortRule
  | 'n' => some { rule with kind := .number }
  | 'g' => some { rule with kind := .general }
  | 'h' => some { rule with kind := .human }
  | 'M' => some { rule with kind := .month }
  | 'V' => some { rule with kind := .version }
  | 'r' => some { rule with reverse := true }
  | 'f' => some { rule with fold := true }
  | 'b' => some { rule with blanks := true }
  | 'd' => some { rule with dictionary := true }
  | 'i' => some { rule with printable := true }
  | _ => none

end SortRule

def isBlank (c : Char) : Bool := c = ' ' || c = '\t' || c = '\n'

/-- A decimal number at the start of a text, as sign, digits in front of the point and after
it. -/
def decimalOf (text : List Char) : Bool × Nat × List Char :=
  let text := text.dropWhile isBlank
  let (negative, text) := match text with
    | '-' :: rest => (true, rest)
    | _ => (false, text)
  let digits := text.takeWhile Char.isDigit
  let fraction := match text.drop digits.length with
    | '.' :: rest => rest.takeWhile Char.isDigit
    | _ => []
  let trimmed := (fraction.reverse.dropWhile (· == '0')).reverse
  (negative, (String.ofList digits).toNat?.getD 0, trimmed)

def compareDecimals (a b : List Char) : Ordering :=
  let (an, ai, af) := decimalOf a
  let (bn, bi, bf) := decimalOf b
  let zero := fun (i : Nat) (f : List Char) => i == 0 && f.isEmpty
  let an := an && !zero ai af
  let bn := bn && !zero bi bf
  let sizes := (compare ai bi).then (compare (String.ofList af) (String.ofList bf))
  match an, bn with
  | false, false => sizes
  | true, true => sizes.swap
  | true, false => .lt
  | false, true => .gt

/-- Any number that can be written; what is none comes first. -/
def compareGeneral (a b : List Char) : Ordering :=
  match Floating.number? a, Floating.number? b with
  | none, none => .eq
  | none, some _ => .lt
  | some _, none => .gt
  | some (x, _), some (y, _) =>
    if x.isNaN then (if y.isNaN then .eq else .lt)
    else if y.isNaN then .gt
    else if x < y then .lt else if y < x then .gt else .eq

def months : List String :=
  ["JAN", "FEB", "MAR", "APR", "MAY", "JUN", "JUL", "AUG", "SEP", "OCT", "NOV", "DEC"]

def monthOf (text : List Char) : Nat :=
  let name := String.ofList (((text.dropWhile isBlank).take 3).map Char.toUpper)
  match months.findIdx? (· == name) with
  | some i => i + 1
  | none => 0

def humanPower (text : List Char) : Nat :=
  let rest := ((text.dropWhile isBlank).dropWhile fun c => c.isDigit || c = '-' || c = '.').head?
  match rest with
  | some c => match "KMGTPEZY".toList.findIdx? (· == c.toUpper) with
    | some i => i + 1
    | none => 0
  | none => 0

def versionRank : Option Char → Int
  | some '~' => -1
  | none => 0
  | some c => if c.isDigit then 0 else if c.isAlpha then c.toNat else c.toNat + 256

def compareVersions : Nat → List Char → List Char → Ordering
  | 0, _, _ => .eq
  | bound + 1, a, b =>
    if a.isEmpty && b.isEmpty then .eq
    else
      let an := (a.head?.map Char.isDigit).getD true
      let bn := (b.head?.map Char.isDigit).getD true
      if !an || !bn then
        let ranks := compare (versionRank a.head?) (versionRank b.head?)
        if ranks != .eq then ranks else compareVersions bound a.tail b.tail
      else
        let ad := a.takeWhile Char.isDigit
        let bd := b.takeWhile Char.isDigit
        let numbers := compare ((String.ofList ad).toNat?.getD 0) ((String.ofList bd).toNat?.getD 0)
        if numbers != .eq then numbers
        else compareVersions bound (a.drop ad.length) (b.drop bd.length)

def SortRule.compare (rule : SortRule) (a b : List Char) : Ordering :=
  let a := if rule.blanks then a.dropWhile isBlank else a
  let b := if rule.blanks then b.dropWhile isBlank else b
  let result := match rule.kind with
    | .number => compareDecimals a b
    | .general => compareGeneral a b
    | .human =>
      let ad := decimalOf a
      let bd := decimalOf b
      if ad.1 != bd.1 then compareDecimals a b
      else
        let sizes := (Ord.compare (humanPower a) (humanPower b))
        (if ad.1 then sizes.swap else sizes).then (compareDecimals a b)
    | .month => Ord.compare (monthOf a) (monthOf b)
    | .version => compareVersions (a.length + b.length + 1) a b
    | .bytes =>
      let keep := fun (text : List Char) =>
        let text := if rule.dictionary then text.filter fun c => c.isAlphanum || isBlank c else text
        let text := if rule.printable then text.filter fun c => 32 ≤ c.toNat && c.toNat < 127 else text
        String.ofList (if rule.fold then text.map Char.toUpper else text)
      Ord.compare (keep a) (keep b)
  if rule.reverse then result.swap else result

def blankFields : Nat → List Char → List (List Char)
  | 0, _ => []
  | bound + 1, text =>
    if text.isEmpty then []
    else
      let blanks := text.takeWhile isBlank
      let word := (text.drop blanks.length).takeWhile fun c => !isBlank c
      (blanks ++ word) :: blankFields bound (text.drop (blanks.length + word.length))

def splitChars (separator : Char) (text : List Char) : List (List Char) :=
  text.splitOn separator

def SortKey.of (key : SortKey) (separator? : Option Char) (line : List Char) : List Char :=
  let fields := match separator? with
    | some c => splitChars c line
    | none => blankFields (line.length + 1) line
  let gap := if separator?.isSome then 1 else 0
  let startOf := fun (field : Nat) =>
    ((fields.take (field - 1)).map fun f => f.length + gap).foldl (· + ·) 0
  let skipBlanks := fun (place : Nat) =>
    if key.rule.blanks then place + ((line.drop place).takeWhile isBlank).length else place
  let start := if key.field > fields.length then line.length
    else skipBlanks (startOf key.field) + (key.char - 1)
  let stop := match key.lastField? with
    | none => line.length
    | some last =>
      if last > fields.length then line.length
      else if key.lastChar = 0 then startOf last + ((fields.getD (last - 1) []).length)
      else skipBlanks (startOf last) + key.lastChar
  (line.take stop).drop start

def sortNumber (text : List Char) (place : String) : Except String (Nat × List Char) :=
  let unsigned := if text.head? == some '+' then text.tail else text
  let digits := unsigned.takeWhile Char.isDigit
  if digits.isEmpty then
    .error ("invalid number " ++ place ++ ": invalid count at start of " ++ quote (String.ofList text))
  else .ok (digits.foldl (fun n c => 10 * n + (c.toNat - 48)) 0, unsigned.drop digits.length)

def sortLetters : List Char → SortRule → SortRule × List Char
  | [], rule => (rule, [])
  | c :: rest, rule => match rule.add c with
    | some rule => sortLetters rest rule
    | none => (rule, c :: rest)

/-- A key `F[.C][letters][,F[.C][letters]]` as it is written; one without letters of its own
takes the general rule. -/
def sortKey (general : SortRule) (text : String) : Except String SortKey := do
  let wrong := fun {α : Type} (reason : String) =>
    (.error (reason ++ ": invalid field specification " ++ quote text) : Except String α)
  let (field, rest) ← sortNumber text.toList "at field start"
  if field = 0 then wrong "field number is zero"
  let (char, rest) ← match rest with
    | '.' :: rest => sortNumber rest "after '.'"
    | rest => .ok (1, rest)
  if char = 0 then wrong "character offset is zero"
  let (rule, rest) := sortLetters rest {}
  let (last?, lastChar, rule, rest) ← match rest with
    | ',' :: rest =>
      let (last, rest) ← sortNumber rest "after ','"
      if last = 0 then wrong "field number is zero"
      let (lastChar, rest) ← match rest with
        | '.' :: rest => sortNumber rest "after '.'"
        | rest => .ok (0, rest)
      let (rule, rest) := sortLetters rest rule
      .ok (some last, lastChar, rule, rest)
    | rest => .ok (none, 0, rule, rest)
  if !rest.isEmpty then wrong "stray character in field spec"
  return ⟨field, char, last?, lastChar, if rule == {} then general else rule⟩

structure Sorting where
  keys : List SortKey
  general : SortRule
  separator? : Option Char
  unique : Bool
  stable : Bool

def Sorting.byKeys (sorting : Sorting) (a b : List Char) : Ordering :=
  if sorting.keys.isEmpty then sorting.general.compare a b
  else sorting.keys.foldl (fun result key =>
    result.then (key.rule.compare (key.of sorting.separator? a) (key.of sorting.separator? b))) .eq

def Sorting.compare (sorting : Sorting) (a b : List Char) : Ordering :=
  let result := sorting.byKeys a b
  if sorting.unique || sorting.stable then result
  else
    let whole := Ord.compare (String.ofList a) (String.ofList b)
    result.then (if sorting.general.reverse then whole.swap else whole)

def Sorting.distinct (sorting : Sorting) : List (List Char) → List (List Char)
  | [] => []
  | a :: rest =>
    (rest.foldl (fun (kept : List (List Char) × List Char) b =>
      if sorting.byKeys kept.2 b == .eq then kept else (kept.2 :: kept.1, b)) ([], a)) |> fun kept =>
    (kept.2 :: kept.1).reverse

def Sorting.disorder? (sorting : Sorting) : List (List Char) → Nat → Option (Nat × List Char)
  | a :: b :: rest, n =>
    let result := sorting.compare a b
    if result == .gt || sorting.unique && result == .eq then some (n + 1, b)
    else sorting.disorder? (b :: rest) (n + 1)
  | _, _ => none

/-- Lists in which the least of the first lines comes next, of equal ones the first. -/
def Sorting.merged (sorting : Sorting) : Nat → List (List (List Char)) → List (List Char)
  | 0, _ => []
  | bound + 1, lists =>
    let heads := lists.zipIdx.filterMap fun (list, i) => list.head?.map fun line => (line, i)
    match heads with
    | [] => []
    | first :: others =>
      let (line, i) := others.foldl (fun best next =>
        if sorting.compare next.1 best.1 == .lt then next else best) first
      line :: sorting.merged bound (lists.modify i List.tail)

def separatorOf? (text : String) : Option Char :=
  match text.toList with
  | [c] => some c
  | ['\\', '0'] => some '\x00'
  | _ => none

def checkSorting (letter : Char) (value : String) : Act (Option Misuse) := return match letter with
  | 't' =>
    if value.isEmpty then some (.value "empty tab")
    else if (separatorOf? value).isNone then some (.value ("multi-character tab " ++ quote value))
    else none
  | 'k' => match sortKey {} value with
    | .ok _ => none
    | .error message => some (.value message)
  | _ => none

def sort (args : List String) : Act Nat :=
  withSpec
    { letters := "bdfghiMnRrVcCmo:st:uzk:S:T:", status := 2,
      long := [("ignore-leading-blanks", 'b'), ("check", 'c'), ("dictionary-order", 'd'),
        ("ignore-case", 'f'), ("general-numeric-sort", 'g'), ("ignore-nonprinting", 'i'),
        ("key", 'k'), ("merge", 'm'), ("month-sort", 'M'), ("numeric-sort", 'n'),
        ("human-numeric-sort", 'h'), ("version-sort", 'V'), ("random-sort", 'R'), ("output", 'o'),
        ("reverse", 'r'), ("stable", 's'), ("buffer-size", 'S'), ("field-separator", 't'),
        ("temporary-directory", 'T'), ("unique", 'u'), ("zero-terminated", 'z')] }
    checkSorting args fun parsed => do
  let general := parsed.options.foldl (fun (rule : SortRule) option =>
    (rule.add option.1).getD rule) {}
  let keys := parsed.options.filterMap fun option =>
    if option.1 = 'k' then (sortKey general option.2).toOption else none
  let sorting : Sorting :=
    { keys, general, separator? := (parsed.value? 't').bind separatorOf?,
      unique := parsed.has 'u', stable := parsed.has 's' }
  let mut lists : Array (List (List Char)) := #[]
  let newline := if parsed.has 'z' then "\x00" else "\n"
  for path in (if parsed.words.isEmpty then ["-"] else parsed.words) do
    match ← readPath path with
    | .ok text =>
      let pieces := text.splitOn newline
      let pieces := if pieces.getLast? == some "" then pieces.dropLast else pieces
      lists := lists.push (pieces.map String.toList)
    | .error fault =>
      complain ((if fault = .isADirectory then "read failed: " else "cannot read: ") ++ path ++
        ": " ++ fault.reason)
      return 2
  if parsed.has 'c' || parsed.has 'C' then
    if let _ :: extra :: _ := parsed.words then
      complain ("extra operand " ++ quote extra ++ " not allowed with -c")
      return 2
    match sorting.disorder? lists.toList.flatten 1 with
    | none => return 0
    | some (n, line) =>
      if !parsed.has 'C' then
        complain (parsed.words.headD "-" ++ ":" ++ toString n ++ ": disorder: " ++ String.ofList line)
      return 1
  let sorted := if parsed.has 'm'
    then sorting.merged ((lists.map List.length).foldl (· + ·) 0 + 1) lists.toList
    else lists.toList.flatten.mergeSort fun a b => sorting.compare a b != .gt
  let kept := if sorting.unique then sorting.distinct sorted else sorted
  let output := String.join (kept.map fun line => String.ofList line ++ newline)
  match parsed.value? 'o' with
  | none =>
    print output
    return 0
  | some path =>
    match ← writePath path output with
    | .ok () => return 0
    | .error fault =>
      complain ("open failed: " ++ path ++ ": " ++ fault.reason)
      return 2

def uniqPart (fields chars : Nat) (width? : Option Nat) (fold : Bool) (text : String) : String :=
  let rec skip : Nat → List Char → List Char
    | 0, text => text
    | n + 1, text => skip n ((text.dropWhile isBlank).dropWhile fun c => !isBlank c)
  let text := (skip fields text.toList).drop chars
  let text := match width? with
    | some width => text.take width
    | none => text
  String.ofList (if fold then text.map Char.toUpper else text)

def runs (part : String → String) : List String → List (List String)
  | [] => []
  | line :: rest => match runs part rest with
    | (next :: more) :: others =>
      if part next = part line then (line :: next :: more) :: others
      else [line] :: (next :: more) :: others
    | others => [line] :: others

def uniq (args : List String) : Act Nat :=
  withSpec
    { letters := "cduDif:s:w:z",
      long := [("count", 'c'), ("repeated", 'd'), ("unique", 'u'), ("ignore-case", 'i'),
        ("skip-fields", 'f'), ("skip-chars", 's'), ("check-chars", 'w'), ("all-repeated", 'D'),
        ("zero-terminated", 'z')] }
    (fun letter value =>
      let complaint := fun (what : String) =>
        pure (if (natural? value).isSome then none
          else some (Misuse.value (value ++ ": invalid number of " ++ what)))
      match letter with
      | 'f' => complaint "fields to skip"
      | 's' => complaint "bytes to skip"
      | 'w' => complaint "bytes to compare"
      | _ => return none)
    args fun parsed => do
  if let _ :: _ :: extra :: _ := parsed.words then return ← misuse ("extra operand " ++ quote extra) 1
  let mark := markOf parsed
  let number := fun (letter : Char) => (parsed.value? letter).bind natural?
  match ← readPath (parsed.words.headD "-") with
  | .error fault =>
    complain ((if fault = .isADirectory then "error reading " ++ quote (parsed.words.headD "-")
      else parsed.words.headD "-") ++ ": " ++ fault.reason)
    return 1
  | .ok text =>
    let part := uniqPart ((number 'f').getD 0) ((number 's').getD 0) (number 'w') (parsed.has 'i')
    let groups := runs part ((linesBy mark text).map Line.text)
    let groups := groups.filter fun group =>
      (!(parsed.has 'd' || parsed.has 'D') || group.length > 1) &&
        (!parsed.has 'u' || group.length = 1)
    let shown := groups.flatMap fun group =>
      if parsed.has 'D' then group
      else
        let count := if parsed.has 'c' then padLeft 7 (toString group.length) ++ " " else ""
        [count ++ group.headD ""]
    let output := String.join (shown.map (·.push mark))
    match parsed.words.drop 1 with
    | [] =>
      print output
      return 0
    | path :: _ =>
      match ← writePath path output with
      | .ok () => return 0
      | .error fault =>
        complain (path ++ ": " ++ fault.reason)
        return 1

end ImpToC.Utility
