import ImpToC.Text.CharClass
import ImpToC.Utility.Sort

/-! Programs that change lines by their columns, fields and characters. -/
namespace ImpToC.Utility

structure Span where
  first : Nat
  last? : Option Nat

def Span.contains (span : Span) (n : Nat) : Bool :=
  span.first ≤ n && (match span.last? with
    | some last => decide (n ≤ last)
    | none => true)

def spansOf (kind : String) (text : String) : Except String (List Span) :=
  let pieces := (text.toList.splitOnP fun c => c = ',' || c = ' ' || c = '\t').map String.ofList
  pieces.mapM fun piece =>
    let zero := (if kind = "field" then "fields are numbered from 1"
      else "byte/character positions are numbered from 1")
    let bad := (if kind = "field" then "invalid field value " else "invalid byte or character range ")
    let number := fun (s : String) => match natural? s with
      | some 0 => .error zero
      | some n => .ok n
      | none => .error (bad ++ quote piece)
    match piece.splitOn "-" with
    | [n] => if n.isEmpty then .error zero else do
      let n ← number n
      return ⟨n, some n⟩
    | ["", ""] => .error ("invalid range with no endpoint: -")
    | ["", last] => do return ⟨1, some (← number last)⟩
    | [first, ""] => do return ⟨← number first, none⟩
    | [first, last] => do
      let first ← number first
      let last ← number last
      if last < first then .error "invalid decreasing range" else return ⟨first, some last⟩
    | _ => .error (bad ++ quote piece)

def chosen {α : Type} (spans : List Span) (complement : Bool) (pieces : List α) : List (Nat × α) :=
  (pieces.zipIdx 1).filterMap fun (piece, n) =>
    if spans.any (·.contains n) != complement then some (n, piece) else none

/-- Whether a chosen position begins a new range. -/
def beginsSpan (spans : List Span) (n : Nat) : Bool :=
  spans.any (·.first == n) && !(spans.any fun span => span.contains n && span.contains (n - 1))

structure Cutting where
  spans : List Span
  fields : Bool
  delimiter : Char
  output? : Option String
  complement : Bool
  onlyDelimited : Bool

def Cutting.line (cutting : Cutting) (line : Line) : String :=
  let chars := line.text.toList
  if cutting.fields then
    if !chars.contains cutting.delimiter then
      if cutting.onlyDelimited then "" else line.text ++ "\n"
    else
      let pieces := (splitChars cutting.delimiter chars).map String.ofList
      let kept := (chosen cutting.spans cutting.complement pieces).map Prod.snd
      (cutting.output?.getD (String.singleton cutting.delimiter)).intercalate kept ++ "\n"
  else
    let kept := chosen cutting.spans cutting.complement chars
    let text := match cutting.output? with
      | none => String.ofList (kept.map Prod.snd)
      | some output => (kept.foldl (fun (text, before?) (n, c) =>
          let gap := match before? with
            | none => ""
            | some before => if n = before + 1 && !beginsSpan cutting.spans n then "" else output
          (text ++ gap ++ String.singleton c, some n)) ("", (none : Option Nat))).1
    text ++ "\n"

def cut (args : List String) : Act Nat :=
  withOptions "b:c:f:d:nsOC:z"
    [("bytes", 'b'), ("characters", 'c'), ("fields", 'f'), ("delimiter", 'd'),
     ("only-delimited", 's'), ("complement", 'O'), ("output-delimiter", 'C')] args fun parsed => do
  match parsed.options.filter fun option => ['b', 'c', 'f'].contains option.1 with
  | [] => misuse "you must specify a list of bytes, characters, or fields" 1
  | [(letter, list)] =>
    let delimiter := (parsed.value? 'd').getD "\t"
    if delimiter.length > 1 then return ← misuse "the delimiter must be a single character" 1
    if letter != 'f' && (parsed.value? 'd').isSome then
      return ← misuse "an input delimiter may be specified only when operating on fields" 1
    if letter != 'f' && parsed.has 's' then
      return ← misuse ("suppressing non-delimited lines makes sense\n" ++
        "\tonly when operating on fields") 1
    match spansOf (if letter = 'f' then "field" else "byte") list with
    | .error message => misuse message 1
    | .ok spans =>
      let cutting : Cutting :=
        { spans, fields := letter = 'f', delimiter := (delimiter.toList.headD '\x00'),
          output? := parsed.value? 'C', complement := parsed.has 'O',
          onlyDelimited := parsed.has 's' }
      overInputs parsed.words (fun path fault => path ++ ": " ++ fault.reason) fun path n => do
        match ← overLines n (fun () line => ⟨(), cutting.line line, true⟩) steps () "" with
        | .ok _ => return 0
        | .error fault =>
          complain (path ++ ": " ++ fault.reason)
          return 1
  | _ => misuse "only one list may be specified" 1

def delimitersOf : List Char → List String
  | '\\' :: 'n' :: rest => "\n" :: delimitersOf rest
  | '\\' :: 't' :: rest => "\t" :: delimitersOf rest
  | '\\' :: '0' :: rest => "" :: delimitersOf rest
  | '\\' :: '\\' :: rest => "\\" :: delimitersOf rest
  | c :: rest => String.singleton c :: delimitersOf rest
  | [] => []

def interleave (delimiters : List String) : Nat → List String → String
  | _, [] => ""
  | _, [piece] => piece
  | n, piece :: rest =>
    piece ++ delimiters.getD (n % max 1 delimiters.length) "" ++ interleave delimiters (n + 1) rest

/-- A row takes the next line of each source; sources of one name share their lines. -/
def pasteRow (paths : List String) (sources : List (String × List String)) :
    List (Option String) × List (String × List String) :=
  paths.foldl (fun (row, sources) path =>
    match sources.lookup path with
    | some (line :: rest) =>
      (row ++ [some line], sources.map fun entry =>
        if entry.1 == path then (path, rest) else entry)
    | _ => (row ++ [none], sources)) ([], sources)

def pasteRows (paths delimiters : List String) : Nat → List (String × List String) → String → String
  | 0, _, output => output
  | bound + 1, sources, output =>
    let (row, sources) := pasteRow paths sources
    if row.all Option.isNone then output
    else pasteRows paths delimiters bound sources
      (output ++ interleave delimiters 0 (row.map (·.getD "")) ++ "\n")

def paste (args : List String) : Act Nat :=
  withOptions "d:sz" [("delimiters", 'd'), ("serial", 's')] args fun parsed => do
  let paths := if parsed.words.isEmpty then ["-"] else parsed.words
  let delimiters := delimitersOf (((parsed.value? 'd').getD "\t").toList)
  let mut sources := []
  for path in paths.eraseDups do
    match ← readPath path with
    | .ok text => sources := sources ++ [(path, (linesOf text).map Line.text)]
    | .error fault =>
      complain (path ++ ": " ++ fault.reason)
      return 1
  if parsed.has 's' then
    for path in paths do
      printLine (interleave delimiters 0 ((sources.lookup path).getD []))
  else
    let total := (sources.map fun source => source.2.length).foldl (· + ·) 0 + 1
    print (pasteRows paths delimiters total sources "")
  return 0

/-- An element of a set of characters: some characters, or one that is repeated, as often
as needed where no number is given. -/
inductive CharItem where
  | chars (cs : List Char)
  | repeated (c : Char) (count? : Option Nat)

def allChars : List Char := (List.range 256).map Char.ofNat

def escapedChar : List Char → Option (Char × List Char)
  | [] => none
  | '\\' :: c :: rest =>
    let isOctal := fun (c : Char) => '0' ≤ c && c ≤ '7'
    if isOctal c then
      let digits := (c :: rest).takeWhile isOctal |>.take 3
      let value := digits.foldl (fun n d => 8 * n + (d.toNat - 48)) 0
      some (Char.ofNat (value % 256), (c :: rest).drop digits.length)
    else
      let value := match c with
        | 'a' => '\x07' | 'b' => '\x08' | 'f' => '\x0c' | 'n' => '\n' | 'r' => '\r'
        | 't' => '\t' | 'v' => '\x0b' | c => c
      some (value, rest)
  | c :: rest => some (c, rest)

def charItems : Nat → List Char → Except String (List CharItem)
  | 0, _ => .ok []
  | _, [] => .ok []
  | bound + 1, '[' :: ':' :: rest =>
    let name := rest.takeWhile (· != ':')
    match rest.drop name.length with
    | ':' :: ']' :: after =>
      let members := allChars.filter fun c => CharClass.inClass (String.ofList name) c
      if members.isEmpty then
        .error ("invalid character class " ++ quote (String.ofList name))
      else (charItems bound after).map (.chars members :: ·)
    | _ => (charItems bound (':' :: rest)).map (.chars ['['] :: ·)
  | bound + 1, text =>
    let plain := fun () => match escapedChar text with
      | none => .ok []
      | some (first, '-' :: rest) =>
        match escapedChar rest with
        | none => .ok [.chars [first, '-']]
        | some (last, after) =>
          if last.toNat < first.toNat then
            .error ("range-endpoints of '" ++ String.ofList [first, '-', last] ++
              "' are in reverse collating sequence order")
          else (charItems bound after).map
            (.chars (allChars.filter fun c => first.toNat ≤ c.toNat && c.toNat ≤ last.toNat) :: ·)
      | some (first, rest) => (charItems bound rest).map (.chars [first] :: ·)
    match text with
    | '[' :: '=' :: c :: '=' :: ']' :: after => (charItems bound after).map (.chars [c] :: ·)
    | '[' :: more => match escapedChar more with
      | some (c, '*' :: after) =>
        let digits := after.takeWhile (· != ']')
        if (after.drop digits.length).isEmpty || !digits.all Char.isDigit then plain ()
        else
          let count? := if digits.isEmpty then none
            else if digits.head? == some '0' then
              some (digits.foldl (fun n d => 8 * n + (d.toNat - 48)) 0)
            else (String.ofList digits).toNat?
          let count? := if count? == some 0 then none else count?
          (charItems bound (after.drop (digits.length + 1))).map (.repeated c count? :: ·)
      | _ => plain ()
    | _ => plain ()

def expandItems (items : List CharItem) (length : Nat) : List Char :=
  let fixed := (items.map fun
    | .chars cs => cs.length
    | .repeated _ count? => count?.getD 0).foldl (· + ·) 0
  items.flatMap fun
    | .chars cs => cs
    | .repeated c count? => List.replicate (count?.getD (length - fixed)) c

structure Transliteration where
  map : List (Char × Char)
  deleted : List Char
  squeezed : List Char

/-- Changes a piece of text; the state is the last character that was written. -/
def Transliteration.apply (rule : Transliteration) : Option Char → String → Option Char × String :=
  let table : Array (Option Char) := (allChars.map fun c =>
    if rule.deleted.contains c then none else some ((rule.map.lookup c).getD c)).toArray
  let squeezed : Array Bool := (allChars.map rule.squeezed.contains).toArray
  fun last? text => text.foldl (fun (last?, output) c =>
    match table.getD c.toNat (some c) with
    | none => (last?, output)
    | some c =>
      if squeezed.getD c.toNat false && last? == some c then (last?, output)
      else (some c, output.push c)) (last?, "")

def tr (args : List String) : Act Nat :=
  withSpec
    { letters := "cCdst", first := true,
      long := [("complement", 'c'), ("delete", 'd'), ("squeeze-repeats", 's'),
        ("truncate-set1", 't')] } unchecked args fun parsed => do
    let deletes := parsed.has 'd'
    let squeezes := parsed.has 's'
    let complements := parsed.has 'c' || parsed.has 'C'
    let needed := if deletes == squeezes then 2 else 1
    let most := if deletes && !squeezes then 1 else 2
    match parsed.words with
    | [] => misuse "missing operand" 1
    | words =>
      if words.length < needed then
        complain ("missing operand after " ++ quote (words.getLastD ""))
        let _ ← Act.write 2 (if squeezes
          then "Two strings must be given when both deleting and squeezing repeats.\n"
          else "Two strings must be given when translating.\n")
        let _ ← Act.write 2 ("Try '" ++ (← Act.process).name ++ " --help' for more information.\n")
        return 1
      if words.length > most then
        complain ("extra operand " ++ quote (words.getD most ""))
        if most = 1 then
          let _ ← Act.write 2
            "Only one string may be given when deleting without squeezing repeats.\n"
        let _ ← Act.write 2 ("Try '" ++ (← Act.process).name ++ " --help' for more information.\n")
        return 1
      let first := words.headD ""
      let second? := words[1]?
      match charItems (first.length + 1) first.toList,
          (second?.map fun s => charItems (s.length + 1) s.toList).getD (.ok []) with
      | .error message, _ | _, .error message =>
        complain message
        return 1
      | .ok items, .ok items' =>
        let set := expandItems items 0
        let set := if complements then allChars.filter fun c => !set.contains c else set
        let set' := expandItems items' set.length
        let translates := !deletes && second?.isSome
        if translates && set'.isEmpty && !parsed.has 't' then
          complain "when not truncating set1, string2 must be non-empty"
          return 1
        let pairs := if !translates then []
          else if parsed.has 't' then set.zip set'
          else
            let filler := List.replicate (set.length - set'.length) (set'.getLastD ' ')
            set.zip (set' ++ filler)
        let rule : Transliteration :=
          { map := pairs.reverse, deleted := if deletes then set else [],
            squeezed := if !squeezes then [] else if second?.isSome then set' else set }
        match ← overChunks 0 rule.apply steps none with
        | .ok _ => return 0
        | .error fault =>
          complain ("read error: " ++ fault.reason)
          return 1

def columnAfter (bytes : Bool) (column : Nat) (c : Char) : Nat :=
  if bytes then column + 1
  else if c = '\t' then column + (8 - column % 8)
  else if c = '\x08' then column - 1
  else if c = '\r' then 0
  else column + 1

def widthOf (bytes : Bool) (text : List Char) : Nat := text.foldl (columnAfter bytes) 0

def foldLine (width : Nat) (bytes spaces : Bool) : Nat → List Char → List Char → List String
  | 0, _, _ => []
  | _, begun, [] => if begun.isEmpty then [] else [String.ofList begun.reverse]
  | bound + 1, begun, c :: rest =>
    if widthOf bytes (c :: begun).reverse ≤ width || begun.isEmpty then
      foldLine width bytes spaces bound (c :: begun) rest
    else
      let kept := begun.dropWhile fun c => !isBlank c
      if spaces && !kept.isEmpty then
        let left := begun.take (begun.length - kept.length)
        String.ofList kept.reverse :: foldLine width bytes spaces bound left (c :: rest)
      else String.ofList begun.reverse :: foldLine width bytes spaces bound [] (c :: rest)

def fold (args : List String) : Act Nat :=
  let args := match args with
    | first :: rest => match first.toList with
      | '-' :: c :: more => if c.isDigit then ("-w" ++ String.ofList (c :: more)) :: rest else args
      | _ => args
    | [] => args
  withOptions "bsw:" [("width", 'w'), ("spaces", 's'), ("bytes", 'b')] args fun parsed => do
  match natural? ((parsed.value? 'w').getD "80") with
  | none =>
    complain ("invalid number of columns: " ++ quote ((parsed.value? 'w').getD ""))
    return 1
  | some 0 =>
    complain ("invalid number of columns: '0': " ++ SystemError.outOfRange.reason)
    return 1
  | some width =>
    let (texts, status) ← readPaths parsed.words
    print (String.join ((texts.flatMap fun text => linesOf text.2).map fun line =>
      let pieces := foldLine width (parsed.has 'b') (parsed.has 's') (2 * line.text.length + 2) []
        line.text.toList
      "\n".intercalate pieces ++ if line.ended then "\n" else ""))
    return status

end ImpToC.Utility
