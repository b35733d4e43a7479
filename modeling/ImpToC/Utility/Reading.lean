import ImpToC.Text.Floating
import ImpToC.Utility.Basic

/-! Programs that pass on what they read, or a part of it, or count it. -/
namespace ImpToC.Utility

/-- Opens each path in turn and runs an action on its descriptor; standard input without
paths. A path that cannot be opened is complained about in the given words. -/
def overInputs (paths : List String) (refusal : String → SystemError → String)
    (action : String → Nat → Act Nat) : Act Nat := do
  let mut status := 0
  for path in (if paths.isEmpty then ["-"] else paths) do
    match ← openInput path with
    | .error fault =>
      complain (refusal path fault)
      status := 1
    | .ok n =>
      let result ← action path n
      if n = ownDescriptor then Act.close ownDescriptor
      status := max status result
  return status

def overChunks {σ : Type} (n : Nat) (step : σ → String → σ × String) :
    Nat → σ → Act (Except SystemError σ)
  | 0, state => return .ok state
  | bound + 1, state => do
    match ← Act.receive n 65536 with
    | .error fault => return .error fault
    | .ok bytes =>
      if bytes.isEmpty then return .ok state
      let (state, output) := step state (Octets.ofBytes bytes)
      print output
      overChunks n step bound state

structure CatStyle where
  numbered : Bool := false
  numbersFilled : Bool := false
  squeezes : Bool := false
  ends : Bool := false
  tabs : Bool := false
  visible : Bool := false

/-- Where a text that is passed on stands: the lines so far, whether a line begins, and the
empty lines just before. -/
structure CatState where
  lines : Nat := 0
  begins : Bool := true
  empties : Nat := 0

def visibleByte (c : Char) : String :=
  let low := fun (n : Nat) =>
    if n < 32 then "^" ++ String.singleton (Char.ofNat (n + 64))
    else if n = 127 then "^?" else String.singleton (Char.ofNat n)
  if c.toNat < 128 then low c.toNat else "M-" ++ low (c.toNat - 128)

def CatStyle.shown (style : CatStyle) (c : Char) : String :=
  if c = '\t' then if style.tabs then "^I" else "\t"
  else if style.visible then visibleByte c else String.singleton c

def CatStyle.step (style : CatStyle) (state : CatState) (c : Char) : CatState × String :=
  let number := padLeft 6 (toString (state.lines + 1)) ++ "\t"
  if c = '\n' then
    let stop := if style.ends then "$\n" else "\n"
    if !state.begins then ({ state with begins := true }, stop)
    else if style.squeezes && state.empties ≥ 1 then (state, "")
    else if style.numbered && !style.numbersFilled then
      ({ state with lines := state.lines + 1, empties := state.empties + 1 }, number ++ stop)
    else ({ state with empties := state.empties + 1 }, stop)
  else if state.begins && (style.numbered || style.numbersFilled) then
    (⟨state.lines + 1, false, 0⟩, number ++ style.shown c)
  else ({ state with begins := false, empties := 0 }, style.shown c)

def CatStyle.apply (style : CatStyle) (state : CatState) (text : String) : CatState × String :=
  text.foldl (fun (state, output) c =>
    let (state, shown) := style.step state c
    (state, output ++ shown)) (state, "")

/-- Whether reading a descriptor would read what standard output still appends to. -/
def readsOwnOutput (n : Nat) : Act Bool := do
  let world ← Act.world
  match ← Act.descriptor? n, ← Act.descriptor? 1 with
  | some input, some output =>
    match (world.file input).endpoint, (world.file output).endpoint with
    | .node a, .node b =>
      let inode := world.files.node a
      return a == b && inode.isFile && (world.file input).offset < inode.bytes.size
    | _, _ => return false
  | _, _ => return false

def cat (args : List String) : Act Nat :=
  withOptions "AbeEnstTuv"
    [("number-nonblank", 'b'), ("number", 'n'), ("squeeze-blank", 's'), ("show-nonprinting", 'v'),
     ("show-ends", 'E'), ("show-tabs", 'T'), ("show-all", 'A')] args fun parsed => do
  let has := fun (letters : List Char) => letters.any parsed.has
  let style : CatStyle :=
    { numbered := has ['n'], numbersFilled := has ['b'], squeezes := has ['s'],
      ends := has ['E', 'A', 'e'], tabs := has ['T', 'A', 't'], visible := has ['v', 'A', 'e', 't'] }
  let plain := !has ['A', 'b', 'e', 'E', 'n', 's', 't', 'T', 'v']
  let rec go : List String → CatState → Nat → Act Nat
    | [], _, status => return status
    | path :: rest, state, status => do
      match ← openInput path with
      | .error fault =>
        complain (path ++ ": " ++ fault.reason)
        go rest state 1
      | .ok n =>
        if ← readsOwnOutput n then
          complain (path ++ ": input file is output file")
          if n = ownDescriptor then Act.close n
          go rest state 1
        else
          let result ← overChunks n (fun state text =>
            if plain then (state, text) else style.apply state text) steps state
          if n = ownDescriptor then Act.close n
          match result with
          | .ok state => go rest state status
          | .error fault =>
            complain (path ++ ": " ++ fault.reason)
            go rest state 1
  go (if parsed.words.isEmpty then ["-"] else parsed.words) {} 0

def tee (args : List String) : Act Nat :=
  withOptions "aip" [("append", 'a'), ("ignore-interrupts", 'i')] args fun parsed => do
  let appends := parsed.has 'a'
  let mut opened : List (Nat × String) := []
  let mut status := 0
  for path in parsed.words do
    match ← Act.openPath path
        { writes := true, creates := true, truncates := !appends } appends with
    | .error fault =>
      complain (path ++ ": " ++ fault.reason)
      status := 1
    | .ok file =>
      let n := ownDescriptor + 1 + opened.length
      Act.assign n file
      opened := opened ++ [(n, path)]
  let rec go : Nat → Nat → Act Nat
    | 0, status => return status
    | bound + 1, status => do
      match ← Act.receive 0 65536 with
      | .error fault =>
        complain ("read error: " ++ fault.reason)
        return 1
      | .ok bytes =>
        if bytes.isEmpty then return status
        let mut now := status
        if let .error fault ← Act.send 1 bytes then
          complain ("'standard output': " ++ fault.reason)
          now := 1
        for (n, path) in opened do
          if let .error fault ← Act.send n bytes then
            complain (path ++ ": " ++ fault.reason)
            now := 1
        go bound now
  go steps status

def yes (args : List String) : Act Nat := do
  let args := match args with
    | "--" :: rest => rest
    | args => args
  let line := (if args.isEmpty then "y" else " ".intercalate args) ++ "\n"
  let bytes := Octets.toBytes (String.join (List.replicate (max 1 (8192 / line.length)) line))
  let rec go : Nat → Act Nat
    | 0 => return 0
    | bound + 1 => do
      match ← Act.send 1 bytes with
      | .error fault =>
        complain ("standard output: " ++ fault.reason)
        return 1
      | .ok () =>
        Act.pause 1000
        go bound
  go steps

structure Amount where
  count : Nat
  sign : Char := ' '
  bytes : Bool := false

def amount? (text : String) (bytes : Bool) : Option Amount :=
  let (sign, digits) := match text.toList with
    | '-' :: rest => ('-', String.ofList rest)
    | '+' :: rest => ('+', String.ofList rest)
    | _ => (' ', text)
  if (digits.toList.head?.map Char.isDigit).getD false then
    (size? digits).map fun count => { count, sign, bytes }
  else none

/-- The count that the options give, the last one first, or ten lines. -/
def amountOf (parsed : Parsed) : Except String Amount :=
  match parsed.options.reverse.find? fun option => option.1 == 'n' || option.1 == 'c' with
  | none => .ok { count := 10 }
  | some (letter, value) => match amount? value (letter == 'c') with
    | some amount => .ok amount
    | none => .error
      ("invalid number of " ++ (if letter == 'c' then "bytes" else "lines") ++ ": " ++ quote value)

def withCount (args : List String) : List String :=
  match args with
  | first :: rest => match first.toList with
    | '-' :: c :: more =>
      if c.isDigit then
        let digits := (c :: more).takeWhile Char.isDigit
        let letters := (c :: more).drop digits.length
        (if letters.contains 'c' then "-c" ++ String.ofList digits
          else "-n" ++ String.ofList digits) ::
          (letters.filter fun l => l == 'q' || l == 'v').map (fun l => String.ofList ['-', l]) ++
          rest
      else args
    | _ => args
  | [] => args

def showsNames (parsed : Parsed) : Bool :=
  match parsed.options.reverse.find? fun option => option.1 == 'q' || option.1 == 'v' with
  | some option => option.1 == 'v'
  | none => parsed.words.length > 1

def partName (path : String) (first : Bool) : String :=
  (if first then "" else "\n") ++ "==> " ++ (if path = "-" then "standard input" else path) ++
    " <==\n"

def passBytes (n : Nat) : Nat → Nat → Act (Except SystemError Unit)
  | 0, _ => return .ok ()
  | bound + 1, count => do
    if count = 0 then return .ok ()
    match ← Act.receive n (min count 8192) with
    | .error fault => return .error fault
    | .ok bytes =>
      if bytes.isEmpty then return .ok ()
      print (Octets.ofBytes bytes)
      passBytes n bound (count - bytes.size)

def parts (parsed : Parsed) (action : Nat → Act (Except SystemError Unit)) : Act Nat := do
  let names := showsNames parsed
  let rec go : List String → Bool → Nat → Act Nat
    | [], _, status => return status
    | path :: rest, first, status => do
      match ← openInput path with
      | .error fault =>
        complain ("cannot open " ++ quote path ++ " for reading: " ++ fault.reason)
        go rest first 1
      | .ok n =>
        if names then print (partName path first)
        let result ← action n
        if n = ownDescriptor then Act.close n
        match result with
        | .ok () => go rest false status
        | .error fault =>
          complain ("error reading " ++ quote (if path = "-" then "standard input" else path) ++
            ": " ++ fault.reason)
          go rest false 1
  go (if parsed.words.isEmpty then ["-"] else parsed.words) true 0

def countLetters : List (String × Char) :=
  [("bytes", 'c'), ("lines", 'n'), ("quiet", 'q'), ("silent", 'q'), ("verbose", 'v'),
   ("zero-terminated", 'z')]

def markOf (parsed : Parsed) : Char := if parsed.has 'z' then '\x00' else '\n'

def head (args : List String) : Act Nat :=
  withOptions "n:c:qvz" countLetters (withCount args) fun parsed => do
  let mark := markOf parsed
  match amountOf parsed with
  | .error message =>
    complain message
    return 1
  | .ok amount => parts parsed fun n => do
    if amount.sign = '-' then
      match ← readAll n steps "" with
      | .error fault => return .error fault
      | .ok text =>
        if amount.bytes then print (String.ofList (text.toList.take (text.length - amount.count)))
        else
          let lines := linesBy mark text
          print (String.join ((lines.take (lines.length - amount.count)).map (Line.wholeBy mark)))
        return .ok ()
    else if amount.bytes then passBytes n steps amount.count
    else if amount.count = 0 then return .ok ()
    else
      match ← overLinesBy mark n
          (fun left line => ⟨left - 1, line.wholeBy mark, decide (left > 1)⟩) steps
          amount.count "" with
      | .ok _ => return .ok ()
      | .error fault => return .error fault

def forever : Nat → Act Unit
  | 0 => return
  | bound + 1 => do
    Act.pause 1000000
    forever bound

def tail (args : List String) : Act Nat :=
  let args := match args with
    | first :: rest => match first.toList with
      | '+' :: c :: more => if c.isDigit then ("-n+" ++ String.ofList (c :: more)) :: rest else args
      | _ => args
    | [] => args
  withSpec
    { letters := "n:c:qvf\x03::Fs:z\x04:",
      long := countLetters ++ [("follow", '\x03'), ("sleep-interval", 's'), ("retry", 'R'),
        ("pid", '\x04')] }
    (fun letter value =>
      let wrong := letter = 's' && ((Floating.number? value.toList).map Prod.snd) != some []
      pure (if wrong then some (.value ("invalid number of seconds: " ++ quote value)) else none))
    (withCount args) fun parsed => do
  let mark := markOf parsed
  match amountOf parsed with
  | .error message =>
    complain message
    return 1
  | .ok amount =>
    let status ← parts parsed fun n => do
      if amount.sign = '+' && !amount.bytes then
        match ← overLinesBy mark n (fun skipped line =>
            if skipped = 0 then ⟨0, line.wholeBy mark, true⟩ else ⟨skipped - 1, "", true⟩) steps
            (amount.count - 1) "" with
        | .ok _ => return .ok ()
        | .error fault => return .error fault
      else
        match ← readAll n steps "" with
        | .error fault => return .error fault
        | .ok text =>
          if amount.bytes then
            let skipped := if amount.sign = '+' then amount.count - 1
              else text.length - amount.count
            print (String.ofList (text.toList.drop skipped))
          else
            let lines := linesBy mark text
            print (String.join ((lines.drop (lines.length - amount.count)).map (Line.wholeBy mark)))
          return .ok ()
    if parsed.has 'f' || parsed.has '\x03' || parsed.has 'F' then forever steps
    return status

def marked (mark : String) (before : Bool) (text : String) : List String :=
  match text.splitOn mark with
  | [] => []
  | first :: rest =>
    if before then first :: rest.map (mark ++ ·)
    else ((first :: rest).dropLast.map (· ++ mark)) ++ [(first :: rest).getLastD ""]

def tac (args : List String) : Act Nat :=
  withOptions "brs:" [("before", 'b'), ("regex", 'r'), ("separator", 's')] args fun parsed => do
  let mark := (parsed.value? 's').getD "\n"
  overInputs parsed.words
    (fun path fault => "failed to open " ++ quote path ++ " for reading: " ++ fault.reason)
    fun path n => do
      match ← readAll n steps "" with
      | .error fault =>
        complain (path ++ ": read error: " ++ fault.reason)
        return 1
      | .ok text =>
        print (String.join (marked mark (parsed.has 'b') text).reverse)
        return 0

def rev (args : List String) : Act Nat :=
  withOptions "" [] args fun parsed =>
  overInputs parsed.words (fun path fault => "cannot open " ++ path ++ ": " ++ fault.reason)
    fun path n => do
      match ← overLines n (fun () line =>
          ⟨(), ({ line with text := String.ofList line.text.toList.reverse } : Line).whole, true⟩)
          steps () "" with
      | .error fault =>
        complain (path ++ ": " ++ fault.reason)
        return 1
      | .ok _ => return 0

structure Counts where
  lines : Nat := 0
  words : Nat := 0
  bytes : Nat := 0
  longest : Nat := 0

instance : Add Counts :=
  ⟨fun a b => ⟨a.lines + b.lines, a.words + b.words, a.bytes + b.bytes, max a.longest b.longest⟩⟩

def isSpace (c : Char) : Bool := c = ' ' || (9 ≤ c.toNat && c.toNat ≤ 13)

/-- Counts, with whether the last byte belongs to a word and the width of the last line. -/
def Counts.step (state : Counts × Bool × Nat) (c : Char) : Counts × Bool × Nat :=
  let (counts, inWord, width) := state
  let width' := if c = '\n' || c = '\r' || c = '\x0c' then 0
    else if c = '\t' then width + (8 - width % 8)
    else if 32 ≤ c.toNat && c.toNat < 127 then width + 1 else width
  let blank := isSpace c
  (⟨counts.lines + (if c = '\n' then 1 else 0),
    counts.words + (if !blank && !inWord then 1 else 0), counts.bytes + 1,
    max counts.longest width'⟩, !blank, width')

def Counts.show (letters : List Char) (width : Nat) (counts : Counts) : String :=
  let columns := (if letters.contains 'l' then [counts.lines] else []) ++
    (if letters.contains 'w' then [counts.words] else []) ++
    (if letters.contains 'm' then [counts.bytes] else []) ++
    (if letters.contains 'c' then [counts.bytes] else []) ++
    (if letters.contains 'L' then [counts.longest] else [])
  " ".intercalate (columns.map fun n => padLeft width (toString n))

def countWidth (paths : List String) (letters : List Char) : Act Nat := do
  if paths.length ≤ 1 && letters.length = 1 then return 1
  let world ← Act.world
  let folder := (← Act.process).folder
  let standard ← Act.descriptor? 0
  let mut total := 0
  let mut least := 1
  for path in (if paths.isEmpty then ["-"] else paths) do
    let found? : Option Nat := if path = "-" then
        standard.bind fun file => match (world.file file).endpoint with
          | .node n => some n
          | .pipe _ => none
      else (world.files.resolve folder path true).toOption
    match found? with
    | some n =>
      if (world.files.node n).isFile then total := total + (world.files.node n).bytes.size
      else least := 7
    | none => if path = "-" then least := 7
  return max least (toString total).length

def wc (args : List String) : Act Nat :=
  withOptions "lwcmL"
    [("lines", 'l'), ("words", 'w'), ("bytes", 'c'), ("chars", 'm'), ("max-line-length", 'L')]
    args fun parsed => do
  let letters := (parsed.options.map Prod.fst).eraseDups
  let letters := if letters.isEmpty then ['l', 'w', 'c'] else letters
  let width ← countWidth parsed.words letters
  let label := fun (path : String) => if parsed.words.isEmpty then "" else " " ++ path
  let rec count (n : Nat) : Nat → Counts × Bool × Nat → Act (Counts × Option SystemError)
    | 0, state => return (state.1, none)
    | bound + 1, state => do
      match ← Act.receive n 65536 with
      | .error fault => return (state.1, some fault)
      | .ok bytes =>
        if bytes.isEmpty then return (state.1, none)
        count n bound ((Octets.ofBytes bytes).foldl Counts.step state)
  let rec go : List String → Counts → Nat → Act (Counts × Nat)
    | [], total, status => return (total, status)
    | path :: rest, total, status => do
      match ← openInput path with
      | .error fault =>
        complain (path ++ ": " ++ fault.reason)
        go rest total 1
      | .ok n =>
        let (counts, fault?) ← count n steps ({}, false, 0)
        if n = ownDescriptor then Act.close n
        if let some fault := fault? then complain (path ++ ": " ++ fault.reason)
        print (counts.show letters width ++ label path ++ "\n")
        go rest (total + counts) (if fault?.isSome then 1 else status)
  let (total, status) ← go (if parsed.words.isEmpty then ["-"] else parsed.words) {} 0
  if parsed.words.length > 1 then print (total.show letters width ++ " total\n")
  return status

end ImpToC.Utility
