import ImpToC.System.Mode
import ImpToC.Utility.Reading

/-! Programs that show or compare bytes, or pass them on in blocks. -/
namespace ImpToC.Utility

/-- The first place where two texts differ, with the line it is in; none if one of them ends
there. -/
def firstDifference : List Char → List Char → Nat → Nat → Nat × Nat × Bool
  | a :: as, b :: bs, n, line =>
    if a = b then firstDifference as bs (n + 1) (if a = '\n' then line + 1 else line)
    else (n, line, true)
  | _, _, n, line => (n, line, false)

def visible (c : Char) : String :=
  let low := c.toNat % 128
  (if c.toNat ≥ 128 then "M-" else "") ++
    (if low < 32 then "^" ++ String.singleton (Char.ofNat (low + 64))
     else if low = 127 then "^?" else String.singleton (Char.ofNat low))

def cmp (args : List String) : Act Nat :=
  withOwnHint
    { letters := "bci:ln:sv",
      long := [("print-bytes", 'b'), ("print-chars", 'c'), ("ignore-initial", 'i'), ("verbose", 'l'),
        ("bytes", 'n'), ("silent", 's'), ("quiet", 's')], status := 2 }
    args fun parsed => do
    let (words, skips) := match parsed.words with
      | [first] => ([first, "-"], [])
      | first :: second :: rest => ([first, second] ++ rest.drop 2, rest.take 2)
      | words => (words, [])
    let skips := match parsed.value? 'i' with
      | some text => match text.splitOn ":" with
        | [both] => [both, both]
        | parts => parts
      | none => skips
    if let some bad := skips.find? fun text => (size? text).isNone then
      complain ("invalid --ignore-initial value " ++ quote bad)
      complain (hint (← Act.process).name)
      return 2
    let skip := fun (i : Nat) => ((skips[i]?).bind size?).getD 0
    match words with
    | [first, second] =>
      let a ← readPath first
      let b ← readPath second
      let silent := parsed.has 's'
      match a, b with
      | .ok a, .ok b =>
        let most := ((parsed.value? 'n').bind size?).getD (max a.length b.length)
        let as := (a.toList.drop (skip 0)).take most
        let bs := (b.toList.drop (skip 1)).take most
        let shorter := if as.length < bs.length then first else second
        let (n, line, differs) := firstDifference as bs 0 1
        if !differs && as.length = bs.length then return 0
        if silent then return 1
        if parsed.has 'l' then
          let pairs := ((as.zip bs).zipIdx 1).filter fun ((a, b), _) => a != b
          let width := (toString (min as.length bs.length)).length
          print (String.join (pairs.map fun ((a, b), i) =>
            padLeft width (toString i) ++ " " ++ padLeft 3 (Mode.octal 1 a.toNat) ++ " " ++
              padLeft 3 (Mode.octal 1 b.toNat) ++ "\n"))
          if as.length != bs.length then
            complain ("EOF on " ++ shorter ++
              (if n = 0 && min as.length bs.length = 0 then " which is empty"
               else " after byte " ++ toString (min as.length bs.length)))
          return 1
        if differs then
          let shown := fun (bytes : List Char) =>
            let c := bytes.getD n ' '
            padLeft 3 (Mode.octal 1 c.toNat) ++ " " ++ visible c
          let detail := if parsed.has 'b' then " is " ++ shown as ++ " " ++ shown bs else ""
          printLine (first ++ " " ++ second ++ " differ: " ++
            (if parsed.has 'b' then "byte " else "char ") ++ toString (n + 1) ++ ", line " ++
            toString line ++ detail)
        else if n = 0 then complain ("EOF on " ++ shorter ++ " which is empty")
        else
          let ended := (as.take n).getLast? == some '\n'
          complain ("EOF on " ++ shorter ++ " after byte " ++ toString n ++ ", " ++
            (if ended then "line " ++ toString (line - 1) else "in line " ++ toString line))
        return 1
      | .error fault, _ =>
        if !silent then complain (first ++ ": " ++ fault.reason)
        return 2
      | _, .error fault =>
        if !silent then complain (second ++ ": " ++ fault.reason)
        return 2
    | [] =>
      let name := (← Act.process).name
      complain ("missing operand after " ++ quote name)
      complain (hint name)
      return 2
    | _ =>
      complain ("extra operand " ++ quote (words.getD 2 ""))
      complain (hint (← Act.process).name)
      return 2

structure DumpForm where
  kind : Char
  size : Nat
  printable : Bool := false

def digitsIn (base width n : Nat) : String :=
  let digits := Nat.toDigits base n
  String.ofList (List.replicate (width - digits.length) '0' ++ digits)

def DumpForm.width (form : DumpForm) : Nat :=
  let bits := 8 * form.size
  match form.kind with
  | 'c' | 'a' => 3
  | 'x' => 2 * form.size
  | 'o' => (bits + 2) / 3
  | 'u' => (toString (Nat.pow 2 bits - 1)).length
  | _ => (toString (Nat.pow 2 (bits - 1))).length + 1

def charNames : List String :=
  ["nul", "soh", "stx", "etx", "eot", "enq", "ack", "bel", "bs", "ht", "nl", "vt", "ff", "cr", "so",
   "si", "dle", "dc1", "dc2", "dc3", "dc4", "nak", "syn", "etb", "can", "em", "sub", "esc", "fs",
   "gs", "rs", "us", "sp"]

def DumpForm.unit (form : DumpForm) (bytes : List Nat) : String :=
  let value := bytes.reverse.foldl (fun n b => 256 * n + b) 0
  match form.kind with
  | 'c' => match value with
    | 0 => "\\0" | 7 => "\\a" | 8 => "\\b" | 9 => "\\t" | 10 => "\\n" | 11 => "\\v"
    | 12 => "\\f" | 13 => "\\r"
    | n => if 32 ≤ n && n < 127 then String.singleton (Char.ofNat n) else digitsIn 8 3 n
  | 'a' =>
    let n := value % 128
    if n = 127 then "del" else charNames.getD n (String.singleton (Char.ofNat n))
  | 'x' => digitsIn 16 (2 * form.size) value
  | 'o' => digitsIn 8 form.width value
  | 'u' => toString value
  | _ =>
    let limit := Nat.pow 2 (8 * form.size - 1)
    if value ≥ limit then "-" ++ toString (2 * limit - value) else toString value

/-- Pieces of the same length, the last one filled up. -/
def units (size : Nat) : Nat → List Nat → List (List Nat)
  | 0, _ => []
  | _ + 1, [] => []
  | bound + 1, bytes =>
    let unit := bytes.take size
    (unit ++ List.replicate (size - unit.length) 0) :: units size bound (bytes.drop size)

def DumpForm.row (form : DumpForm) (perRow total : Nat) (bytes : List Nat) : String :=
  let fields := perRow / form.size
  let pad := total - fields * (form.width + 1)
  let shown := (units form.size (bytes.length + 1) bytes).zipIdx.map fun (unit, i) =>
    let left := pad - pad * i / fields
    let next := pad - pad * (i + 1) / fields
    padLeft (form.width + 1 + (left - next)) (form.unit unit)
  let text := String.join shown
  if form.printable then
    padRight total text ++ "  >" ++ String.ofList (bytes.map fun b =>
      if 32 ≤ b && b < 127 then Char.ofNat b else '.') ++ "<"
  else text

def rowsOf (size : Nat) : Nat → List Nat → List (List Nat)
  | 0, _ => []
  | _ + 1, [] => []
  | bound + 1, bytes => bytes.take size :: rowsOf size bound (bytes.drop size)

def dumpForms? : Nat → List Char → Option (List DumpForm)
  | 0, _ => some []
  | _ + 1, [] => some []
  | bound + 1, kind :: rest =>
    let digits := rest.takeWhile Char.isDigit
    let (size?, rest) := if !digits.isEmpty then
        ((String.ofList digits).toNat?, rest.drop digits.length)
      else match rest with
        | 'C' :: more => (some 1, more)
        | 'S' :: more => (some 2, more)
        | 'I' :: more => (some 4, more)
        | 'L' :: more => (some 8, more)
        | rest => (some (if kind = 'c' || kind = 'a' then 1 else 4), rest)
    let (printable, rest) := match rest with
      | 'z' :: more => (true, more)
      | rest => (false, rest)
    match size? with
    | some size =>
      if "acdoux".toList.contains kind && [1, 2, 4, 8].contains size then
        (dumpForms? bound rest).map (⟨kind, size, printable⟩ :: ·)
      else none
    | none => none

structure Dump where
  forms : List DumpForm
  perRow : Nat
  address : Char
  all : Bool

def Dump.addressText (dump : Dump) (n : Nat) : String := match dump.address with
  | 'n' => ""
  | 'd' => digitsIn 10 7 n
  | 'x' => digitsIn 16 6 n
  | _ => digitsIn 8 7 n

def Dump.rows (dump : Dump) : List (List Nat) → Nat → Option (List Nat) → Bool → String → String
  | [], at_, _, _, output =>
    output ++ if dump.address = 'n' then "" else dump.addressText at_ ++ "\n"
  | row :: rest, at_, before?, starred, output =>
    if !dump.all && before? == some row && row.length = dump.perRow then
      dump.rows rest (at_ + row.length) before? true (if starred then output else output ++ "*\n")
    else
      let total := dump.forms.foldl (fun n form =>
        max n (dump.perRow / form.size * (form.width + 1))) 0
      let lines := dump.forms.zipIdx.map fun (form, i) =>
        let address := dump.addressText at_
        (if i = 0 then address else String.ofList (List.replicate address.length ' ')) ++
          form.row dump.perRow total row ++ "\n"
      dump.rows rest (at_ + row.length) (some row) false (output ++ String.join lines)

def checkForm (letter : Char) (value : String) : Act (Option Misuse) := do
  if letter = 'A' && !("doxn".toList.contains (value.toList.headD ' ')) then
    return some (.value ("invalid output address radix " ++ quote value ++
      "; it must be one character from [doxn]"))
  if letter = 't' && (dumpForms? (value.length + 1) value.toList).isNone then
    let wrong := (value.toList.find? fun c => !("acdouxfz".contains c || c.isDigit)).getD
      (value.toList.headD ' ')
    complain ("invalid character '" ++ String.singleton wrong ++ "' in type string " ++ quote value)
  return none

def od (args : List String) : Act Nat :=
  withSpec
    { letters := "A:t:N:j:vw:abcdoxsiBDefFhHIlLOX",
      long := [("address-radix", 'A'), ("format", 't'), ("read-bytes", 'N'), ("skip-bytes", 'j'),
        ("output-duplicates", 'v'), ("width", 'w')] } checkForm args fun parsed => do
  let mut forms : List DumpForm := []
  for (letter, value) in parsed.options do
    match letter with
    | 't' => match dumpForms? (value.length + 1) value.toList with
      | some more => forms := forms ++ more
      | none => return 1
    | 'a' => forms := forms ++ [⟨'a', 1, false⟩]
    | 'b' => forms := forms ++ [⟨'o', 1, false⟩]
    | 'c' => forms := forms ++ [⟨'c', 1, false⟩]
    | 'd' => forms := forms ++ [⟨'u', 2, false⟩]
    | 'o' => forms := forms ++ [⟨'o', 2, false⟩]
    | 'x' => forms := forms ++ [⟨'x', 2, false⟩]
    | 's' => forms := forms ++ [⟨'d', 2, false⟩]
    | 'i' => forms := forms ++ [⟨'d', 4, false⟩]
    | _ => pure ()
  if forms.isEmpty then forms := [⟨'o', 2, false⟩]
  let (texts, status) ← readPaths parsed.words
  if texts.isEmpty then return status
  let bytes := (String.join (texts.map Prod.snd)).toList.map Char.toNat
  let skipped := ((parsed.value? 'j').bind size?).getD 0
  if skipped > bytes.length then
    complain "cannot skip past end of combined input"
    return 1
  let bytes := bytes.drop skipped
  let bytes := match (parsed.value? 'N').bind size? with
    | some n => bytes.take n
    | none => bytes
  let dump : Dump :=
    { forms, perRow := max 1 (((parsed.value? 'w').bind natural?).getD 16),
      address := ((parsed.value? 'A').bind fun s => s.toList.head?).getD 'o', all := parsed.has 'v' }
  print (dump.rows (rowsOf dump.perRow (bytes.length + 1) bytes) skipped none false "")
  return status

def operand? (name : String) (args : List String) : Option String :=
  (args.reverse.find? fun word => word.startsWith (name ++ "=")).map fun word =>
    (word.drop (name.length + 1)).toString

def takeBlocks (n size : Nat) (count? : Option Nat) :
    Nat → Nat → String → Nat × Nat → Act (Except SystemError (String × Nat × Nat))
  | 0, _, text, counts => return .ok (text, counts)
  | bound + 1, taken, text, (whole, short) => do
    if count? == some taken then return .ok (text, whole, short)
    match ← Act.receive n size with
    | .error fault => return .error fault
    | .ok bytes =>
      if bytes.isEmpty then return .ok (text, whole, short)
      let counts := if bytes.size = size then (whole + 1, short) else (whole, short + 1)
      takeBlocks n size count? bound (taken + 1) (text ++ Octets.ofBytes bytes) counts

def swapped : Nat → List Char → List Char
  | bound + 1, a :: b :: rest => b :: a :: swapped bound rest
  | _, rest => rest

def dd (args : List String) : Act Nat :=
  withOptions "" [] args fun parsed => do
  let args := parsed.words
  for word in args do
    if !(["if", "of", "bs", "ibs", "obs", "count", "skip", "seek", "conv", "status", "iflag",
        "oflag"].any fun name => word.startsWith (name ++ "=")) then
      return ← misuse ("unrecognized operand " ++ quote word) 1
  let number := fun (name : String) => (operand? name args).bind size?
  let size := (number "bs").getD ((number "ibs").getD 512)
  for name in ["bs", "ibs", "obs", "count", "skip", "seek"] do
    if let some text := operand? name args then
      if (size? text).isNone || size? text == some 0 && (name.endsWith "bs") then
        complain ("invalid number: " ++ quote text)
        return 1
  let opened ← match operand? "if" args with
    | none => pure (.ok 0)
    | some path => openInput (if path = "-" then "./-" else path)
  match opened with
  | .error fault =>
    complain ("failed to open " ++ quote ((operand? "if" args).getD "") ++ ": " ++ fault.reason)
    return 1
  | .ok n =>
    let conversions := ((operand? "conv" args).getD "").splitOn ","
    let output : Except SystemError Nat ← match operand? "of" args with
      | none => pure (.ok 1)
      | some path =>
        match ← Act.openPath path
            { writes := true, creates := true, truncates := !conversions.contains "notrunc" &&
              (number "seek").getD 0 == 0 } false with
        | .error fault => pure (.error fault)
        | .ok file => do
          Act.assign (ownDescriptor + 1) file
          pure (.ok (ownDescriptor + 1))
    match output with
    | .error fault =>
      complain ("failed to open " ++ quote ((operand? "of" args).getD "") ++ ": " ++ fault.reason)
      return 1
    | .ok out =>
      let _ ← takeBlocks n size (some ((number "skip").getD 0)) steps 0 "" (0, 0)
      let outSize := (number "bs").getD ((number "obs").getD 512)
      let seek := (number "seek").getD 0 * outSize
      if let some file ← Act.descriptor? out then
        Act.setWorld fun world => world.setFile file fun file =>
          { file with offset := file.offset + seek }
      match ← takeBlocks n size (number "count") steps 0 "" (0, 0) with
      | .error fault =>
        complain ("error reading " ++ quote ((operand? "if" args).getD "standard input") ++ ": " ++
          fault.reason)
        if operand? "status" args != some "none" then
          let _ ← Act.write 2 ("0+0 records in\n0+0 records out\n" ++
            "0 bytes copied, 0.0001 s, 0.0 kB/s\n")
        return 1
      | .ok (text, whole, short) =>
        let text := if conversions.contains "ucase" then String.ofList (text.toList.map Char.toUpper)
          else if conversions.contains "lcase" then String.ofList (text.toList.map Char.toLower)
          else if conversions.contains "swab" then
            String.ofList (swapped (text.length + 1) text.toList)
          else text
        let result ← Act.write out text
        let status := operand? "status" args
        if status != some "none" then
          let records := fun (whole short : Nat) (name : String) =>
            toString whole ++ "+" ++ toString short ++ " records " ++ name ++ "\n"
          let rest := if text.length % outSize = 0 then 0 else 1
          let _ ← Act.write 2 (records whole short "in" ++
            if (number "bs").isSome then records whole short "out"
            else records (text.length / outSize) rest "out")
          if status != some "noxfer" then
            let _ ← Act.write 2 (toString text.length ++ " byte" ++
              (if text.length = 1 then "" else "s") ++ " copied, 0.0001 s, 1.0 MB/s\n")
        match result with
        | .ok () => return 0
        | .error fault =>
          complain ("error writing " ++ quote ((operand? "of" args).getD "standard output") ++
            ": " ++ fault.reason)
          return 1

end ImpToC.Utility
