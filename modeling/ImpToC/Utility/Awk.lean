import ImpToC.Utility.Awk.Parse
import ImpToC.Utility.Awk.Value
import ImpToC.Utility.Processes
import Std.Data.HashMap

/-! Running programs of patterns and actions on records. -/
namespace ImpToC.Utility.Awk

/-- Something that records are read from: a descriptor, what has been read, and whether that
was all. -/
structure Input where
  descriptor : Nat
  buffer : List Char := []
  ended : Bool := false
  process? : Option Nat := none

structure Output where
  descriptor : Nat
  buffer : String := ""
  process? : Option Nat := none

abbrev Table := Std.HashMap String Value

structure State where
  program : Program
  vars : Std.HashMap String Value := {}
  arrays : Std.HashMap String Table := {}
  locals : List (String × Value) := []
  aliases : List (String × String) := []
  fresh : Nat := 0
  record : String := ""
  fields : Array String := #[]
  split : Bool := false
  main : Input := ⟨0, [], false, none⟩
  operands : List String := []
  opened : Bool := false
  inputs : List (String × Input) := []
  outputs : List (String × Output) := []
  stdout : String := ""
  ranges : List Nat := []
  seed : Nat := 0
  nextDescriptor : Nat := 1100
  exiting : Bool := false

inductive Stop where
  | next | nextFile | leave | again
  | exit (status : Nat)
  | back (value : Value)

abbrev Run := ExceptT Stop (StateT State Act)

namespace Run

def act {α : Type} (action : Act α) : Run α := fun state => do
  return (.ok (← action), state)

def variable_ (name : String) : Run Value := do
  let state ← get
  match state.locals.lookup name with
  | some value => return value
  | none => return (state.vars.get? name).getD .none

def textOf (name : String) : Run String := do
  let state ← get
  return ((state.vars.get? name).getD .none).toText "%.6g"

def convert : Run String := textOf "CONVFMT"

def toText (value : Value) : Run String := do
  match value with
  | .number x => if Value.isWhole x then return Value.wholeText x else return value.toText (← convert)
  | value => return value.toText ""

def arrayName (name : String) : Run String := do
  return ((← get).aliases.lookup name).getD name

def array (name : String) : Run Table := do
  return ((← get).arrays.get? (← arrayName name)).getD {}

def setArray (name : String) (change : Table → Table) : Run Unit := do
  let key ← arrayName name
  modify fun state =>
    let table := (state.arrays.get? key).getD {}
    { state with arrays := (state.arrays.erase key).insert key (change table) }

def setVar (name : String) (value : Value) : Run Unit :=
  modify fun state => { state with vars := state.vars.insert name value }

/-- The parts of a text between matches of an expression. Empty matches do not count. -/
def piecesBy (regex : Regex) (text : String) : List String :=
  let subject := Regex.Subject.ofString text false
  let size := subject.text.size
  let rec go : Nat → Nat → Nat → List String
    | 0, from_, _ => [subject.slice from_ size]
    | bound + 1, from_, i => match regex.find? subject i with
      | none => [subject.slice from_ size]
      | some found =>
        if found.first < found.last then
          subject.slice from_ found.first :: go bound found.last found.last
        else if found.last < size then go bound from_ (found.last + 1)
        else [subject.slice from_ size]
  if text.isEmpty then [] else go (2 * size + 2) 0 0

/-- The parts of a text between separators: runs of blanks, a character, or an expression. -/
def pieces (separator text : String) : List String :=
  if separator = " " then
    ((text.toList.splitOnP Value.isBlankChar).filter (!·.isEmpty)).map String.ofList
  else if text.isEmpty then []
  else if separator.isEmpty then text.toList.map String.singleton
  else if separator.length = 1 then text.splitOn separator
  else match Regex.read dialect separator with
    | .error _ => [text]
    | .ok regex => piecesBy regex text

def splitRecord : Run Unit := do
  let state ← get
  if !state.split then
    let separator ← textOf "FS"
    let separator := if (← textOf "RS").isEmpty && separator != " " then
        "(" ++ separator ++ ")|\n" else separator
    let fields := (pieces separator state.record).toArray
    modify fun state => { state with fields, split := true }
    setVar "NF" (.number fields.size.toFloat)

def setRecord (text : String) : Run Unit := do
  modify fun state => { state with record := text, split := false, fields := #[] }

def joinRecord : Run Unit := do
  let separator ← textOf "OFS"
  modify fun state => { state with record := separator.intercalate state.fields.toList }

def field (n : Nat) : Run Value := do
  if n = 0 then return Value.ofInput (← get).record
  splitRecord
  return match (← get).fields[n - 1]? with
    | some text => Value.ofInput text
    | none => .none

def resize (fields : Array String) (n : Nat) : Array String :=
  if fields.size ≥ n then fields.extract 0 n
  else fields ++ Array.replicate (n - fields.size) ""

def setField (n : Nat) (text : String) : Run Unit := do
  if n = 0 then
    setRecord text
    splitRecord
  else
    splitRecord
    modify fun state =>
      let fields := if state.fields.size < n then resize state.fields n else state.fields
      { state with fields := fields.set! (n - 1) text }
    setVar "NF" (.number (← get).fields.size.toFloat)
    joinRecord

def setVariable (name : String) (value : Value) : Run Unit := do
  let state ← get
  if state.locals.any (·.1 == name) then
    modify fun state => { state with
      locals := state.locals.map fun entry => if entry.1 == name then (name, value) else entry }
  else
    if name = "NF" then
      splitRecord
      modify fun state => { state with fields := resize state.fields (truncated value.toNumber).toNat }
      setVar name value
      joinRecord
    else setVar name value

def flush : Run Unit := do
  let text := (← get).stdout
  if !text.isEmpty then
    modify fun state => { state with stdout := "" }
    match ← act (Act.write 1 text) with
    | .ok () => return
    | .error fault =>
      act (complain ("write failure (" ++ fault.reason ++ ")"))
      act (complain "close failure")
      act (Act.throw (.exit 2))

def flushAll : Run Unit := do
  flush
  for (name, output) in (← get).outputs do
    if !output.buffer.isEmpty then
      let _ ← act (Act.write output.descriptor output.buffer)
      modify fun state => { state with outputs := state.outputs.map fun entry =>
        if entry.1 == name then (name, { output with buffer := "" }) else entry }

def put (text : String) : Run Unit := do
  modify fun state => { state with stdout := state.stdout ++ text }
  if (← get).stdout.length > 4096 then flush

def startCommand (start : Starter) (command : String) (n : Nat) : Run (Nat × Nat) := do
  flush
  let (reader, writer) ← act (Act.changeWorld fun world =>
    let (world, reader, writer) := world.addPipe (some 65536)
    ((reader, writer), world))
  let (own, other) := if n = 0 then (writer, reader) else (reader, writer)
  let descriptor := (← get).nextDescriptor
  modify fun state => { state with nextDescriptor := descriptor + 1 }
  let id ← act (Act.beside id do
    Act.assign n other
    match ← start ["sh", "-c", command] with
    | .ok status => return status
    | .error _ => return 127)
  act (Act.assign descriptor own)
  return (descriptor, id)

def closeOutput (name : String) : Run (Option Nat) := do
  match (← get).outputs.lookup name with
  | none => return none
  | some output =>
    if !output.buffer.isEmpty then
      let _ ← act (Act.write output.descriptor output.buffer)
    if output.descriptor > 2 then act (Act.close output.descriptor)
    modify fun state => { state with outputs := state.outputs.filter (·.1 != name) }
    match output.process? with
    | none => return some 0
    | some id => return some (← act (Act.ending id)).status

def outputTo (start : Starter) (name : String) (kind : Char) (text : String) : Run Unit := do
  if kind != '|' && name = "/dev/stdout" || name = "-" then put text
  else if kind != '|' && name = "/dev/stderr" then
    let _ ← act (Act.write 2 text)
  else
    if ((← get).outputs.lookup name).isNone then
      if kind = '|' then
        let (descriptor, id) ← startCommand start name 0
        modify fun state => { state with
          outputs := state.outputs ++ [(name, ⟨descriptor, "", some id⟩)] }
      else
        let appends := kind = 'a'
        match ← act (Act.openPath name
            { writes := true, creates := true, truncates := !appends } appends) with
        | .ok file =>
          let descriptor := (← get).nextDescriptor
          act (Act.assign descriptor file)
          modify fun state => { state with
            nextDescriptor := descriptor + 1,
            outputs := state.outputs ++ [(name, ⟨descriptor, "", none⟩)] }
        | .error fault =>
          flush
          act (complain ("cannot open \"" ++ name ++ "\" for output (" ++ fault.reason ++ ")"))
          act (Act.throw (.exit 2))
    -- The output used last comes first, and is closed first at the end.
    modify fun state => match state.outputs.lookup name with
      | none => state
      | some output => { state with
          outputs := (name, { output with buffer := output.buffer ++ text }) ::
            state.outputs.filter (·.1 != name) }

/-- Takes a record off the front of what has been read; none if more has to be read. -/
def takeRecord (separator : String) (input : Input) : Option (Option String × Input) :=
  let text := input.buffer
  if separator = "\n" || separator.length = 1 then
    let mark := separator.toList.headD '\n'
    let front := text.takeWhile (· != mark)
    match text.drop front.length with
    | _ :: rest => some (some (String.ofList front), { input with buffer := rest })
    | [] =>
      if !input.ended then none
      else if front.isEmpty then some (none, { input with buffer := [] })
      else some (some (String.ofList front), { input with buffer := [] })
  else if separator.isEmpty then
    let text := text.dropWhile (· == '\n')
    let rec paragraph : List Char → List Char → Option (List Char × List Char)
      | '\n' :: '\n' :: rest, before => some (before.reverse, rest.dropWhile (· == '\n'))
      | c :: rest, before => paragraph rest (c :: before)
      | [], _ => none
    match paragraph text [] with
    | some (front, rest) =>
      if rest.isEmpty && !input.ended then none
      else some (some (String.ofList front), { input with buffer := rest })
    | none =>
      if !input.ended then none
      else
        let front := if text.getLast? == some '\n' then text.dropLast else text
        if front.isEmpty then some (none, { input with buffer := [] })
        else some (some (String.ofList front), { input with buffer := [] })
  else
    match Regex.read dialect separator with
    | .error _ => some (none, input)
    | .ok regex =>
      let subject : Regex.Subject := ⟨text.toArray, false⟩
      if !input.ended then none
      else if text.isEmpty then some (none, input)
      else match regex.find? subject 0 with
        | some found =>
          if found.first < found.last then
            some (some (subject.slice 0 found.first),
              { input with buffer := text.drop found.last })
          else some (some (String.ofList text), { input with buffer := [] })
        | none => some (some (String.ofList text), { input with buffer := [] })

def readRecord (separator : String) : Nat → Input → Run (Option String × Input)
  | 0, input => return (none, input)
  | bound + 1, input => do
    match takeRecord separator input with
    | some result => return result
    | none =>
      match ← act (Act.receive input.descriptor 4096) with
      | .error fault =>
        act (complain ("read error (" ++ fault.reason ++ ")"))
        act (Act.throw (.exit 2))
      | .ok bytes =>
        readRecord separator bound
          (if bytes.isEmpty then { input with ended := true }
           else { input with buffer := input.buffer ++ (Octets.ofBytes bytes).toList })

def assignment? (word : String) : Option (String × String) :=
  let name := word.toList.takeWhile Regex.isWordChar
  match name, word.toList.drop name.length with
  | c :: _, '=' :: value =>
    if c.isDigit then none else some (String.ofList name, String.ofList value)
  | _, _ => none

def unescaped (text : String) : String :=
  match quotedText '"' true (text.length + 2) false [] (text.toList ++ ['"']) with
  | some (chars, _) => String.ofList chars
  | none => text

def openNext : Nat → Run Bool
  | 0 => return false
  | bound + 1 => do
    match (← get).operands with
    | [] =>
      if (← get).opened then return false
      modify fun state => { state with main := ⟨0, [], false, none⟩, opened := true }
      return true
    | word :: rest =>
      modify fun state => { state with operands := rest }
      if word.isEmpty then openNext bound
      else match assignment? word with
        | some (name, value) =>
          setVariable name (Value.ofInput (unescaped value))
          openNext bound
        | none =>
          modify fun state => { state with opened := true }
          setVar "FILENAME" (.text word)
          setVar "FNR" (.number 0)
          match ← act (openInput word) with
          | .ok n =>
            modify fun state => { state with main := ⟨n, [], false, none⟩ }
            return true
          | .error fault =>
            flush
            act (complain ("cannot open \"" ++ word ++ "\" (" ++ fault.reason ++ ")"))
            act (Act.throw (.exit 2))

def nextRecord : Nat → Run (Option String)
  | 0 => return none
  | bound + 1 => do
    let state ← get
    if !state.opened then
      if !(← openNext (state.operands.length + 2)) then return none
    let (record?, main) ← readRecord (← textOf "RS") 1000000000 (← get).main
    modify fun state => { state with main }
    match record? with
    | some record => return some record
    | none =>
      if main.descriptor = ownDescriptor then act (Act.close ownDescriptor)
      if ← openNext (state.operands.length + 2) then nextRecord bound else return none

def count (name : String) : Run Unit := do
  let value := ((← get).vars.get? name).getD .none
  setVar name (.number (value.toNumber + 1))

def arithmetic (op : BinaryOp) (x y : Float) : Run Value := do
  match op with
  | .add => return .number (x + y)
  | .sub => return .number (x - y)
  | .mul => return .number (x * y)
  | .pow => return .number (powerOf x y)
  | .div =>
    if y == 0 then
      flush
      act (complain "division by zero")
      act (Act.throw (.exit 2))
    return .number (x / y)
  | .mod =>
    if y == 0 then
      flush
      act (complain "division by zero in %")
      act (Act.throw (.exit 2))
    let q := x / y
    let q := if q < 0 then q.ceil else q.floor
    return .number (x - q * y)
  | _ => return .none

def replacementText (found : String) : List Char → String
  | '\\' :: '&' :: rest => "&" ++ replacementText found rest
  | '\\' :: '\\' :: rest => "\\" ++ replacementText found rest
  | '&' :: rest => found ++ replacementText found rest
  | c :: rest => String.singleton c ++ replacementText found rest
  | [] => ""

def substitute (regex : Regex) (new : String) (all : Bool) (text : String) : Nat × String :=
  let subject := Regex.Subject.ofString text false
  let size := subject.text.size
  let rec go : Nat → Nat → Option Nat → Nat → String → Nat × String
    | 0, i, _, n, output => (n, output ++ subject.slice i size)
    | bound + 1, i, last?, n, output =>
      if i > size then (n, output)
      else match regex.find? subject i with
        | none => (n, output ++ subject.slice i size)
        | some found =>
          if found.first = found.last && last? == some found.first then
            go bound (i + 1) none n (output ++ subject.slice i (i + 1))
          else
            let text := output ++ subject.slice i found.first ++
              replacementText (subject.slice found.first found.last) new.toList
            if !all then (n + 1, text ++ subject.slice found.last size)
            else if found.first = found.last then
              go bound (found.last + 1) none (n + 1)
                (text ++ subject.slice found.last (found.last + 1))
            else go bound found.last (some found.last) (n + 1) text
  go (2 * size + 2) 0 none 0 ""

mutual

def pattern (start : Starter) : Nat → Expr → Run Regex
  | 0, _ => return .empty
  | bound + 1, e => do
    match e with
    | .regex regex => return regex
    | .group (.regex regex) => return regex
    | e =>
      let text ← toText (← eval start bound e)
      match Regex.read dialect text with
      | .ok regex => return regex
      | .error message =>
        flush
        act (complain ("regular expression compile failed (" ++ message ++ ")"))
        act (Act.throw (.exit 2))

def indexText (start : Starter) : Nat → List Expr → Run String
  | 0, _ => return ""
  | bound + 1, index => do
    match index with
    | [] => return ""
    | [e] => toText (← eval start bound e)
    | e :: rest =>
      let first ← toText (← eval start bound e)
      return first ++ (← textOf "SUBSEP") ++ (← indexText start bound rest)

def store (start : Starter) : Nat → Expr → Value → Run Unit
  | 0, _, _ => return
  | bound + 1, target, value => do
    match target with
    | .name name => setVariable name value
    | .field e =>
      let n := truncated (← eval start bound e).toNumber
      if n < 0 then
        flush
        act (complain ("negative field index $" ++ toString n))
        act (Act.throw (.exit 2))
      setField n.toNat (← toText value)
    | .element array index =>
      let key ← indexText start bound index
      setArray array fun table => table.insert key value
    | .group e => store start bound e value
    | _ => return

def eval (start : Starter) : Nat → Expr → Run Value
  | 0, _ => return .none
  | bound + 1, e => do
    match e with
    | .number x => return .number x
    | .text s => return .text s
    | .regex regex =>
      return .ofBool (regex.occurs (Regex.Subject.ofString (← get).record false))
    | .group e => eval start bound e
    | .name name =>
      if name = "NF" then splitRecord
      variable_ name
    | .field e =>
      let n := truncated (← eval start bound e).toNumber
      if n < 0 then
        flush
        act (complain ("negative field index $" ++ toString n))
        act (Act.throw (.exit 2))
      field n.toNat
    | .element name index =>
      let key ← indexText start bound index
      match (← array name).get? key with
      | some value => return value
      | none =>
        setArray name fun table => table.insert key .none
        return .none
    | .unary op e =>
      let value ← eval start bound e
      match op with
      | .plus => return .number value.toNumber
      | .minus => return .number (-value.toNumber)
      | .negate => return .ofBool (!value.toBool)
    | .binary op a b =>
      match op with
      | .both =>
        if (← eval start bound a).toBool then return .ofBool (← eval start bound b).toBool
        else return .ofBool false
      | .either =>
        if (← eval start bound a).toBool then return .ofBool true
        else return .ofBool (← eval start bound b).toBool
      | .concat =>
        let left ← toText (← eval start bound a)
        let right ← toText (← eval start bound b)
        return .text (left ++ right)
      | .lt | .le | .eq | .ne | .gt | .ge =>
        let left ← eval start bound a
        let right ← eval start bound b
        let order := left.compare (← convert) right
        return .ofBool (match op with
          | .lt => order == .lt
          | .le => order != .gt
          | .eq => order == .eq
          | .ne => order != .eq
          | .gt => order == .gt
          | _ => order != .lt)
      | op =>
        let left ← eval start bound a
        let right ← eval start bound b
        arithmetic op left.toNumber right.toNumber
    | .choice c a b =>
      if (← eval start bound c).toBool then eval start bound a else eval start bound b
    | .assign op? target value =>
      match op? with
      | none =>
        let value ← eval start bound value
        store start bound target value
        return value
      | some op =>
        let right ← eval start bound value
        let left ← eval start bound target
        let value ← arithmetic op left.toNumber right.toNumber
        store start bound target value
        return value
    | .change amount before target =>
      let old := (← eval start bound target).toNumber
      store start bound target (.number (old + amount))
      return .number (if before then old else old + amount)
    | .found negated e p =>
      let text ← toText (← eval start bound e)
      let regex ← pattern start bound p
      return .ofBool (regex.occurs (Regex.Subject.ofString text false) != negated)
    | .member index name =>
      let key ← indexText start bound index
      return .ofBool ((← array name).contains key)
    | .call name args => call start bound name args
    | .builtin name args => builtin start bound name args
    | .getLine target? file? command? =>
      let assign := fun (record : String) => do
        match target? with
        | some target => store start bound target (Value.ofInput record)
        | none => setRecord record
      match file?, command? with
      | none, none =>
        match ← nextRecord 1000000 with
        | none => return .number 0
        | some record =>
          assign record
          count "NR"
          count "FNR"
          return .number 1
      | _, _ =>
        let name ← toText (← match file?, command? with
          | some e, _ => eval start bound e
          | _, some e => eval start bound e
          | _, _ => pure .none)
        let input? ← match (← get).inputs.lookup name with
          | some input => pure (some input)
          | none =>
            if command?.isSome then
              let (descriptor, id) ← startCommand start name 1
              pure (some ⟨descriptor, [], false, some id⟩)
            else if name = "-" || name = "/dev/stdin" then
              pure (some ⟨0, [], false, none⟩)
            else
              match ← act (Act.openPath name { reads := true } false) with
              | .error _ => pure none
              | .ok file =>
                let descriptor := (← get).nextDescriptor
                act (Act.assign descriptor file)
                modify fun state => { state with nextDescriptor := descriptor + 1 }
                pure (some ⟨descriptor, [], false, none⟩)
        match input? with
        | none => return .number (-1)
        | some input =>
          let (record?, input) ← readRecord (← textOf "RS") 1000000000 input
          modify fun state => { state with
            inputs := (name, input) :: state.inputs.filter (·.1 != name) }
          match record? with
          | none => return .number 0
          | some record =>
            assign record
            return .number 1

def call (start : Starter) : Nat → String → List Expr → Run Value
  | 0, _, _ => return .none
  | bound + 1, name, args => do
    match (← get).program.functions.find? fun f => f.name == name with
    | none =>
      flush
      act (complain ("function " ++ name ++ " never defined"))
      act (Act.throw (.exit 2))
    | some f =>
      let mut values : List (String × Value) := []
      let mut aliases : List (String × String) := []
      for (param, i) in f.params.zipIdx do
        match args[i]? with
        | some (.name given) =>
          -- A name may stand for an array as well as for a value.
          let value ← variable_ given
          values := values ++ [(param, value)]
          aliases := aliases ++ [(param, ← arrayName given)]
        | some e => values := values ++ [(param, ← eval start bound e)]
        | none =>
          let fresh := (← get).fresh
          modify fun state => { state with fresh := fresh + 1 }
          values := values ++ [(param, .none)]
          aliases := aliases ++ [(param, " " ++ toString fresh)]
      let before ← get
      modify fun state => { state with locals := values, aliases }
      let result ← tryCatch
        (do
          exec start bound f.body
          pure Value.none)
        fun stop => match stop with
          | .back value => pure value
          | stop => throw stop
      modify fun state => { state with locals := before.locals, aliases := before.aliases }
      return result

def builtin (start : Starter) : Nat → String → List Expr → Run Value
  | 0, _, _ => return .none
  | bound + 1, name, args => do
    let number := fun (i : Nat) => do
      match args[i]? with
      | some e => return (← eval start bound e).toNumber
      | none => return (0 : Float)
    let text := fun (i : Nat) => do
      match args[i]? with
      | some e => toText (← eval start bound e)
      | none => return (← get).record
    match name with
    | "length" =>
      match args with
      | [.name given] =>
        let table ← array given
        if table.isEmpty then return .number (← text 0).length.toFloat
        else return .number table.size.toFloat
      | _ => return .number (← text 0).length.toFloat
    | "substr" =>
      let s ← text 0
      let first := Float.round (← number 1)
      let last ← if args.length > 2 then do pure (first + Float.round (← number 2)) else pure 1e15
      let from_ := if first < 1 then 1 else first
      if last ≤ from_ then return .text ""
      else
        return .text (String.ofList ((s.toList.drop ((truncated from_).toNat - 1)).take
          (truncated (last - from_)).toNat))
    | "index" =>
      let s ← text 0
      let t ← text 1
      let parts := s.splitOn t
      return .number (if t.isEmpty then 1 else if parts.length > 1
        then (parts.headD "").length.toFloat + 1 else 0)
    | "split" =>
      let s ← text 0
      let second? : Option Expr := args[1]?
      let array := match second? with
        | some (.name given) => given
        | _ => ""
      let separator? : Option Expr := args[2]?
      let parts ← match separator? with
        | none => do pure (pieces (← textOf "FS") s)
        | some (.regex regex) => pure (piecesBy regex s)
        | some e => do pure (pieces (← toText (← eval start bound e)) s)
      setArray array fun _ => parts.zipIdx.foldl (fun table (part, i) =>
        table.insert (toString (i + 1)) (Value.ofInput part)) {}
      return .number parts.length.toFloat
    | "sub" | "gsub" =>
      let regex ← match args[0]? with
        | some e => pattern start bound e
        | none => pure .empty
      let new ← text 1
      let target := args.getD 2 (.field (.number 0))
      let old ← toText (← eval start bound target)
      let (n, changed) := substitute regex new (name = "gsub") old
      if n > 0 then store start bound target (.text changed)
      return .number n.toFloat
    | "match" =>
      let s ← text 0
      let regex ← match args[1]? with
        | some e => pattern start bound e
        | none => pure .empty
      match regex.find? (Regex.Subject.ofString s false) 0 with
      | some found =>
        setVar "RSTART" (.number (found.first.toFloat + 1))
        setVar "RLENGTH" (.number (found.last - found.first).toFloat)
        return .number (found.first.toFloat + 1)
      | none =>
        setVar "RSTART" (.number 0)
        setVar "RLENGTH" (.number (-1))
        return .number 0
    | "sprintf" => return .text (← format start bound args)
    | "sin" => return .number (← number 0).sin
    | "cos" => return .number (← number 0).cos
    | "atan2" => return .number (Float.atan2 (← number 0) (← number 1))
    | "exp" => return .number (← number 0).exp
    | "log" => return .number (← number 0).log
    | "sqrt" => return .number (← number 0).sqrt
    | "int" =>
      let x ← number 0
      return .number (if x < 0 then x.ceil else x.floor)
    | "rand" =>
      let seed := ((← get).seed * 1103515245 + 12345) % 2147483648
      modify fun state => { state with seed }
      return .number (seed.toFloat / 2147483648)
    | "srand" =>
      let old := (← get).seed
      let seed := (truncated (← number 0)).toNat
      modify fun state => { state with seed }
      return .number old.toFloat
    | "tolower" => return .text (String.ofList ((← text 0).toList.map Char.toLower))
    | "toupper" => return .text (String.ofList ((← text 0).toList.map Char.toUpper))
    | "system" =>
      let command ← text 0
      flushAll
      let ending ← act (Act.inside (fun process => process) do
        match ← start ["sh", "-c", command] with
        | .ok status => return status
        | .error _ => return 127)
      return .number ending.status.toFloat
    | "close" =>
      let name ← text 0
      let closed? ← closeOutput name
      match closed?, (← get).inputs.lookup name with
      | some status, _ => return .number status.toFloat
      | none, some input =>
        if input.descriptor > 2 then act (Act.close input.descriptor)
        modify fun state => { state with inputs := state.inputs.filter (·.1 != name) }
        match input.process? with
        | some id => return .number (← act (Act.ending id)).status.toFloat
        | none => return .number 0
      | none, none => return .number (-1)
    | _ =>
      flushAll
      return .number 0

def format (start : Starter) : Nat → List Expr → Run String
  | 0, _ => return ""
  | bound + 1, args => do
    let values ← args.mapM fun e => eval start bound e
    let template ← toText (values.headD .none)
    match formatted (← convert) (template.length + 1) template.toList values.tail "" with
    | .ok text => return text
    | .error before =>
      put before
      flush
      act (complain ("run time error: not enough arguments passed to printf(\"" ++ template ++
        "\")\n\tFILENAME=\"" ++ (← textOf "FILENAME") ++ "\" FNR=" ++ (← textOf "FNR") ++ " NR=" ++
        (← textOf "NR")))
      act (Act.throw (.exit 2))

def output (start : Starter) : Nat → Target → String → Run Unit
  | 0, _, _ => return
  | bound + 1, target, text => do
    match target with
    | .standard => put text
    | .file e => outputTo start (← toText (← eval start bound e)) '>' text
    | .append e => outputTo start (← toText (← eval start bound e)) 'a' text
    | .command e => outputTo start (← toText (← eval start bound e)) '|' text

def exec (start : Starter) : Nat → Stmt → Run Unit
  | 0, _ => return
  | bound + 1, s => do
    match s with
    | .nothing => return
    | .expr e =>
      let _ ← eval start bound e
    | .print args target =>
      let texts ← args.mapM fun e => do
        match ← eval start bound e with
        | .number x => return (Value.number x).toText (← textOf "OFMT")
        | value => toText value
      let gap ← textOf "OFS"
      let record := (← get).record
      let text := if args.isEmpty then record else gap.intercalate texts
      output start bound target (text ++ (← textOf "ORS"))
    | .printf args target => output start bound target (← format start bound args)
    | .ifThen c a b =>
      if (← eval start bound c).toBool then exec start bound a else exec start bound b
    | .block body => execAll start bound body
    | .loop c body => loop start bound (some c) .nothing body
    | .loopAfter body c =>
      if ← once start bound body then loop start bound (some c) .nothing body
    | .count first c? step body =>
      exec start bound first
      loop start bound c? step body
    | .each name given body =>
      let keys := ((← array given).toList.map Prod.fst).mergeSort fun a b => decide (a ≤ b)
      each start bound name body keys
    | .next => throw .next
    | .nextFile => throw .nextFile
    | .leave => throw .leave
    | .again => throw .again
    | .exit e? =>
      let status ← match e? with
        | some e => do pure (truncated (← eval start bound e).toNumber % 256).toNat
        | none => pure 0
      throw (.exit status)
    | .back e? =>
      let value ← match e? with
        | some e => eval start bound e
        | none => pure .none
      throw (.back value)
    | .delete name index =>
      if index.isEmpty then setArray name fun _ => {}
      else
        let key ← indexText start bound index
        setArray name fun table => table.erase key

def execAll (start : Starter) : Nat → List Stmt → Run Unit
  | 0, _ => return
  | bound + 1, body => do
    match body with
    | [] => return
    | s :: rest =>
      exec start bound s
      execAll start bound rest

/-- Runs the body of a loop once; whether the loop goes on. -/
def once (start : Starter) : Nat → Stmt → Run Bool
  | 0, _ => return false
  | bound + 1, body =>
    tryCatch
      (do
        exec start bound body
        return true)
      fun stop => match stop with
        | .leave => return false
        | .again => return true
        | stop => throw stop

def loop (start : Starter) : Nat → Option Expr → Stmt → Stmt → Run Unit
  | 0, _, _, _ => return
  | bound + 1, c?, step, body => do
    let holds ← match c? with
      | some c => do pure (← eval start bound c).toBool
      | none => pure true
    if holds then
      act (Act.pause 1)
      if ← once start bound body then
        exec start bound step
        loop start bound c? step body

def each (start : Starter) : Nat → String → Stmt → List String → Run Unit
  | 0, _, _, _ => return
  | bound + 1, name, body, keys => do
    match keys with
    | [] => return
    | key :: rest =>
      setVariable name (Value.ofInput key)
      if ← once start bound body then each start bound name body rest

end

/-- More nested expressions and rounds of loops than a program gets to. -/
def maxRounds : Nat := 1000000000

def action (start : Starter) (rule : Rule) : Run Unit := do
  match rule.action? with
  | some body => exec start maxRounds body
  | none => put ((← get).record ++ (← textOf "ORS"))

/-- Whether the rule at a place is for the record at hand. -/
def selects (start : Starter) (place : Nat) (rule : Rule) : Run Bool := do
  match rule.pattern with
  | .start | .stop => return false
  | .always => return true
  | .holds e => return (← eval start maxRounds e).toBool
  | .range a b =>
    let within := (← get).ranges.contains place
    let begins ← if within then pure true else do pure (← eval start maxRounds a).toBool
    if !begins then return false
    let stops := (← eval start maxRounds b).toBool
    modify fun state => { state with
      ranges := (state.ranges.filter (· != place)) ++ if stops then [] else [place] }
    return true

def isStart (rule : Rule) : Bool := match rule.pattern with
  | .start => true
  | _ => false

def isStop (rule : Rule) : Bool := match rule.pattern with
  | .stop => true
  | _ => false

def records (start : Starter) (rules : List (Rule × Nat)) : Nat → Run Unit
  | 0 => return
  | bound + 1 => do
    match ← nextRecord 1000000 with
    | none => return
    | some record =>
      setRecord record
      count "NR"
      count "FNR"
      tryCatch
        (do
          for (rule, place) in rules do
            if ← selects start place rule then action start rule)
        fun stop => match stop with
          | .next => return
          | .nextFile => modify fun state => { state with
              main := { state.main with buffer := [], ended := true } }
          | stop => throw stop
      records start rules bound

/-- Runs a program: what comes first, the records, what comes last. -/
def whole (start : Starter) : Run Unit := do
  let rules := (← get).program.rules
  let reads := rules.any fun rule => !isStart rule
  let exitOf := fun (stop : Stop) => match stop with
    | .exit status => status
    | _ => 0
  let (status, left) ← tryCatch
    (do
      for rule in rules.filter isStart do
        action start rule
      if reads then records start (rules.zipIdx.filter fun (rule, _) =>
        !isStart rule && !isStop rule) 1000000000
      return (0, false))
    fun stop => return (exitOf stop, true)
  let status ← tryCatch
    (do
      if reads || !left then
        for rule in rules.filter isStop do
          action start rule
      return status)
    fun stop => return match stop with
      | .exit n => if n = 0 then status else n
      | _ => status
  -- Commands are waited for one by one before the rest is written.
  for (name, output) in (← get).outputs do
    if output.process?.isSome then
      let _ ← closeOutput name
  flushAll
  for (name, _) in (← get).outputs do
    let _ ← closeOutput name
  throw (.exit status)

end Run

end Awk

def awkUsage : String :=
  "Usage: mawk [Options] [Program] [file ...]\n\nProgram:\n" ++
  "    The -f option value is the name of a file containing program text.\n" ++
  "    If no -f option is given, a \"--\" ends option processing; the following\n" ++
  "    parameters are the program text.\n\nOptions:\n" ++
  "    -f program-file  Program  text is read from file instead of from the\n" ++
  "                     command-line.  Multiple -f options are accepted.\n" ++
  "    -F value         sets the field separator, FS, to value.\n" ++
  "    -v var=value     assigns value to program variable var.\n" ++
  "    --               unambiguous end of options.\n\n" ++
  "    Implementation-specific options are prefixed with \"-W\".  They can be\n" ++
  "    abbreviated:\n\n" ++
  "    -W version       show version information and exit.\n" ++
  "    -W compat        pre-POSIX 2001.\n" ++
  "    -W dump          show assembler-like listing of program and exit.\n" ++
  "    -W help          show this message and exit.\n" ++
  "    -W interactive   set unbuffered output, line-buffered input.\n" ++
  "    -W exec file     use file as program as well as last option.\n" ++
  "    -W posix         stricter POSIX checking.\n" ++
  "    -W random=number set initial random seed.\n" ++
  "    -W sprintf=number adjust size of sprintf buffer.\n" ++
  "    -W usage         show this message and exit.\n"

open Awk in
def awk (start : Starter) (args : List String) : Act Nat := do
  let parsed := Spec.parse { letters := "F:v:f:W:", first := true } args
  match parsed.faults.head? with
  | some (.option _) =>
    let word := (args.find? fun word => word.startsWith "-").getD ""
    let name := Path.base (← Act.process).name
    let _ ← Act.write 2 (name ++ ": not an option: " ++ word ++ "\n")
    return 2
  | some fault => answer 0 fault
  | none =>
    let mut texts := []
    for (letter, value) in parsed.options do
      if letter = 'f' then
        match ← readPath value with
        | .ok text => texts := texts ++ [text]
        | .error fault =>
          complain ("cannot open \"" ++ value ++ "\" (" ++ fault.reason ++ ")")
          return 2
    if texts.isEmpty && parsed.words.isEmpty then
      let _ ← Act.write 2 awkUsage
      return 0
    let text := if texts.isEmpty then parsed.words.headD "" else "\n".intercalate texts
    let operands := if texts.isEmpty then parsed.words.tail else parsed.words
    match Parse.program text with
    | .error (line, message) =>
      let line := if line = 0 then (text.toList.filter (· == '\n')).length + 2 else line
      let _ ← Act.write 2 ((← Act.process).name ++ ": line " ++ toString line ++ ": " ++ message ++ "\n")
      return 2
    | .ok program =>
      let process ← Act.process
      let environment : Awk.Table := process.vars.foldl (fun table (name, entry) =>
        if entry.exported then
          table.insert name (Value.ofInput (entry.value?.getD "")) else table) {}
      let arguments : Awk.Table := ("awk" :: operands).zipIdx.foldl (fun table (word, i) =>
        table.insert (toString i) (Value.ofInput word)) {}
      let separator := match parsed.value? 'F' with
        | some text => Run.unescaped text
        | none => " "
      let vars : Std.HashMap String Value := Std.HashMap.ofList
        [("FS", .text separator), ("OFS", .text " "), ("ORS", .text "\n"), ("RS", .text "\n"),
         ("SUBSEP", .text "\x1c"), ("CONVFMT", .text "%.6g"), ("OFMT", .text "%.6g"),
         ("NR", .number 0), ("NF", .number 0), ("FNR", .number 0), ("FILENAME", .text ""),
         ("RSTART", .number 0), ("RLENGTH", .number (-1)),
         ("ARGC", .number (operands.length + 1).toFloat)]
      let vars := parsed.options.foldl (fun vars option =>
        if option.1 == 'v' then
          match Run.assignment? option.2 with
          | some (name, value) => vars.insert name (Value.ofInput (Run.unescaped value))
          | none => vars
        else vars) vars
      let state : State :=
        { program, vars, operands,
          arrays := Std.HashMap.ofList [("ENVIRON", environment), ("ARGV", arguments)] }
      match ← (Run.whole start).run state with
      | (.error (.exit status), _) => return status
      | _ => return 0

end ImpToC.Utility
