/-! The options of the command line. Words are read from the left and the first fault is
the answer. A value that stands in a word of its own, and the input path, are held back
and looked at only when the next option begins or the words end; so a fault in a later
word can come first. -/
namespace ImpToC

structure Options where
  inputPath : String
  lex : Bool := false
  parse : Bool := false
  codegen : Bool := false
  emitC : Bool := false
  interpret : Bool := false
  output? : Option String := none
  compiler : String := "cc"
  timeout : Nat := 10
  deriving DecidableEq, Repr

inductive OptionError where
  | unknownArgument | tooManyValues | invalidValue | valueValidation | argumentConflict
  | missingRequiredArgument | displayHelp | displayVersion
  deriving DecidableEq, Repr

namespace Options

inductive Flag where
  | lex | parse | codegen | emitC | interpret
  deriving DecidableEq, Repr

inductive Slot where
  | output | compiler | timeout | input
  deriving DecidableEq, Repr

inductive Named where
  | flag (flag : Flag)
  | slot (slot : Slot)
  | help
  | version
  deriving DecidableEq, Repr

def long? : String → Option Named
  | "lex" => some (.flag .lex)
  | "parse" => some (.flag .parse)
  | "codegen" => some (.flag .codegen)
  | "emit-c" => some (.flag .emitC)
  | "interpret" => some (.flag .interpret)
  | "output" => some (.slot .output)
  | "cc" => some (.slot .compiler)
  | "timeout" => some (.slot .timeout)
  | "help" => some .help
  | "version" => some .version
  | _ => none

def short? : Char → Option Named
  | 'l' => some (.flag .lex)
  | 'p' => some (.flag .parse)
  | 'c' => some (.flag .codegen)
  | 'S' => some (.flag .emitC)
  | 'i' => some (.flag .interpret)
  | 'o' => some (.slot .output)
  | 'h' => some .help
  | 'V' => some .version
  | _ => none

inductive Held where
  | nothing
  | awaiting (slot : Slot)
  | value (slot : Slot) (text : String)
  deriving DecidableEq, Repr

structure Reading where
  flags : List Flag := []
  input? : Option String := none
  output? : Option String := none
  compiler? : Option String := none
  timeout? : Option Nat := none
  held : Held := .nothing
  deriving DecidableEq, Repr

def seconds? (text : String) : Option Nat :=
  let digits := match text.toList with
    | '+' :: digits => digits
    | digits => digits
  if digits.isEmpty || !digits.all Char.isDigit then none
  else
    let value := digits.foldl (fun total c => 10 * total + (c.toNat - '0'.toNat)) 0
    if value < 18446744073709551616 then some value else none

namespace Reading

def fill (reading : Reading) (slot : Slot) (text : String) : Except OptionError Reading :=
  match slot with
  | .output =>
    if reading.output?.isSome then .error .argumentConflict
    else if text.isEmpty then .error .invalidValue
    else .ok { reading with output? := some text }
  | .input =>
    if reading.input?.isSome then .error .argumentConflict
    else if text.isEmpty then .error .invalidValue
    else .ok { reading with input? := some text }
  | .compiler =>
    if reading.compiler?.isSome then .error .argumentConflict
    else .ok { reading with compiler? := some text }
  | .timeout =>
    if reading.timeout?.isSome then .error .argumentConflict
    else
      match seconds? text with
      | none => .error .valueValidation
      | some seconds => .ok { reading with timeout? := some seconds }

def settle (reading : Reading) : Except OptionError Reading :=
  match reading.held with
  | .nothing => .ok reading
  | .awaiting _ => .error .invalidValue
  | .value slot text => { reading with held := .nothing }.fill slot text

def switch (reading : Reading) : Named → Except OptionError Reading
  | .flag flag => do
    let reading ← reading.settle
    if flag ∈ reading.flags then .error .argumentConflict
    else .ok { reading with flags := flag :: reading.flags }
  | .help => do
    let _ ← reading.settle
    .error .displayHelp
  | .version => do
    let _ ← reading.settle
    .error .displayVersion
  | .slot slot => do
    let reading ← reading.settle
    .ok { reading with held := .awaiting slot }

def attach (reading : Reading) (slot : Slot) (text : String) : Except OptionError Reading := do
  let reading ← reading.settle
  reading.fill slot text

def long (reading : Reading) (name : String) (value? : Option String) :
    Except OptionError Reading :=
  match long? name, value? with
  | none, _ => .error .unknownArgument
  | some (.slot slot), some text => reading.attach slot text
  | some _, some _ => .error .tooManyValues
  | some named, none => reading.switch named

def letters (reading : Reading) : List Char → Except OptionError Reading
  | [] => .ok reading
  | c :: rest =>
    match short? c, rest with
    | none, _ => .error .unknownArgument
    | some (.slot slot), '=' :: value => reading.attach slot (String.ofList value)
    | some (.slot slot), d :: value => reading.attach slot (String.ofList (d :: value))
    | some named, rest => do
      let reading ← reading.switch named
      reading.letters rest

def positional (reading : Reading) (word : String) : Except OptionError Reading :=
  match reading.input?, reading.held with
  | some _, _ => .error .unknownArgument
  | none, .value .input _ => .error .unknownArgument
  | none, _ => do
    let reading ← reading.settle
    .ok { reading with held := .value .input word }

def plain (reading : Reading) (word : String) : Except OptionError Reading :=
  match reading.held with
  | .awaiting slot => .ok { reading with held := .value slot word }
  | _ => reading.positional word

/-- The name of a long option and the value after its first `=`. -/
def splitAssigned (word : List Char) : String × Option String :=
  let name := String.ofList (word.takeWhile (· != '='))
  match word.dropWhile (· != '=') with
  | _ :: value => (name, some (String.ofList value))
  | [] => (name, none)

def words (reading : Reading) (onlyPaths : Bool) : List String → Except OptionError Reading
  | [] => reading.settle
  | word :: rest => do
    if onlyPaths then
      let reading ← reading.positional word
      reading.words true rest
    else
      match word.toList with
      | ['-', '-'] => reading.words true rest
      | '-' :: '-' :: name =>
        let (name, value?) := splitAssigned name
        let reading ← reading.long name value?
        reading.words false rest
      | '-' :: c :: cs =>
        let reading ← reading.letters (c :: cs)
        reading.words false rest
      | _ =>
        let reading ← reading.plain word
        reading.words false rest

end Reading

/-- Options that do not go together: interpreting excludes the other stages, and an
output path is for a compiled program or an emitted file. -/
def conflicting (flags : List Flag) (output? : Option String) : Bool :=
  (flags.contains .interpret &&
    flags.any fun flag => flag == .lex || flag == .parse || flag == .codegen || flag == .emitC) ||
  (output?.isSome &&
    flags.any fun flag =>
      flag == .lex || flag == .parse || flag == .codegen || flag == .interpret)

/-- The options that the words after the program's name give. The compiler, if no word
names one, is the one the environment names. -/
def ofWords (words : List String) (environment? : Option String) : Except OptionError Options := do
  let reading ← ({} : Reading).words false words
  if conflicting reading.flags reading.output? then .error .argumentConflict
  else
    match reading.input? with
    | none => .error .missingRequiredArgument
    | some inputPath =>
      .ok
        { inputPath,
          lex := reading.flags.contains .lex,
          parse := reading.flags.contains .parse,
          codegen := reading.flags.contains .codegen,
          emitC := reading.flags.contains .emitC,
          interpret := reading.flags.contains .interpret,
          output? := reading.output?,
          compiler := (reading.compiler?.or environment?).getD "cc",
          timeout := reading.timeout?.getD 10 }

end Options

end ImpToC
