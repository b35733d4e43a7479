import ImpToC.Shell.Parse
import ImpToC.System.World

/-! Processes. What a process does is an action: it changes the process itself and the world
it shares with others, it may end early, and it may have to wait. A process that waits is
a task with a way to go on, and other processes run in the meantime. -/
namespace ImpToC

structure Variable where
  value? : Option String := none
  exported : Bool := false
  fixed : Bool := false

structure Switches where
  failing : Bool := false
  unset : Bool := false
  trace : Bool := false
  literal : Bool := false
  keep : Bool := false
  exporting : Bool := false
  idle : Bool := false
  verbose : Bool := false

structure Process where
  id : Nat
  parent : Nat
  folder : Nat
  place : String := ""
  mask : Nat := 0o022
  descriptors : List (Nat × Nat) := []
  vars : List (String × Variable) := []
  functions : List (String × Shell.Command) := []
  aliases : List (String × String) := []
  known : List (String × String) := []
  shell : Nat
  name : String := "sh"
  origin : String := ""
  args : List String := []
  line : Nat := 1
  status : Nat := 0
  captured : Nat := 0
  switches : Switches := {}
  traps : List (Nat × String) := []
  children : List Nat := []
  lastChild? : Option Nat := none
  waited : List (Nat × Nat) := []
  loops : Nat := 0
  calls : Nat := 0
  tested : Bool := false
  /-- Whether nothing is left to be done after the current command, so that a program can
  take the place of the shell. -/
  last : Bool := false
  optionOffset : Nat := 0
  locals : List (List (String × Option Variable)) := []

namespace Process

def isHarmless (signal : Nat) : Bool := [17, 18, 23, 28].contains signal

/-- Signals that stop a process until another one lets it go on. -/
def isStopping (signal : Nat) : Bool := [19, 20, 21, 22].contains signal

def ignores (traps : List (Nat × String)) (signal : Nat) : Bool :=
  signal != 9 && signal != 19 &&
    match traps.lookup signal with
    | some action => action.isEmpty
    | none => isHarmless signal

def catches (traps : List (Nat × String)) (signal : Nat) : Bool :=
  signal != 9 && signal != 19 && ((traps.lookup signal).map fun action => !action.isEmpty).getD false

/-- Whether a program can take the place of the shell: with traps it still has to watch. -/
def replaceable (process : Process) : Bool :=
  process.last && process.traps.all fun entry => entry.2.isEmpty

/-- Whether a signal ends or stops a process at once. -/
def heeds (traps : List (Nat × String)) (signal : Nat) : Bool :=
  !ignores traps signal && !catches traps signal

end Process

inductive Halt where
  | exit (status : Nat)
  | leave (levels : Nat) (again : Bool)
  | back (status : Nat)
  | killed (signal : Nat)

inductive Event where
  | time (micros : Nat)
  | input (pipe : Nat)
  | room (pipe : Nat)
  | ending (id : Nat)
  | endingOrSignal (id : Nat)
  | continuation

inductive Task where
  | ended (ending : Ending) (world : World)
  | waits (event : Event) (traps : List (Nat × String)) (world : World) (resume : World → Task)
  | forks (id : Nat) (child : World → Task) (world : World) (resume : World → Task)

/-- An action that gives a value, in the form of what it does with whatever comes after
it: after a value, and after an early end. -/
def Act (α : Type) : Type :=
  Process → World → (α → Process → World → Task) → (Halt → Process → World → Task) → Task

namespace Act

instance : Monad Act where
  pure a := fun process world next _ => next a process world
  bind action rest := fun process world next halt =>
    action process world (fun a process world => rest a process world next halt) halt

def throw {α : Type} (fault : Halt) : Act α := fun process world _ halt => halt fault process world

def tryCatch {α : Type} (action : Act α) (handler : Halt → Act α) : Act α :=
  fun process world next halt =>
    action process world next fun fault process world => handler fault process world next halt

def process : Act Process := fun process world next _ => next process process world

def world : Act World := fun process world next _ => next world process world

def setProcess (change : Process → Process) : Act Unit :=
  fun process world next _ => next () (change process) world

def setWorld (change : World → World) : Act Unit :=
  fun process world next _ => next () process (change world)

def changeWorld {α : Type} (change : World → α × World) : Act α := fun process world next _ =>
  let (a, world) := change world
  next a process world

def files : Act FileSystem := fun process world next _ => next world.files process world

def withFiles {α : Type} (change : FileSystem → Nat → Except SystemError (α × FileSystem)) :
    Act (Except SystemError α) := fun process world next _ =>
  match change world.files process.folder with
  | .ok (a, files) => next (.ok a) process { world with files }
  | .error fault => next (.error fault) process world

def changeFiles (change : FileSystem → Nat → Except SystemError FileSystem) :
    Act (Except SystemError Unit) :=
  withFiles fun files folder => return ((), ← change files folder)

def handledSignals : Act (List Nat) := do
  let process ← process
  let world ← world
  return (world.signals.filter fun entry =>
    entry.1 == process.id && Process.catches process.traps entry.2).map Prod.snd

def fatal? (process : Process) (world : World) : Option Nat :=
  (world.signals.find? fun entry =>
    entry.1 == process.id && Process.heeds process.traps entry.2).map Prod.snd

/-- Ends or stops the process if a signal asks for it. The first argument bounds how often it
is stopped in a row. -/
def obeyUpTo : Nat → Act Unit
  | 0 => return
  | bound + 1 => fun process world next halt =>
    match fatal? process world with
    | none =>
      -- What is ignored is gone for good.
      let ignored := fun (entry : Nat × Nat) =>
        entry.1 == process.id && Process.ignores process.traps entry.2
      next () process (if world.signals.any ignored then
        { world with signals := world.signals.filter fun entry => !ignored entry } else world)
    | some signal =>
      let world := { world with signals := world.signals.filter (· != (process.id, signal)) }
      if Process.isStopping signal then
        .waits .continuation process.traps world fun world =>
          obeyUpTo bound process
            { world with signals := world.signals.filter (· != (process.id, 18)) } next halt
      else halt (.killed signal) process world

def obey : Act Unit := obeyUpTo 1000

def wait (event : Event) : Act Unit := do
  fun process world next _ =>
    .waits event process.traps world fun world => next () process world
  obey

def pause (micros : Nat) : Act Unit := wait (.time micros)

def descriptor? (n : Nat) : Act (Option Nat) := return (← process).descriptors.lookup n

def close (n : Nat) : Act Unit := do
  if let some file ← descriptor? n then
    setProcess fun process => { process with
      descriptors := process.descriptors.filter fun entry => entry.1 != n }
    setWorld fun world => world.release file

def assign (n file : Nat) : Act Unit := do
  close n
  setProcess fun process => { process with descriptors := (n, file) :: process.descriptors }

def openPath (path : String) (access : Access) (appends : Bool) :
    Act (Except SystemError Nat) := do
  let mode := 0o666 - (0o666 &&& (← process).mask)
  match ← withFiles fun files folder => do
      let (files, n) ← files.enter folder path access mode
      return (n, files) with
  | .error fault => return .error fault
  | .ok n =>
    let file : OpenFile :=
      { endpoint := .node n, reads := access.reads, writes := access.writes, appends }
    match ((← files).node n).content with
    | .device (.stream descriptor) =>
      match ← descriptor? descriptor with
      | none => return .error .noSuchFile
      | some old =>
        let shared := (← world).file old
        match shared.endpoint with
        | .pipe _ =>
          setWorld fun world => world.retain old
          return .ok old
        | .node m =>
          if access.truncates then
            setWorld fun world => { world with files := world.files.setBytes m fun _ => .empty }
          return .ok (← changeWorld fun world => (world.addFile { file with endpoint := .node m }).swap)
    | _ => return .ok (← changeWorld fun world => (world.addFile file).swap)

def chunk : Nat := 8192

def receiveFrom (index limit : Nat) : Act (Except SystemError ByteArray) := do
  let file := (← world).file index
  if !file.reads then return .error .badDescriptor
  match file.endpoint with
  | .pipe p =>
    let pipe := (← world).pipe p
    if pipe.size = 0 && pipe.writers > 0 then wait (.input p)
    changeWorld fun world =>
      let (bytes, pipe) := (world.pipe p).take limit
      (.ok bytes, world.setPipe p fun _ => pipe)
  | .node m =>
    match ((← files).node m).content with
    | .folder .. => return .error .isADirectory
    | .device .zero | .device .full =>
      pause 1000
      return .ok ⟨Array.replicate (min limit 4096) 0⟩
    | .file bytes =>
      let stop := min bytes.size (file.offset + limit)
      setWorld fun world => world.setFile index fun file => { file with offset := max file.offset stop }
      return .ok (bytes.extract file.offset stop)
    | _ => return .ok .empty

def receive (n limit : Nat) : Act (Except SystemError ByteArray) := do
  match ← descriptor? n with
  | none => return .error .badDescriptor
  | some index => receiveFrom index limit

def unreceive (n count : Nat) : Act Unit := do
  if let some index ← descriptor? n then
    if let .node _ := ((← world).file index).endpoint then
      setWorld fun world => world.setFile index fun file => { file with offset := file.offset - count }

def overwrite (bytes : ByteArray) (offset : Nat) (new : ByteArray) : ByteArray :=
  if offset = bytes.size then bytes ++ new
  else
    let before := if offset ≤ bytes.size then bytes.extract 0 offset
      else bytes ++ ⟨Array.replicate (offset - bytes.size) 0⟩
    before ++ new ++ bytes.extract (offset + new.size) bytes.size

def sendPipe (p : Nat) : Nat → ByteArray → Act (Except SystemError Unit)
  | 0, _ => return .ok ()
  | bound + 1, bytes => do
    if bytes.isEmpty then return .ok ()
    let pipe := (← world).pipe p
    if pipe.room bytes.size = 0 && pipe.readers > 0 then wait (.room p)
    let pipe := (← world).pipe p
    if pipe.readers = 0 then
      if Process.heeds (← process).traps 13 then throw (.killed 13)
      return .error .brokenPipe
    let count := pipe.room bytes.size
    setWorld fun world => world.setPipe p fun pipe => pipe.put (bytes.extract 0 count)
    sendPipe p bound (bytes.extract count bytes.size)

def send (n : Nat) (bytes : ByteArray) : Act (Except SystemError Unit) := do
  let some index ← descriptor? n | return .error .badDescriptor
  let file := (← world).file index
  if !file.writes then return .error .badDescriptor
  match file.endpoint with
  | .pipe p => sendPipe p (bytes.size + 1) bytes
  | .node m =>
    match ((← files).node m).content with
    | .device .full => return if bytes.isEmpty then .ok () else .error .noSpace
    | .file old =>
      let offset := if file.appends then old.size else file.offset
      setWorld fun world =>
        ({ world with files := world.files.setBytes m fun old => overwrite old offset bytes }).setFile
          index fun file => { file with offset := offset + bytes.size }
      return .ok ()
    | _ => return .ok ()

def write (n : Nat) (octets : String) : Act (Except SystemError Unit) :=
  if octets.isEmpty then return .ok () else send n (Octets.toBytes octets)

/-- Counts the descriptors of a process once more, for a process that takes them over. -/
def shareDescriptors : Act Unit := do
  let process ← process
  setWorld fun world => process.descriptors.foldl (fun world entry => world.retain entry.2) world

def newId : Act Nat := changeWorld fun world => (world.nextId, { world with nextId := world.nextId + 1 })

def endingOf : Halt → Ending
  | .exit status => .exited status
  | .back status => .exited status
  | .leave .. => .exited 0
  | .killed signal => .killed signal

def toTask (action : Act Nat) (process : Process) (world : World) : Task :=
  let finish : Ending → Process → World → Task := fun ending process world =>
    .ended ending (process.descriptors.foldl (fun world entry => world.release entry.2) world)
  action process world (fun status => finish (.exited status)) fun halt => finish (endingOf halt)

def beside (prepare : Process → Process) (action : Act Nat) : Act Nat := do
  let id ← newId
  shareDescriptors
  fun process world next _ =>
    let started := { process with
      id, parent := process.id, children := [], waited := [],
      traps := process.traps.filter (·.2.isEmpty) }
    let begun : Act Nat := do
      obey
      setProcess prepare
      action
    .forks id (begun.toTask started) { world with living := (id, process.id) :: world.living }
      fun world => next id { process with waited := [] } world

def ending (id : Nat) : Act Ending := do
  if ((← world).ended.lookup id).isNone then wait (.ending id)
  changeWorld fun world =>
    ((world.ended.lookup id).getD (.exited 127),
      { world with ended := world.ended.filter (·.1 != id) })

def inside (prepare : Process → Process) (action : Act Nat) : Act Ending := do
  ending (← beside prepare action)

def collect (index : Nat) : Nat → ByteArray → Act ByteArray
  | 0, before => return before
  | bound + 1, before => do
    match ← receiveFrom index 65536 with
    | .error _ => return before
    | .ok bytes => if bytes.isEmpty then return before else collect index bound (before ++ bytes)

def capture (prepare : Process → Process) (action : Act Nat) : Act (Ending × String) := do
  let (reader, writer) ← changeWorld fun world =>
    let (world, reader, writer) := world.addPipe (some 65536)
    ((reader, writer), world)
  let id ← beside prepare do
    assign 1 writer
    action
  let bytes ← collect reader 1000000000 .empty
  setWorld fun world => world.release reader
  return (← ending id, Octets.ofBytes bytes)

end Act

end ImpToC
