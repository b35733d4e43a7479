import ImpToC.System.FileSystem

/-! The part of the system that processes share: the files, what they hold open, the pipes
between them, the time, and what has become of those that ended. -/
namespace ImpToC

inductive Ending where
  | exited (status : Nat)
  | killed (signal : Nat)
  deriving DecidableEq, Repr

def Ending.status : Ending → Nat
  | exited status => status
  | killed signal => 128 + signal

structure Pipe where
  bytes : ByteArray := .empty
  start : Nat := 0
  readers : Nat := 1
  writers : Nat := 1
  capacity? : Option Nat := some 65536

namespace Pipe

def size (pipe : Pipe) : Nat := pipe.bytes.size - pipe.start

def room (pipe : Pipe) (wanted : Nat) : Nat := match pipe.capacity? with
  | none => wanted
  | some capacity => min wanted (capacity - pipe.size)

def put (pipe : Pipe) (bytes : ByteArray) : Pipe :=
  { pipe with bytes := pipe.bytes ++ bytes }

def take (pipe : Pipe) (limit : Nat) : ByteArray × Pipe :=
  let stop := min pipe.bytes.size (pipe.start + limit)
  (pipe.bytes.extract pipe.start stop,
    if stop = pipe.bytes.size then { pipe with bytes := .empty, start := 0 }
    else { pipe with start := stop })

end Pipe

inductive Endpoint where
  | node (n : Nat)
  | pipe (n : Nat)
  deriving DecidableEq, Repr

/-- A file that has been opened, with the place reached in it. Several descriptors, also of
different processes, may share it. -/
structure OpenFile where
  endpoint : Endpoint
  reads : Bool := true
  writes : Bool := false
  appends : Bool := false
  offset : Nat := 0
  users : Nat := 1

instance : Inhabited OpenFile := ⟨⟨.node 0, false, false, false, 0, 0⟩⟩

structure World where
  files : FileSystem
  opened : Array OpenFile := #[]
  pipes : Array Pipe := #[]
  clock : Nat := 0
  nextId : Nat := 2
  living : List (Nat × Nat) := []
  ended : List (Nat × Ending) := []
  signals : List (Nat × Nat) := []

namespace World

def pipe (world : World) (n : Nat) : Pipe := world.pipes.getD n {}

def file (world : World) (n : Nat) : OpenFile := world.opened.getD n default

def setPipe (world : World) (n : Nat) (change : Pipe → Pipe) : World :=
  { world with pipes := world.pipes.modify n change }

def setFile (world : World) (n : Nat) (change : OpenFile → OpenFile) : World :=
  { world with opened := world.opened.modify n change }

def retain (world : World) (n : Nat) : World :=
  world.setFile n fun file => { file with users := file.users + 1 }

/-- One descriptor less. With the last one a pipe loses a reader or a writer. -/
def release (world : World) (n : Nat) : World :=
  let file := world.file n
  let world := world.setFile n fun file => { file with users := file.users - 1 }
  match file.endpoint, file.users with
  | .pipe p, 1 => world.setPipe p fun pipe =>
    { pipe with
      readers := if file.reads then pipe.readers - 1 else pipe.readers,
      writers := if file.writes then pipe.writers - 1 else pipe.writers }
  | _, _ => world

def addFile (world : World) (file : OpenFile) : World × Nat :=
  ({ world with opened := world.opened.push file }, world.opened.size)

def isLiving (world : World) (id : Nat) : Bool := world.living.any (·.1 == id)

def signal (world : World) (id number : Nat) : World :=
  if world.signals.contains (id, number) then world
  else { world with signals := world.signals ++ [(id, number)] }

/-- The living processes that come from a process, through others that live; the first
argument bounds how many. -/
def descendants (world : World) : Nat → Nat → List Nat
  | 0, _ => []
  | bound + 1, id => (world.living.filter (·.2 == id)).flatMap fun child =>
    child.1 :: world.descendants bound child.1

def settle (world : World) (id : Nat) (ending : Ending) : World :=
  let after := { world with
    living := world.living.filter (·.1 != id),
    ended := (id, ending) :: world.ended,
    signals := world.signals.filter (·.1 != id) }
  match world.living.lookup id with
  | some parent => if world.isLiving parent then after.signal parent 17 else after
  | none => after

def addPipe (world : World) (capacity? : Option Nat) : World × Nat × Nat :=
  let p := world.pipes.size
  let world := { world with pipes := world.pipes.push { capacity? } }
  let (world, reader) := world.addFile { endpoint := .pipe p }
  let (world, writer) := world.addFile { endpoint := .pipe p, reads := false, writes := true }
  (world, reader, writer)

end World

end ImpToC
