import ImpToC.System.Error
import ImpToC.System.Octets
import ImpToC.System.Path

/-! Files, folders and links, as a process of an ordinary user sees them. An inode is found
by its number; a folder gives names to numbers, so that one file can have several names.
Names are byte strings. -/
namespace ImpToC

inductive Device where
  | null | zero | full | terminal
  | stream (descriptor : Nat)
  deriving DecidableEq, Repr

inductive Content where
  | file (bytes : ByteArray)
  | folder (parent : Nat) (entries : List (String × Nat))
  | link (target : String)
  | device (device : Device)

/-- A file with its permission bits. Files that are not the user's own belong to the
system, and the last three bits say what may be done with them. The stamp orders the
moments at which contents were last changed. -/
structure Inode where
  content : Content
  mode : Nat
  owned : Bool := true
  stamp : Nat := 0

instance : Inhabited Inode := ⟨⟨.device .null, 0, false, 0⟩⟩

namespace Inode

def isFolder (inode : Inode) : Bool := match inode.content with
  | .folder .. => true
  | _ => false

def isFile (inode : Inode) : Bool := match inode.content with
  | .file _ => true
  | _ => false

def isLink (inode : Inode) : Bool := match inode.content with
  | .link _ => true
  | _ => false

def bytes (inode : Inode) : ByteArray := match inode.content with
  | .file bytes => bytes
  | _ => .empty

def entries (inode : Inode) : List (String × Nat) := match inode.content with
  | .folder _ entries => entries
  | _ => []

/-- The three bits that hold for the user: 4 for reading, 2 for writing, 1 for running a
file or passing through a folder. -/
def rights (inode : Inode) : Nat := (if inode.owned then inode.mode / 64 else inode.mode) % 8

def allows (inode : Inode) (right : Nat) : Bool := inode.rights / right % 2 == 1

end Inode

/-- All inodes, the first of which is the folder `/`, and the folder that relative paths of
the command start from. -/
structure FileSystem where
  inodes : Array Inode := #[]
  work : Nat := 0
  stamp : Nat := 0

/-- Where a path leads: the folder its last name stands in, and what has that name. A path
that ends in no name of its own, such as `..`, has the empty name. -/
structure Location where
  folder : Nat
  name : String
  found? : Option Nat
  slash : Bool

inductive FileError where
  | system (fault : SystemError)
  | notText
  | notAFile
  deriving DecidableEq, Repr

def FileError.message : FileError → String
  | system fault => fault.message
  | notText => "stream did not contain valid UTF-8"
  | notAFile => "the source path is neither a regular file nor a symlink to a regular file"

structure Access where
  reads : Bool := false
  writes : Bool := false
  creates : Bool := false
  truncates : Bool := false
  exclusive : Bool := false

namespace FileSystem

def maxName : Nat := 255
def maxPath : Nat := 4096
def maxLinks : Nat := 40

def maxSteps : Nat := 100000

def node (fs : FileSystem) (n : Nat) : Inode := fs.inodes.getD n default

def parent (fs : FileSystem) (n : Nat) : Nat := match (fs.node n).content with
  | .folder parent _ => parent
  | _ => n

def setNode (fs : FileSystem) (n : Nat) (change : Inode → Inode) : FileSystem :=
  { fs with inodes := fs.inodes.modify n change }

/-- Follows the names of a path from a folder. A link on the way, and at the end if it is
to be followed or a folder is asked for, is replaced by the path it holds. -/
def walk (fs : FileSystem) (follow : Bool) :
    Nat → Nat → Nat → List String → Bool → Except SystemError Location
  | 0, _, _, _, _ => .error .tooManyLinks
  | _ + 1, _, here, [], slash => .ok ⟨here, "", some here, slash⟩
  | steps + 1, links, here, name :: rest, slash =>
    let folder := fs.node here
    if !folder.isFolder then .error .notADirectory
    else if !folder.allows 1 then .error .permissionDenied
    else if name = "." then walk fs follow steps links here rest slash
    else if name = ".." then walk fs follow steps links (fs.parent here) rest slash
    else if name.length > maxName then .error .nameTooLong
    else
      match folder.entries.lookup name with
      | none => if rest.isEmpty then .ok ⟨here, name, none, slash⟩ else .error .noSuchFile
      | some n =>
        match (fs.node n).content with
        | .link target =>
          if rest.isEmpty && !follow && !slash then .ok ⟨here, name, some n, slash⟩
          else if links = 0 then .error .tooManyLinks
          else
            walk fs follow steps (links - 1) (if Path.isAbsolute target then 0 else here)
              (Path.names target ++ rest) (slash || rest.isEmpty && Path.endsWithSlash target)
        | _ =>
          if rest.isEmpty then .ok ⟨here, name, some n, slash⟩
          else walk fs follow steps links n rest slash

def locate (fs : FileSystem) (start : Nat) (path : String) (follow : Bool) :
    Except SystemError Location :=
  if path.isEmpty then .error .noSuchFile
  else if path.length ≥ maxPath then .error .nameTooLong
  else
    walk fs follow maxSteps maxLinks (if Path.isAbsolute path then 0 else start)
      (Path.names path) (Path.endsWithSlash path)

def resolve (fs : FileSystem) (start : Nat) (path : String) (follow : Bool) :
    Except SystemError Nat := do
  let place ← fs.locate start path follow
  match place.found? with
  | none => throw .noSuchFile
  | some n => if place.slash && !(fs.node n).isFolder then throw .notADirectory else return n

def setEntries (fs : FileSystem) (folder : Nat)
    (change : List (String × Nat) → List (String × Nat)) : FileSystem :=
  fs.setNode folder fun inode => match inode.content with
    | .folder parent entries => { inode with content := .folder parent (change entries) }
    | _ => inode

def name (fs : FileSystem) (folder : Nat) (name : String) (n : Nat) : FileSystem :=
  fs.setEntries folder fun entries =>
    entries.filter (fun entry => entry.1 != name) ++ [(name, n)]

def unname (fs : FileSystem) (folder : Nat) (name : String) : FileSystem :=
  fs.setEntries folder fun entries => entries.filter fun entry => entry.1 != name

def add (fs : FileSystem) (folder : Nat) (name : String) (inode : Inode) : FileSystem × Nat :=
  let n := fs.inodes.size
  let stamp := fs.stamp + 1
  (({ fs with inodes := fs.inodes.push { inode with stamp }, stamp }).name folder name n, n)

def vacant (fs : FileSystem) (start : Nat) (path : String) : Except SystemError Location := do
  let place ← fs.locate start path false
  if place.found?.isSome then throw .fileExists
  if !(fs.node place.folder).allows 2 then throw .permissionDenied
  return place

def setBytes (fs : FileSystem) (n : Nat) (change : ByteArray → ByteArray) : FileSystem :=
  let stamp := fs.stamp + 1
  { fs with
    inodes := fs.inodes.modify n fun inode => match inode with
      | ⟨.file bytes, mode, owned, _⟩ => ⟨.file (change bytes), mode, owned, stamp⟩
      | inode => inode,
    stamp }

def touch (fs : FileSystem) (n : Nat) : FileSystem :=
  let stamp := fs.stamp + 1
  { fs with inodes := fs.inodes.modify n fun inode => { inode with stamp }, stamp }

def enter (fs : FileSystem) (start : Nat) (path : String) (access : Access) (mode : Nat) :
    Except SystemError (FileSystem × Nat) := do
  let place ← fs.locate start path (!access.exclusive)
  if access.creates && place.slash && place.name != "" then throw .isADirectory
  match place.found? with
  | none =>
    if !access.creates then throw .noSuchFile
    if !(fs.node place.folder).allows 2 then throw .permissionDenied
    return fs.add place.folder place.name ⟨.file .empty, mode, true, 0⟩
  | some n =>
    let inode := fs.node n
    if access.creates && access.exclusive then throw .fileExists
    if inode.isFolder && (access.writes || access.creates) then throw .isADirectory
    if place.slash && !inode.isFolder then throw .notADirectory
    if access.reads && !inode.allows 4 then throw .permissionDenied
    if access.writes && !inode.allows 2 then throw .permissionDenied
    match inode.content with
    | .device .terminal => throw .noSuchDevice
    | .link _ => throw .tooManyLinks
    | .file _ => return (if access.truncates then fs.setBytes n fun _ => .empty else fs, n)
    | _ => return (fs, n)

def makeFolder (fs : FileSystem) (start : Nat) (path : String) (mode : Nat) :
    Except SystemError FileSystem := do
  let place ← fs.vacant start path
  return (fs.add place.folder place.name ⟨.folder place.folder [], mode, true, 0⟩).1

def unlink (fs : FileSystem) (start : Nat) (path : String) : Except SystemError FileSystem := do
  let place ← fs.locate start path false
  match place.found? with
  | none => throw .noSuchFile
  | some n =>
    if (fs.node n).isFolder then throw .isADirectory
    if place.slash then throw .notADirectory
    if !(fs.node place.folder).allows 2 then throw .permissionDenied
    return fs.unname place.folder place.name

def removeFolder (fs : FileSystem) (start : Nat) (path : String) :
    Except SystemError FileSystem := do
  let place ← fs.locate start path false
  match place.found? with
  | none => throw .noSuchFile
  | some n =>
    if !(fs.node n).isFolder then throw .notADirectory
    if place.name = "" then throw (if (Path.names path).getLast? == some "." then .invalidArgument
      else .notEmpty)
    if !(fs.node place.folder).allows 2 then throw .permissionDenied
    if !(fs.node n).entries.isEmpty then throw .notEmpty
    return fs.unname place.folder place.name

def within (fs : FileSystem) (outer : Nat) : Nat → Nat → Bool
  | 0, _ => false
  | steps + 1, n => n = outer || (n != 0 && within fs outer steps (fs.parent n))

def rename (fs : FileSystem) (start : Nat) (source target : String) :
    Except SystemError FileSystem := do
  let before ← fs.locate start source false
  let after ← fs.locate start target false
  let some n := before.found? | throw .noSuchFile
  let moved := fs.node n
  if !(fs.node before.folder).allows 2 || !(fs.node after.folder).allows 2 then
    throw .permissionDenied
  if moved.isFolder && fs.within n maxPath after.folder then throw .invalidArgument
  if let some m := after.found? then
    let replaced := fs.node m
    if m = n then return fs
    if moved.isFolder && !replaced.isFolder then throw .notADirectory
    if !moved.isFolder && replaced.isFolder then throw .isADirectory
    if !replaced.entries.isEmpty then throw .notEmpty
  if after.slash && !moved.isFolder then throw .notADirectory
  let fs := (fs.unname before.folder before.name).name after.folder after.name n
  return fs.setNode n fun inode => match inode.content with
    | .folder _ entries => { inode with content := .folder after.folder entries }
    | _ => inode

def link (fs : FileSystem) (start : Nat) (source target : String) :
    Except SystemError FileSystem := do
  let n ← fs.resolve start source false
  let inode := fs.node n
  let place ← fs.vacant start target
  if inode.isFolder then throw .notPermitted
  if !inode.owned && !(inode.isFile && inode.allows 4 && inode.allows 2) then
    throw .notPermitted
  if place.slash then throw .noSuchFile
  return fs.name place.folder place.name n

def symlink (fs : FileSystem) (start : Nat) (text target : String) :
    Except SystemError FileSystem := do
  if text.isEmpty then throw .noSuchFile
  let place ← fs.vacant start target
  if place.slash then throw .noSuchFile
  return (fs.add place.folder place.name ⟨.link text, 0o777, true, 0⟩).1

def setMode (fs : FileSystem) (start : Nat) (path : String) (mode : Nat) :
    Except SystemError FileSystem := do
  let n ← fs.resolve start path true
  if !(fs.node n).owned then throw .notPermitted
  return fs.setNode n fun inode => { inode with mode }

def names (fs : FileSystem) (n : Nat) : List String :=
  ((fs.node n).entries.map Prod.fst).mergeSort fun a b => decide (a ≤ b)

def linkCount (fs : FileSystem) (n : Nat) : Nat :=
  if (fs.node n).isFolder then
    2 + ((fs.node n).entries.filter fun entry => (fs.node entry.2).isFolder).length
  else fs.inodes.foldl (fun count inode =>
    count + (inode.entries.filter fun entry => entry.2 == n).length) 0

def pathOf (fs : FileSystem) : Nat → Nat → List String → String
  | 0, _, below => "/" ++ "/".intercalate below
  | steps + 1, n, below =>
    if n = 0 then "/" ++ "/".intercalate below
    else
      let above := fs.parent n
      let name := ((fs.node above).entries.find? fun entry => entry.2 == n).map Prod.fst
      pathOf fs steps above (name.getD "" :: below)

def workPath (fs : FileSystem) (n : Nat) : String := fs.pathOf maxPath n []

/-- Where written bytes go: into the file system, on to a stream of the command, or nowhere. A
file that may be opened but not be given its mode is left empty, and the rest is refused. -/
inductive Written where
  | stored (fs : FileSystem)
  | passedOn (descriptor : Nat) (bytes : ByteArray)
  | dropped
  | refused (fs : FileSystem) (fault : SystemError)

def read (fs : FileSystem) (path : String) : Except SystemError ByteArray := do
  let (_, n) ← fs.enter fs.work (Octets.ofText path) { reads := true } 0
  if (fs.node n).isFolder then throw .isADirectory
  return (fs.node n).bytes

def overwrite (fs : FileSystem) (path : String) (mode : Nat) :
    Except SystemError (FileSystem × Nat) :=
  fs.enter fs.work (Octets.ofText path) { writes := true, creates := true, truncates := true } mode

def pour (fs : FileSystem) (n : Nat) (bytes : ByteArray) : Except SystemError Written :=
  match (fs.node n).content with
  | .device (.stream descriptor) => .ok (.passedOn descriptor bytes)
  | .device .full => if bytes.isEmpty then .ok .dropped else .error .noSpace
  | .device _ => .ok .dropped
  | _ => .ok (.stored (fs.setBytes n fun _ => bytes))

def write (fs : FileSystem) (path : String) (bytes : ByteArray) (mode : Nat) :
    Except SystemError Written := do
  let (fs, n) ← fs.overwrite path mode
  fs.pour n bytes

def writeText (fs : FileSystem) (path text : String) : Except FileError Written :=
  (fs.write path text.toUTF8 0o644).mapError .system

def readText (fs : FileSystem) (path : String) : Except FileError String := do
  let bytes ← (fs.read path).mapError .system
  match String.fromUTF8? bytes with
  | some text => return text
  | none => throw .notText

/-- Copies a file with its mode. The target is opened only once the source has been, and a file
gets its mode before its bytes; so a file that is copied to itself is left empty. -/
def copy (fs : FileSystem) (source target : String) : Except FileError Written := do
  let (_, n) ← (fs.enter fs.work (Octets.ofText source) { reads := true } 0).mapError .system
  let inode := fs.node n
  if !inode.isFile then throw .notAFile
  let (opened, m) ← (fs.overwrite target inode.mode).mapError .system
  let bytes := (opened.node n).bytes
  if !(opened.node m).isFile then (opened.pour m bytes).mapError .system
  else if (opened.node m).owned then
    ((opened.setNode m fun changed => { changed with mode := inode.mode }).pour m bytes).mapError
      .system
  else return .refused opened .notPermitted

end FileSystem

end ImpToC
