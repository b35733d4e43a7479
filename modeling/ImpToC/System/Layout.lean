import ImpToC.System.Program

/-! The files of a system on which a command is run by an ordinary user: programs and devices
that belong to the system, and a working folder of the user's own. -/
namespace ImpToC.FileSystem

def install (fs : FileSystem) (path : String) (inode : Inode) : FileSystem :=
  match fs.resolve 0 (Path.folder path) true with
  | .ok folder =>
    let content := match inode.content with
      | .folder _ entries => .folder folder entries
      | content => content
    (fs.add folder (Path.base path) { inode with content }).1
  | .error _ => fs

def systemFolders : List (String × Nat) :=
  [("/boot", 0o755), ("/dev", 0o755), ("/dev/fd", 0o755), ("/dev/shm", 0o1777), ("/etc", 0o755),
   ("/home", 0o755), ("/media", 0o755), ("/mnt", 0o755), ("/opt", 0o755), ("/proc", 0o555),
   ("/proc/self", 0o555), ("/proc/self/fd", 0o555), ("/root", 0o700), ("/run", 0o755),
   ("/srv", 0o755), ("/sys", 0o555), ("/tmp", 0o1777), ("/usr", 0o755), ("/usr/bin", 0o755),
   ("/usr/games", 0o755), ("/usr/include", 0o755), ("/usr/lib", 0o755), ("/usr/local", 0o755),
   ("/usr/local/bin", 0o755), ("/usr/local/lib", 0o755), ("/usr/local/sbin", 0o755),
   ("/usr/sbin", 0o755), ("/usr/share", 0o755), ("/usr/src", 0o755), ("/var", 0o755),
   ("/var/lib", 0o755), ("/var/log", 0o755), ("/var/tmp", 0o1777)]

def systemLinks : List (String × String) :=
  [("/bin", "usr/bin"), ("/lib", "usr/lib"), ("/sbin", "usr/sbin"), ("/var/run", "/run")]

def systemDevices : List (String × Device) :=
  [("/dev/full", .full), ("/dev/null", .null), ("/dev/stderr", .stream 2), ("/dev/stdin", .stream 0),
   ("/dev/stdout", .stream 1), ("/dev/tty", .terminal), ("/dev/zero", .zero), ("/dev/fd/0", .stream 0),
   ("/dev/fd/1", .stream 1), ("/dev/fd/2", .stream 2), ("/proc/self/fd/0", .stream 0),
   ("/proc/self/fd/1", .stream 1), ("/proc/self/fd/2", .stream 2)]

def systemFiles : List (String × Nat × String) :=
  [("/etc/passwd", 0o644, "root:x:0:0:root:/root:/bin/bash\n"), ("/etc/shadow", 0o640, "")]

def system (programs : List String) : FileSystem :=
  let root : FileSystem := { inodes := #[⟨.folder 0 [], 0o755, false, 0⟩] }
  let fs := systemFolders.foldl (fun fs (path, mode) =>
    fs.install path ⟨.folder 0 [], mode, false, 0⟩) root
  let fs := systemLinks.foldl (fun fs (path, target) =>
    fs.install path ⟨.link target, 0o777, false, 0⟩) fs
  let fs := systemDevices.foldl (fun fs (path, device) =>
    fs.install path ⟨.device device, 0o666, false, 0⟩) fs
  let fs := systemFiles.foldl (fun fs (path, mode, octets) =>
    fs.install path ⟨.file (Octets.toBytes octets), mode, false, 0⟩) fs
  programs.foldl (fun fs name =>
    fs.install ("/usr/bin/" ++ name)
      ⟨.file (Octets.toBytes (imageMark ++ name)), 0o755, false, 0⟩) fs

/-- Adds a file of the user's below the working folder, with the folders on the way. -/
def give (fs : FileSystem) (names : List String) (here mode : Nat) (bytes : ByteArray) :
    FileSystem :=
  match names with
  | [] => fs
  | [name] => (fs.add here name ⟨.file bytes, mode, true, 0⟩).1
  | name :: rest =>
    match (fs.node here).entries.lookup name with
    | some n => fs.give rest n mode bytes
    | none =>
      let (fs, n) := fs.add here name ⟨.folder here [], 0o755, true, 0⟩
      fs.give rest n mode bytes

def workIn (fs : FileSystem) (names : List String) (here : Nat) : FileSystem :=
  match names with
  | [] => { fs with work := here }
  | name :: rest =>
    match (fs.node here).entries.lookup name with
    | some n => fs.workIn rest n
    | none =>
      let (fs, n) := fs.add here name ⟨.folder here [], 0o700, true, 0⟩
      fs.workIn rest n

/-- The folder that the command is run in, where nothing says otherwise. -/
def workFolder : List String := ["tmp", ".tmpWork00"]

def ofFiles (programs : List String) (given : List (String × Nat × String)) : FileSystem :=
  given.foldl (fun fs (path, mode, text) =>
    fs.give (Path.names (Octets.ofText path)) fs.work mode text.toUTF8)
    ((system programs).workIn workFolder 0)

def listing (fs : FileSystem) : List (String × ByteArray) :=
  (fs.node fs.work).entries.filterMap fun (name, n) =>
    match (fs.node n).content with
    | .file bytes => some (Octets.toText name, bytes)
    | _ => none

end ImpToC.FileSystem
