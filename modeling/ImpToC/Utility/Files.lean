import ImpToC.System.Mode
import ImpToC.Utility.Basic

/-! Programs that make, name, copy, move and remove files. -/
namespace ImpToC.Utility

def lookAt (path : String) (follow : Bool) : Act (Except SystemError Nat) := do
  return (← Act.files).resolve (← Act.process).folder path follow

def isFolderAt (path : String) : Act Bool := do
  match ← lookAt path true with
  | .ok n => return ((← Act.files).node n).isFolder
  | .error _ => return false

/-- Whether a path, with a link at its end not followed, names something of a kind. -/
def isAt (kind : Inode → Bool) (path : String) : Act Bool := do
  match ← lookAt path false with
  | .ok n => return kind ((← Act.files).node n)
  | .error _ => return false

def isWithin (folder : Nat) (path : String) : Act Bool := do
  match ← lookAt path true with
  | .ok n => return (← Act.files).within folder FileSystem.maxPath n
  | .error _ => return false

def refuse (what : String) (fault : SystemError) : Act Nat := do
  complain (what ++ ": " ++ fault.reason)
  return 1

def onEach (paths : List String) (action : String → Act Nat) : Act Nat :=
  paths.foldlM (fun status path => return max status (← action path)) 0

/-- A mode for new files after the mask of the process. -/
def masked (mode : Nat) : Act Nat := return mode - (mode &&& (← Act.process).mask)

def pathSteps (path : String) : List String :=
  let start := if Path.isAbsolute path then "/" else ""
  let names := Path.names path
  (List.range names.length).map fun i => start ++ "/".intercalate (names.take (i + 1))

def makeFolderAt (path : String) (mode : Nat) : Act (Except SystemError Unit) :=
  Act.changeFiles fun files folder => files.makeFolder folder path mode

def makeFolders (path : String) (mode : Nat) (tell : String → Act Unit) : Act Nat := do
  let usual ← masked 0o777
  let ways := pathSteps path
  let rec go : List String → Act Nat
    | [] => return 0
    | way :: rest => do
      if ← isFolderAt way then go rest
      else
        match ← makeFolderAt way (if rest.isEmpty then mode else usual) with
        | .ok () =>
          tell way
          go rest
        | .error fault =>
          let fault := if fault = .fileExists && !rest.isEmpty then .notADirectory else fault
          refuse ("cannot create directory " ++ quote (if rest.isEmpty then path else way)) fault
  go ways

def mkdir (args : List String) : Act Nat :=
  withOptions "pvm:" [("parents", 'p'), ("mode", 'm'), ("verbose", 'v')] args fun parsed => do
  if parsed.words.isEmpty then return ← misuse "missing operand" 1
  let usual ← masked 0o777
  let mode? := match parsed.value? 'm' with
    | none => some usual
    | some text => Mode.of? 0 true 0o777 text
  match mode? with
  | none =>
    complain ("invalid mode " ++ quote ((parsed.value? 'm').getD ""))
    return 1
  | some mode =>
    let tell := fun (path : String) => do
      if parsed.has 'v' then
        printLine ((← Act.process).name ++ ": created directory " ++ quote path)
    onEach parsed.words fun path => do
      if parsed.has 'p' then makeFolders path mode tell
      else
        match ← makeFolderAt path mode with
        | .ok () =>
          tell path
          return 0
        | .error fault => refuse ("cannot create directory " ++ quote path) fault

def rmdir (args : List String) : Act Nat :=
  withOptions "pvI" [("parents", 'p'), ("verbose", 'v'), ("ignore-fail-on-non-empty", 'I')] args
    fun parsed => do
  if parsed.words.isEmpty then return ← misuse "missing operand" 1
  onEach parsed.words fun path => do
    let ways := if parsed.has 'p' then (pathSteps path).reverse else [path]
    let rec go : List String → Act Nat
      | [] => return 0
      | way :: rest => do
        if parsed.has 'v' then
          printLine ((← Act.process).name ++ ": removing directory, " ++ quote way)
        match ← Act.changeFiles fun files folder => files.removeFolder folder way with
        | .ok () => go rest
        | .error fault =>
          if fault = .notEmpty && parsed.has 'I' then return 0
          refuse ((if parsed.has 'p' && way != path then "failed to remove directory "
            else "failed to remove ") ++ quote way) fault
    go ways

def answerLine : Nat → String → Act String
  | 0, text => return text
  | bound + 1, text => do
    match ← Act.receive 0 1 with
    | .error _ => return text
    | .ok bytes =>
      let octets := Octets.ofBytes bytes
      if octets.isEmpty || octets = "\n" then return text else answerLine bound (text ++ octets)

def agrees (question : String) : Act Bool := do
  let _ ← Act.write 2 ((← Act.process).name ++ ": " ++ question ++ "? ")
  let line ← answerLine 100000 ""
  return line.toLower.startsWith "y"

structure Removal where
  recursive : Bool
  forced : Bool
  folders : Bool
  verbose : Bool
  asks : Bool

def removeAt (removal : Removal) : Nat → String → Act Nat
  | 0, _ => return 1
  | bound + 1, path => do
    let cannot := "cannot remove " ++ quote path
    match ← lookAt path false with
    | .error fault =>
      if removal.forced && (fault = .noSuchFile || fault = .notADirectory) then return 0
      refuse cannot fault
    | .ok n =>
      let files ← Act.files
      let name := Path.base path
      let inode := files.node n
      let kind := if inode.isFolder then "directory" else if inode.isLink then "symbolic link"
        else if inode.isFile then (if inode.bytes.isEmpty then "regular empty file" else "regular file")
        else "character special file"
      if (files.node n).isFolder then
        if !removal.recursive && !removal.folders then return ← refuse cannot .isADirectory
        if name = "." || name = ".." then
          complain ("refusing to remove '.' or '..' directory: skipping " ++ quote path)
          return 1
        let mut status := 0
        if removal.asks && removal.recursive && !inode.entries.isEmpty then
          if !(← agrees ("descend into directory " ++ quote path)) then return 0
        if removal.recursive then
          if !((files.node n).allows 4 && (files.node n).allows 1) &&
              !(files.node n).entries.isEmpty then
            return ← refuse cannot .permissionDenied
          for name in files.names n do
            status := max status (← removeAt removal bound (Path.join path name))
        if status != 0 then return status
        if removal.asks && !(← agrees ("remove " ++ kind ++ " " ++ quote path)) then return 0
        match ← Act.changeFiles fun files folder => files.removeFolder folder path with
        | .ok () =>
          if removal.verbose then printLine ("removed directory " ++ quote path)
          return 0
        | .error fault => refuse cannot fault
      else
        if Path.endsWithSlash path then return ← refuse cannot .notADirectory
        if removal.asks && !(← agrees ("remove " ++ kind ++ " " ++ quote path)) then return 0
        match ← Act.changeFiles fun files folder => files.unlink folder path with
        | .ok () =>
          if removal.verbose then printLine ("removed " ++ quote path)
          return 0
        | .error fault => refuse cannot fault

def maxDepth : Nat := 5000

/-- Tells how to remove files whose names look like options. -/
def hintAtPaths : List String → Act Unit
  | [] => return
  | word :: rest => do
    if word.startsWith "-" && word.length > 1 && (← lookAt word false).isOk then
      let _ ← Act.write 2 ("Try '" ++ (← Act.process).name ++ " ./" ++ word ++
        "' to remove the file " ++ quote word ++ ".\n")
    hintAtPaths rest

def rm (args : List String) : Act Nat := do
  let spec : Spec :=
    { letters := "dfirvIR",
      long := [("force", 'f'), ("interactive", 'i'), ("one-file-system", 'o'),
        ("no-preserve-root", 'n'), ("preserve-root", 'p'), ("recursive", 'r'), ("dir", 'd'),
        ("verbose", 'v')] }
  let parsed := spec.parse args
  if let [.option message] := parsed.faults then
    complain message
    hintAtPaths args
    let _ ← Act.write 2 (hint (← Act.process).name ++ "\n")
    return 1
  spec.settle parsed fun parsed => do
  if parsed.words.isEmpty then
    if parsed.has 'f' then return 0 else return ← misuse "missing operand" 1
  let removal : Removal :=
    ⟨parsed.has 'r' || parsed.has 'R', parsed.has 'f', parsed.has 'd', parsed.has 'v',
      ((parsed.options.filter fun option => option.1 == 'f' || option.1 == 'i').getLast?.map
        Prod.fst) == some 'i'⟩
  onEach parsed.words (removeAt removal maxDepth)

def unlink (args : List String) : Act Nat :=
  withOptions "" [] args fun parsed => do
  match parsed.words with
  | [path] =>
    match ← Act.changeFiles fun files folder => files.unlink folder path with
    | .ok () => return 0
    | .error fault => refuse ("cannot unlink " ++ quote path) fault
  | [] => misuse "missing operand" 1
  | _ :: extra :: _ => misuse ("extra operand " ++ quote extra) 1

/-- The operands of programs that take sources and a target: pairs of a source and the place
for it. The target is a folder for several sources, if it is one, or if the options say so. -/
def placements (parsed : Parsed) (alone : Bool) : Act (Option (List (String × String))) := do
  let into := fun (folder : String) (sources : List String) =>
    some (sources.map fun source => (source, Path.join folder (Path.base source)))
  match parsed.value? 't', parsed.words with
  | some folder, sources@(_ :: _) =>
    if ← isFolderAt folder then return into folder sources
    let fault := match ← lookAt folder true with
      | .error fault => fault
      | .ok _ => .notADirectory
    let _ ← refuse ("target directory " ++ quote folder) fault
    return none
  | _, [] =>
    let _ ← misuse "missing file operand" 1
    return none
  | _, [source] =>
    if alone then return some [(source, "./" ++ Path.base source)]
    let _ ← misuse ("missing destination file operand after " ++ quote source) 1
    return none
  | _, words =>
    let target := words.getLastD ""
    let sources := words.dropLast
    let folder ← isFolderAt target
    if parsed.has 'T' then
      match sources with
      | [source] => return some [(source, target)]
      | _ =>
        let _ ← misuse ("extra operand " ++ quote (words.getD 2 "")) 1
        return none
    else if folder && !(parsed.has 'n' && alone && (← isAt Inode.isLink target)) then
      return into target sources
    else match sources with
      | [source] => return some [(source, target)]
      | _ =>
        let fault := match ← lookAt target true with
          | .error fault => fault
          | .ok _ => .notADirectory
        let _ ← refuse ("target " ++ quote target) fault
        return none

structure Copying where
  recursive : Bool
  forced : Bool
  keepsMode : Bool
  keepsLinks : Bool
  skips : Bool
  verbose : Bool
  links : Bool
  symbolic : Bool
  asks : Bool := false
  backs : Bool := false

def copyBytes (copying : Copying) (source target : String) (inode : Inode) (exists_ : Bool) :
    Act Nat := do
  match ← readPath (if source = "-" then "./-" else source) with
  | .error fault =>
    refuse ((if fault = .isADirectory then "error reading " ++ quote source
      else "cannot open " ++ quote source ++ " for reading")) fault
  | .ok text =>
    let result ← writePath target text
    let result ← match result with
      | .ok () => pure (.ok ())
      | .error fault =>
        if exists_ && copying.forced then
          match ← Act.changeFiles fun files folder => files.unlink folder target with
          | .ok () => writePath target text
          | .error fault => pure (.error fault)
        else pure (.error fault)
    match result with
    | .error fault =>
      let fault := if fault = .isADirectory && Path.endsWithSlash target then .notADirectory else fault
      refuse ("cannot create regular file " ++ quote target) fault
    | .ok () =>
      let mode ← masked inode.mode
      if copying.keepsMode then
        let _ ← Act.changeFiles fun files folder => files.setMode folder target inode.mode
      else if !exists_ then
        let _ ← Act.changeFiles fun files folder => files.setMode folder target mode
      return 0

def sameFile (a b : Except SystemError Nat) : Bool := match a, b with
  | .ok a, .ok b => a == b
  | _, _ => false

def copyAt (copying : Copying) : Nat → Bool → String → String → Act Nat
  | 0, _, _, _ => return 1
  | bound + 1, top, source, target => do
    match ← lookAt source (!copying.keepsLinks && (top || !copying.recursive)) with
    | .error fault => refuse ("cannot stat " ++ quote source) fault
    | .ok n =>
      let inode := (← Act.files).node n
      let there ← lookAt target true
      let name ← lookAt target false
      let exists_ := name.isOk
      if let .error fault := name then
        if fault != .noSuchFile then return ← refuse ("cannot stat " ++ quote target) fault
      let thereFolder ← isFolderAt target
      if inode.isFolder then
        if !copying.recursive then
          complain ("-r not specified; omitting directory " ++ quote source)
          return 1
        if exists_ && !thereFolder then
          complain ("cannot overwrite non-directory " ++ quote target ++ " with directory " ++
            quote source)
          return 1
        if (← isWithin n target) || (← isWithin n (Path.folder target)) then
          complain ("cannot copy a directory, " ++ quote source ++ ", into itself, " ++ quote target)
          return 1
        let made ← if exists_ then pure (.ok ()) else makeFolderAt target (inode.mode ||| 0o700)
        match made with
        | .error fault => refuse ("cannot create directory " ++ quote target) fault
        | .ok () =>
          if copying.verbose && !exists_ then printLine (quote source ++ " -> " ++ quote target)
          if !inode.allows 4 then
            return ← refuse ("cannot access " ++ quote source) .permissionDenied
          let mut status := 0
          for name in (← Act.files).names n do
            status := max status
              (← copyAt copying bound false (Path.join source name) (Path.join target name))
          if !exists_ then
            let mode ← if copying.keepsMode then pure inode.mode else masked inode.mode
            let _ ← Act.changeFiles fun files folder => files.setMode folder target mode
          return status
      else if copying.skips && exists_ then return 0
      else if sameFile (.ok n) there && !(inode.isLink) then
        complain (quote source ++ " and " ++ quote target ++ " are the same file")
        return 1
      else if thereFolder then
        complain ("cannot overwrite directory " ++ quote target ++ " with non-directory")
        return 1
      else if exists_ && !there.isOk && !copying.forced && !inode.isLink then
        complain ("not writing through dangling symlink " ++ quote target)
        return 1
      else
        if copying.asks && exists_ && !(← agrees ("overwrite " ++ quote target)) then return 1
        if copying.backs && exists_ then
          let _ ← Act.changeFiles fun files folder => files.rename folder target (target ++ "~")
        let exists_ := exists_ && !copying.backs
        if copying.verbose then printLine (quote source ++ " -> " ++ quote target ++
          if copying.backs && name.isOk then " (backup: " ++ quote (target ++ "~") ++ ")" else "")
        let make := fun (what : String) (change : FileSystem → Nat → Except SystemError FileSystem) =>
          do
          if exists_ && (copying.forced || inode.isLink) then
            let _ ← Act.changeFiles fun files folder => files.unlink folder target
          match ← Act.changeFiles change with
          | .ok () => return 0
          | .error fault => refuse ("cannot create " ++ what ++ " " ++ quote target) fault
        if copying.links then make "hard link" fun files folder => files.link folder source target
        else if copying.symbolic then
          make "symbolic link" fun files folder => files.symlink folder source target
        else match inode.content with
          | .link text => make "symbolic link" fun files folder => files.symlink folder text target
          | _ => copyBytes copying source target inode exists_

def cp (args : List String) : Act Nat :=
  withOptions "abdfHilLnprst:uvxPRS:TZ"
    [("recursive", 'r'), ("archive", 'a'), ("backup", 'b'), ("interactive", 'i'), ("force", 'f'), ("no-clobber", 'n'), ("verbose", 'v'),
     ("no-target-directory", 'T'), ("target-directory", 't'), ("link", 'l'),
     ("symbolic-link", 's'), ("preserve", 'p'), ("no-dereference", 'P'), ("dereference", 'L'),
     ("update", 'u')] args fun parsed => do
  let recursive := parsed.has 'r' || parsed.has 'R' || parsed.has 'a'
  let copying : Copying :=
    { recursive, forced := parsed.has 'f', keepsMode := parsed.has 'p' || parsed.has 'a',
      keepsLinks := (recursive || parsed.has 'P' || parsed.has 'd') &&
        !(parsed.has 'L' || parsed.has 'H'),
      skips := parsed.has 'n', verbose := parsed.has 'v', links := parsed.has 'l',
      symbolic := parsed.has 's', asks := parsed.has 'i' && !parsed.has 'n',
      backs := parsed.has 'b' }
  match ← placements { parsed with
      options := parsed.options.filter fun option => option.1 != 'n' } false with
  | none => return 1
  | some pairs => pairs.foldlM (fun status (source, target) => do
      return max status (← copyAt copying maxDepth true source target)) 0

def moveAt (parsed : Parsed) (source target : String) : Act Nat := do
  match ← lookAt source false with
  | .error fault => refuse ("cannot stat " ++ quote source) fault
  | .ok n =>
    let there ← lookAt target false
    let inode := (← Act.files).node n
    let thereFolder ← isAt Inode.isFolder target
    if there.isOk && parsed.has 'n' then return 0
    if let .error fault := there then
      if fault != .noSuchFile then return ← refuse ("cannot stat " ++ quote target) fault
    if sameFile (.ok n) there then
      complain (quote source ++ " and " ++ quote target ++ " are the same file")
      return 1
    if there.isOk && inode.isFolder && !thereFolder then
      complain ("cannot overwrite non-directory " ++ quote target ++ " with directory " ++
        quote source)
      return 1
    if !inode.isFolder && thereFolder then
      complain ("cannot overwrite directory " ++ quote target ++ " with non-directory")
      return 1
    if there.isOk && parsed.has 'i' && !parsed.has 'f' &&
        !(← agrees ("overwrite " ++ quote target)) then return 1
    let saved := target ++ "~"
    if there.isOk && parsed.has 'b' then
      let _ ← Act.changeFiles fun files folder => files.rename folder target saved
    match ← Act.changeFiles fun files folder => files.rename folder source target with
    | .ok () =>
      if parsed.has 'v' then
        printLine ("renamed " ++ quote source ++ " -> " ++ quote target ++
          if there.isOk && parsed.has 'b' then " (backup: " ++ quote saved ++ ")" else "")
      return 0
    | .error .invalidArgument =>
      complain ("cannot move " ++ quote source ++ " to a subdirectory of itself, " ++ quote target)
      return 1
    | .error fault => refuse ("cannot move " ++ quote source ++ " to " ++ quote target) fault

def mv (args : List String) : Act Nat :=
  withOptions "bfint:uvS:TZ"
    [("backup", 'b'), ("interactive", 'i'), ("update", 'u'), ("force", 'f'), ("no-clobber", 'n'), ("verbose", 'v'), ("no-target-directory", 'T'),
     ("target-directory", 't')] args fun parsed => do
  match ← placements { parsed with
      options := parsed.options.filter fun option => option.1 != 'n' } false with
  | none => return 1
  | some pairs => pairs.foldlM (fun status (source, target) => do
      return max status (← moveAt parsed source target)) 0

/-- The path without links, `.` and `..`. Missing names are allowed at the end, or also before
it. -/
def canonical (path : String) (missing : Nat) : Act (Except SystemError String) := do
  let files ← Act.files
  let here := (← Act.process).folder
  let rec go : Nat → String → List String → Except SystemError String
    | 0, _, _ => .error .tooManyLinks
    | _, before, [] => .ok (if before.isEmpty then "/" else before)
    | bound + 1, before, name :: rest =>
      if name = "." then go bound before rest
      else if name = ".." then
        go bound (if before.isEmpty then "" else
          let above := Path.folder before
          if above = "/" then "" else above) rest
      else
        let next := before ++ "/" ++ name
        match files.resolve 0 next false with
        | .ok n => match (files.node n).content with
          | .link target =>
            go bound (if Path.isAbsolute target then "" else before) (Path.names target ++ rest)
          | .folder .. => go bound next rest
          | _ => if rest.isEmpty || missing ≥ 2 then go bound next rest else .error .notADirectory
        | .error .noSuchFile =>
          if missing ≥ 2 || missing = 1 && rest.isEmpty then go bound next rest
          else .error .noSuchFile
        | .error fault => if missing ≥ 2 then go bound next rest else .error fault
  if path.isEmpty then return .error .noSuchFile
  let start := if Path.isAbsolute path then "" else
    let work := files.workPath here
    if work = "/" then "" else work
  return go 10000 start (Path.names path)

def linkAt (parsed : Parsed) (source target : String) : Act Nat := do
  let symbolic := parsed.has 's'
  let source ← if !(symbolic && parsed.has 'r') then pure source else do
    match ← canonical source 2, ← canonical (Path.folder target) 2 with
    | .ok whole, .ok folder => pure (Path.relative folder whole)
    | _, _ => pure source
  let kind := if symbolic then "symbolic link " else "hard link "
  let there ← lookAt target false
  let original ← lookAt source (parsed.has 'L')
  if !symbolic then
    if let .error fault := original then
      return ← refuse ("failed to access " ++ quote source) fault
    if ← isFolderAt source then
      complain (source ++ ": hard link not allowed for directory")
      return 1
  if there.isOk && parsed.has 'f' then
    if !symbolic && sameFile original there then
      complain (quote source ++ " and " ++ quote target ++ " are the same file")
      return 1
    if let .ok n := there then
      if ((← Act.files).node n).isFolder then
        complain (target ++ ": cannot overwrite directory")
        return 1
    if let .error fault ← Act.changeFiles fun files folder => files.unlink folder target then
      return ← refuse ("cannot remove " ++ quote target) fault
  let result ← Act.changeFiles fun files folder =>
    if symbolic then files.symlink folder source target else files.link folder source target
  match result with
  | .ok () =>
    if parsed.has 'v' then
      printLine (quote target ++ (if symbolic then " -> " else " => ") ++ quote source)
    return 0
  | .error fault =>
    let arrow := if symbolic then
        if source.isEmpty || fault = .nameTooLong then " -> " ++ quote source else ""
      else if fault = .fileExists || fault = .noSpace then "" else " => " ++ quote source
    refuse ("failed to create " ++ kind ++ quote target ++ arrow) fault

def ln (args : List String) : Act Nat :=
  withSpec
    { letters := "bdfinrst:vFLPS:T",
      long := [("backup", 'b'), ("directory", 'F'), ("no-dereference", 'n'),
        ("no-target-directory", 'T'), ("force", 'f'), ("interactive", 'i'), ("suffix", 'S'),
        ("target-directory", 't'), ("logical", 'L'), ("physical", 'P'), ("relative", 'r'),
        ("symbolic", 's'), ("verbose", 'v')] }
    (fun letter value => do
      if letter != 't' then return none
      match ← lookAt value true with
      | .error fault => return some (.value ("failed to access " ++ quote value ++ ": " ++ fault.reason))
      | .ok n =>
        if ((← Act.files).node n).isFolder then return none
        else return some (.value ("target " ++ quote value ++ " is not a directory")))
    args fun parsed => do
  match ← placements parsed true with
  | none => return 1
  | some pairs => pairs.foldlM (fun status (source, target) => do
      return max status (← linkAt parsed source target)) 0

def link (args : List String) : Act Nat :=
  withOptions "" [] args fun parsed => do
  match parsed.words with
  | [source, target] =>
    match ← Act.changeFiles fun files folder => files.link folder source target with
    | .ok () => return 0
    | .error fault =>
      refuse ("cannot create link " ++ quote target ++ " to " ++ quote source) fault
  | [] => misuse "missing operand" 1
  | [source] => misuse ("missing operand after " ++ quote source) 1
  | _ :: _ :: extra :: _ => misuse ("extra operand " ++ quote extra) 1

def readlink (args : List String) : Act Nat :=
  withOptions "femnqsvz"
    [("canonicalize", 'f'), ("canonicalize-existing", 'e'), ("canonicalize-missing", 'm'),
     ("no-newline", 'n'), ("verbose", 'v')] args fun parsed => do
  if parsed.words.isEmpty then return ← misuse "missing operand" 1
  let stop := if parsed.has 'n' && parsed.words.length = 1 then "" else "\n"
  onEach parsed.words fun path => do
    let wanted? := if parsed.has 'm' then some 2 else if parsed.has 'e' then some 0
      else if parsed.has 'f' then some 1 else none
    let result ← match wanted? with
      | some missing => canonical path missing
      | none => do
        match ← lookAt path false with
        | .error fault => pure (.error fault)
        | .ok n => match ((← Act.files).node n).content with
          | .link target => pure (.ok target)
          | _ => pure (.error .invalidArgument)
    match result with
    | .ok text =>
      print (text ++ stop)
      return 0
    | .error fault => if parsed.has 'v' then refuse path fault else return 1

def realpath (args : List String) : Act Nat :=
  withOptions "emsqzLP\x03:\x04:"
    [("canonicalize-existing", 'e'), ("canonicalize-missing", 'm'), ("relative-to", '\x03'),
     ("relative-base", '\x04'), ("quiet", 'q'), ("strip", 's'), ("no-symlinks", 's'), ("zero", 'z'),
     ("logical", 'L'), ("physical", 'P')] args fun parsed => do
  if parsed.words.isEmpty then return ← misuse "missing operand" 1
  let missing := if parsed.has 'm' then 2 else if parsed.has 'e' then 0 else 1
  let base? ← match (parsed.value? '\x03').orElse fun _ => parsed.value? '\x04' with
    | none => pure none
    | some path =>
      match ← canonical path missing with
      | .ok base => pure (some base)
      | .error fault => return ← refuse path fault
  let stop := if parsed.has 'z' then "\x00" else "\n"
  onEach parsed.words fun path => do
    match ← canonical path missing with
    | .ok text =>
      print ((match base? with
        | none => text
        | some base =>
          if parsed.has '\x03' || text = base || text.startsWith (base ++ "/")
          then Path.relative base text else text) ++ stop)
      return 0
    | .error fault => if parsed.has 'q' then return 1 else refuse path fault

def touch (args : List String) : Act Nat :=
  withOptions "acmhfd:t:r:" [("no-create", 'c'), ("date", 'd'), ("reference", 'r'), ("time", 'T')]
    args fun parsed => do
  if parsed.words.isEmpty then return ← misuse "missing file operand" 1
  onEach parsed.words fun path => do
    match ← lookAt path true with
    | .ok n =>
      let inode := (← Act.files).node n
      if inode.owned || inode.allows 2 then
        Act.setWorld fun world => { world with files := world.files.touch n }
        return 0
      else refuse ("cannot touch " ++ quote path) .permissionDenied
    | .error fault =>
      if parsed.has 'c' && fault = .noSuchFile then return 0
      match ← Act.openPath path { writes := true, creates := true } false with
      | .ok file =>
        Act.setWorld fun world => world.release file
        return 0
      | .error .isADirectory => refuse ("setting times of " ++ quote path) .noSuchFile
      | .error fault => refuse ("cannot touch " ++ quote path) fault

structure Chmod where
  text : String
  asOption : Bool
  recursive : Bool
  quiet : Bool
  verbose : Bool
  changes : Bool

def chmodAt (rule : Chmod) : Nat → String → Act Nat
  | 0, _ => return 1
  | bound + 1, path => do
    let silent := fun (status : Act Nat) => if rule.quiet then return 1 else status
    match ← lookAt path true with
    | .error fault =>
      if (← lookAt path false).isOk && fault = .noSuchFile then
        silent do
          complain ("cannot operate on dangling symlink " ++ quote path)
          return 1
      else silent (refuse ("cannot access " ++ quote path) fault)
    | .ok n =>
      let inode := (← Act.files).node n
      let mask := (← Act.process).mask
      let mode := (Mode.of? mask inode.isFolder inode.mode rule.text).getD inode.mode
      let naive := (Mode.of? 0 inode.isFolder inode.mode rule.text).getD inode.mode
      match ← Act.changeFiles fun files folder => files.setMode folder path mode with
      | .error fault => silent (refuse ("changing permissions of " ++ quote path) fault)
      | .ok () =>
        let described := fun (mode : Nat) => Mode.octal 4 mode ++ " (" ++ Mode.render mode ++ ")"
        if rule.verbose || rule.changes && mode != inode.mode then
          printLine ("mode of " ++ quote path ++
            (if mode = inode.mode then " retained as " ++ described mode
             else " changed from " ++ described inode.mode ++ " to " ++ described mode))
        let mut status := 0
        if rule.asOption && mode &&& (0o777 - naive) != 0 then
          complain (path ++ ": new permissions are " ++ Mode.render mode ++ ", not " ++
            Mode.render naive)
          status := 1
        if rule.recursive && inode.isFolder then
          let inode := (← Act.files).node n
          if !inode.allows 4 then
            return ← silent (refuse ("cannot read directory " ++ quote path) .permissionDenied)
          for name in (← Act.files).names n do
            let below := Path.join path name
            if !(← isAt Inode.isLink below) then status := max status (← chmodAt rule bound below)
        return status

def chmodWords : List String → Parsed → Option String → Except Misuse (Parsed × Option String)
  | [], parsed, mode? => .ok (parsed, mode?)
  | "--" :: rest, parsed, mode? => .ok ({ parsed with words := parsed.words ++ rest }, mode?)
  | word :: rest, parsed, mode? =>
    let add := fun (letters : List Char) =>
      { parsed with options := parsed.options ++ letters.map fun letter => (letter, "") }
    match word with
    | "--help" => .error .help
    | "--version" => .error .version
    | "--recursive" => chmodWords rest (add ['R']) mode?
    | "--verbose" => chmodWords rest (add ['v']) mode?
    | "--changes" => chmodWords rest (add ['c']) mode?
    | "--quiet" | "--silent" => chmodWords rest (add ['f']) mode?
    | _ =>
      if word.startsWith "--reference=" then
        chmodWords rest (parsed.add 'r' (word.drop 12).toString) mode?
      else match word.toList with
      | '-' :: c :: more =>
        if (c :: more).all fun l => "Rcfv".toList.contains l then
          chmodWords rest (add (c :: more)) mode?
        else if "rwxXstugoa,+=01234567".toList.contains c then
          chmodWords rest parsed (some (match mode? with
            | some before => before ++ "," ++ word
            | none => word))
        else if c = '-' then
          .error (.option ("unrecognized option " ++ quote word))
        else .error (.option ("invalid option -- '" ++ String.singleton c ++ "'"))
      | _ => chmodWords rest { parsed with words := parsed.words ++ [word] } mode?

def chmod (args : List String) : Act Nat := do
  match chmodWords args {} none with
  | .error fault => answer 1 fault
  | .ok (parsed, mode?) =>
    let mode? ← match parsed.value? 'r' with
      | none => pure mode?
      | some path =>
        match ← lookAt path true with
        | .ok n => pure (some (Mode.octal 4 ((← Act.files).node n).mode))
        | .error fault => return ← refuse ("failed to get attributes of " ++ quote path) fault
    let (mode?, paths) := match mode? with
      | some _ => (mode?, parsed.words)
      | none => (parsed.words.head?, parsed.words.tail)
    match mode? with
    | none => misuse "missing operand" 1
    | some text =>
      if paths.isEmpty then return ← misuse ("missing operand after " ++ quote text) 1
      if (Mode.of? 0 false 0 text).isNone then
        return ← misuse ("invalid mode: " ++ quote text) 1
      let rule : Chmod :=
        { text, asOption := text.startsWith "-", recursive := parsed.has 'R',
          quiet := parsed.has 'f', verbose := parsed.has 'v', changes := parsed.has 'c' }
      onEach paths (chmodAt rule maxDepth)

def unsignedSize (text : String) : Char × String :=
  match text.toList.dropWhile (· == ' ') with
  | c :: rest => if "+-<>/%".toList.contains c then (c, String.ofList rest)
    else (' ', String.ofList (c :: rest))
  | [] => (' ', "")

def truncate (args : List String) : Act Nat :=
  withSpec
    { letters := "cor:s:",
      long := [("no-create", 'c'), ("io-blocks", 'o'), ("reference", 'r'), ("size", 's')] }
    (fun letter value =>
      let wrong := letter = 's' && (size? (unsignedSize value).2).isNone
      pure (if wrong then some (.value ("Invalid number: " ++ quote value)) else none))
    args fun parsed => do
  if (parsed.value? 's').isNone && (parsed.value? 'r').isNone then
    return ← misuse "you must specify either '--size' or '--reference'" 1
  if parsed.words.isEmpty then return ← misuse "missing file operand" 1
  let reference? ← match parsed.value? 'r' with
    | none => pure none
    | some path =>
      match ← lookAt path true with
      | .ok n => pure (some ((← Act.files).node n).bytes.size)
      | .error fault => return ← refuse ("cannot stat " ++ quote path) fault
  let text := (parsed.value? 's').getD (toString (reference?.getD 0))
  let (sign, digits) := unsignedSize text
  match size? digits with
  | none => return 1
  | some n => onEach parsed.words fun path => do
    if parsed.has 'c' && !(← lookAt path true).isOk then return 0
    match ← Act.openPath path { writes := true, creates := true } false with
    | .error fault => refuse ("cannot open " ++ quote path ++ " for writing") fault
    | .ok file =>
      Act.setWorld fun world => world.release file
      match ← lookAt path true with
      | .error fault => refuse ("cannot open " ++ quote path ++ " for writing") fault
      | .ok node =>
        let resize := fun (bytes : ByteArray) =>
          let size := match sign with
            | '+' => bytes.size + n
            | '-' => bytes.size - n
            | '<' => min bytes.size n
            | '>' => max bytes.size n
            | '/' => bytes.size / n * n
            | '%' => (bytes.size + n - 1) / n * n
            | _ => n
          bytes.extract 0 size ++ ⟨Array.replicate (size - bytes.size) 0⟩
        Act.setWorld fun world => { world with files := world.files.setBytes node resize }
        return 0

def install (args : List String) : Act Nat :=
  withOptions "dDm:vTt:cpo:g:s" [("directory", 'd'), ("mode", 'm'), ("verbose", 'v')] args
    fun parsed => do
  let mode := ((parsed.value? 'm').bind (Mode.of? 0 false 0)).getD 0o755
  if parsed.has 'd' then
    return ← onEach parsed.words fun path => makeFolders path mode fun _ => return
  if parsed.has 'D' then
    if let [_, target] := parsed.words then
      let _ ← makeFolders (Path.folder target) 0o755 fun _ => return
  match ← placements parsed false with
  | none => return 1
  | some pairs => pairs.foldlM (fun status (source, target) => do
    let copying : Copying :=
      { recursive := false, forced := true, keepsMode := false, keepsLinks := false,
        skips := false, verbose := parsed.has 'v', links := false, symbolic := false }
    if (← lookAt target false).isOk then
      if !sameFile (← lookAt source true) (← lookAt target true) then
        let _ ← Act.changeFiles fun files folder => files.unlink folder target
    let result ← copyAt copying maxDepth true source target
    if result = 0 then
      let _ ← Act.changeFiles fun files folder => files.setMode folder target mode
    return max status result) 0

/-- A name for a temporary file, with its last letters `X` replaced. -/
def mktemp (args : List String) : Act Nat :=
  withOptions "dp:qtuV\x03:\x04::"
    [("directory", 'd'), ("quiet", 'q'), ("dry-run", 'u'), ("suffix", '\x03'), ("tmpdir", '\x04')] args
    fun parsed => do
  if parsed.words.length > 1 then return ← misuse "too many templates" 1
  let template := parsed.words.headD "tmp.XXXXXXXXXX"
  let ending := match parsed.value? '\x03' with
    | some _ => ""
    | none => String.ofList (template.toList.reverse.takeWhile (· != 'X')).reverse
  let ending := if template.contains 'X' then ending else ""
  let stem := String.ofList (template.toList.take (template.length - ending.length))
  let marks := (stem.toList.reverse.takeWhile (· == 'X')).length
  if parsed.has '\x03' && !template.endsWith "X" then
    complain ("with --suffix, template " ++ quote template ++ " must end in X")
    return 1
  if marks < 3 then
    complain ("too few X's in template " ++ quote template)
    return 1
  let process ← Act.process
  let given := ((parsed.value? 'p').orElse fun _ => parsed.value? '\x04').filter (!·.isEmpty)
  let temporary := given.getD (((process.vars.lookup "TMPDIR").bind (·.value?)).getD "/tmp")
  let inside := parsed.has 'p' || parsed.has 't' || parsed.has '\x04'
  let folder? := if parsed.words.isEmpty || inside then some temporary else none
  let number := (← Act.files).stamp + 7919 * process.id
  let letters := (List.range marks).map fun i =>
    Char.ofNat ('a'.toNat + (number / Nat.pow 26 i + 7 * i) % 26)
  let name := String.ofList (stem.toList.take (stem.length - marks) ++ letters) ++ ending ++
    (parsed.value? '\x03').getD ""
  let path := match folder? with
    | some folder => Path.join folder name
    | none => name
  let result ← if parsed.has 'u' then pure (.ok ())
    else if parsed.has 'd' then makeFolderAt path 0o700
    else do
      let result ← writePath path ""
      let _ ← Act.changeFiles fun files folder => files.setMode folder path 0o600
      pure result
  match result with
  | .ok () =>
    printLine path
    return 0
  | .error fault =>
    if parsed.has 'q' then return 1
    refuse ("failed to create " ++ (if parsed.has 'd' then "directory" else "file") ++
      " via template " ++ quote ((match folder? with
        | some folder => Path.join folder template
        | none => template) ++ (parsed.value? '\x03').getD "")) fault

def withoutSuffix (name suffix : String) : String :=
  if name != suffix && name.endsWith suffix then
    String.ofList (name.toList.take (name.length - suffix.length))
  else name

def basename (args : List String) : Act Nat :=
  withSpec
    { letters := "as:z", first := true,
      long := [("multiple", 'a'), ("suffix", 's'), ("zero", 'z')] } unchecked args fun parsed => do
    let stop := if parsed.has 'z' then "\x00" else "\n"
    let suffix := (parsed.value? 's').getD ""
    match parsed.words with
    | [] => misuse "missing operand" 1
    | words =>
      if parsed.has 'a' || parsed.has 's' then
        print (String.join (words.map fun word => withoutSuffix (Path.base word) suffix ++ stop))
        return 0
      match words with
      | [path] =>
        print (Path.base path ++ stop)
        return 0
      | [path, suffix] =>
        print (withoutSuffix (Path.base path) suffix ++ stop)
        return 0
      | _ => misuse ("extra operand " ++ quote (words.getD 2 "")) 1

def dirname (args : List String) : Act Nat :=
  withOptions "z" [("zero", 'z')] args fun parsed => do
  if parsed.words.isEmpty then return ← misuse "missing operand" 1
  let stop := if parsed.has 'z' then "\x00" else "\n"
  print (String.join (parsed.words.map fun word => Path.folder word ++ stop))
  return 0

end ImpToC.Utility
