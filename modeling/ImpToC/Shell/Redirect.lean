import ImpToC.Shell.Expand

/-! Redirections. -/
namespace ImpToC.Shell

def Redirect.descriptor : Redirect → Nat
  | file descriptor _ _ => descriptor
  | same descriptor _ => descriptor
  | text descriptor _ => descriptor

def openReason (creates : Bool) : SystemError → String
  | .noSuchFile | .notADirectory => if creates then "Directory nonexistent" else "No such file"
  | fault => fault.reason

def textFile (octets : String) : Act Nat := Act.changeWorld fun world =>
  let (world, reader, writer) := world.addPipe none
  let world := match (world.file writer).endpoint with
    | .pipe p => world.setPipe p fun pipe => pipe.put (Octets.toBytes octets)
    | _ => world
  (reader, world.release writer)

def redirectOne (run : Command → Act Unit) : Redirect → Act (Except String Unit)
  | .text descriptor body => do
    Act.assign descriptor (← textFile (← expandLines run body))
    return .ok ()
  | .same descriptor word => do
    let target ← expandText run word
    if target = "-" then
      Act.close descriptor
      return .ok ()
    match target.toList with
    | [c] =>
      if !c.isDigit then return .error "Bad fd number"
      let source := c.toNat - '0'.toNat
      if source = descriptor then return .ok ()
      match ← Act.descriptor? source with
      | none => return .error (target ++ ": Bad file descriptor")
      | some file =>
        Act.setWorld fun world => world.retain file
        Act.assign descriptor file
        return .ok ()
    | _ => return .error "Bad fd number"
  | .file descriptor direction word => do
    let path ← expandText run word
    let opened ← match direction with
      | .input => Act.openPath path { reads := true } false
      | .both => Act.openPath path { reads := true, writes := true, creates := true } false
      | .append => Act.openPath path { writes := true, creates := true } true
      | .clobber => Act.openPath path { writes := true, creates := true, truncates := true } false
      | .output => do
        let process ← Act.process
        let files ← Act.files
        let regular := match files.resolve process.folder path true with
          | .ok n => (files.node n).isFile
          | .error _ => false
        if process.switches.keep && regular then pure (.error .fileExists)
        else Act.openPath path { writes := true, creates := true, truncates := true } false
    match opened with
    | .ok file =>
      Act.assign descriptor file
      return .ok ()
    | .error fault =>
      let creates := direction != .input
      return .error ((if creates then "cannot create " else "cannot open ") ++ path ++ ": " ++
        openReason creates fault)

def redirectAll (run : Command → Act Unit) : List Redirect → Act (Except String Unit)
  | [] => return .ok ()
  | item :: rest => do
    match ← redirectOne run item with
    | .ok () => redirectAll run rest
    | .error message => return .error message

/-- Runs an action under redirections and undoes them. If one fails, the message is
reported and the result is missing. -/
def redirected {α : Type} (run : Command → Act Unit) (items : List Redirect) (action : Act α) :
    Act (Option α) := do
  if items.isEmpty then return some (← action)
  let numbers := (items.map Redirect.descriptor).eraseDups
  let process ← Act.process
  let saved := numbers.map fun n => (n, process.descriptors.lookup n)
  for (_, file?) in saved do
    if let some file := file? then Act.setWorld fun world => world.retain file
  let undo : Act Unit := do
    for (n, file?) in saved do
      match file? with
      | none => Act.close n
      | some file => Act.assign n file
  Act.tryCatch
    (do
      match ← redirectAll run items with
      | .error message =>
        undo
        report message
        return none
      | .ok () =>
        let result ← action
        undo
        return some result)
    fun halt => do
      undo
      Act.throw halt

end ImpToC.Shell
