import ImpToC.Utility.Listing

/-! Looking for files below a folder, with an expression of tests and actions that is tried on
each of them. -/
namespace ImpToC.Utility

inductive FindExpr where
  | test (name arg : String)
  | exec (words : List String) (together : Bool)
  | flip (a : FindExpr)
  | both (a b : FindExpr)
  | either (a b : FindExpr)
  | always

def findTests : List String :=
  ["-name", "-iname", "-type", "-path", "-maxdepth", "-mindepth", "-size", "-perm", "-newer",
   "-wholename", "-ipath", "-user", "-group", "-mtime", "-mmin", "-printf", "-links", "-inum"]

def findFlags : List String :=
  ["-print", "-print0", "-delete", "-empty", "-prune", "-true", "-false", "-executable",
   "-readable", "-writable", "-quit", "-depth"]

abbrev FindRule := EStateM String (List String)

mutual

def findEither : Nat → FindRule FindExpr
  | 0 => return .always
  | bound + 1 => do
    let first ← findBoth bound
    match ← get with
    | "-o" :: rest | "-or" :: rest =>
      set rest
      return .either first (← findEither bound)
    | _ => return first

def findBoth : Nat → FindRule FindExpr
  | 0 => return .always
  | bound + 1 => do
    let first ← findOne bound
    match ← get with
    | [] | ")" :: _ | "-o" :: _ | "-or" :: _ => return first
    | "-a" :: rest | "-and" :: rest =>
      set rest
      return .both first (← findBoth bound)
    | _ => return .both first (← findBoth bound)

def findOne : Nat → FindRule FindExpr
  | 0 => return .always
  | bound + 1 => do
    match ← get with
    | [] => return .always
    | "!" :: rest | "-not" :: rest =>
      set rest
      return .flip (← findOne bound)
    | "(" :: rest =>
      set rest
      let inside ← findEither bound
      match ← get with
      | ")" :: rest =>
        set rest
        return inside
      | _ => throw "invalid expression; I was expecting to find a ')' somewhere but did not see one."
    | "-exec" :: rest =>
      let words := rest.takeWhile fun word => word != ";" && word != "+"
      match rest.drop words.length with
      | mark :: rest =>
        set rest
        return .exec words (mark = "+")
      | [] => throw "missing argument to \x60-exec'"
    | word :: rest =>
      if findTests.contains word then
        match rest with
        | arg :: rest =>
          set rest
          return .test word arg
        | [] => throw ("missing argument to \x60" ++ word ++ "'")
      else if findFlags.contains word then
        set rest
        return .test word ""
      else throw ("unknown predicate \x60" ++ word ++ "'")

end

/-- Whether something is done with a file, so that it need not be shown. -/
def FindExpr.acts : FindExpr → Bool
  | test name _ => name = "-print" || name = "-print0" || name = "-delete" || name = "-printf"
  | exec .. => true
  | flip a => a.acts
  | both a b | either a b => a.acts || b.acts
  | always => false

def FindExpr.value? (name : String) : FindExpr → Option String
  | test other arg => if other = name then some arg else none
  | flip a => a.value? name
  | both a b | either a b => (b.value? name).or (a.value? name)
  | _ => none

/-- A file as it is looked at: its path from where the search began, and how far down it is. -/
structure Candidate where
  path : String
  node : Nat
  depth : Nat
  start : String

structure FindState where
  collected : List (List String × List String) := []
  pruned : Bool := false
  quit : Bool := false
  status : Nat := 0

def lowered (text : String) : String := String.ofList (text.toList.map Char.toLower)

def matchesPattern (pattern text : String) : Bool :=
  Shell.Item.covers (Shell.Item.ofText pattern) text.toList

def findLetter (inode : Inode) : Char := match inode.content with
  | .file _ => 'f'
  | .folder .. => 'd'
  | .link _ => 'l'
  | .device _ => 'c'

def findText (files : FileSystem) (candidate : Candidate) : List Char → String
  | '%' :: c :: rest =>
    let inode := files.node candidate.node
    (match c with
      | 'p' => candidate.path
      | 'f' => Path.base candidate.path
      | 'h' => if candidate.path.contains '/' then Path.folder candidate.path else "."
      | 'H' => candidate.start
      | 'P' => String.ofList ((candidate.path.toList.drop candidate.start.length).dropWhile
          (· == '/'))
      | 'd' => toString candidate.depth
      | 'y' => String.singleton (findLetter inode)
      | 'm' => Mode.octal 1 inode.mode
      | 'M' => String.singleton (typeLetter inode) ++ Mode.render inode.mode
      | 'l' => match inode.content with
        | .link target => target
        | _ => ""
      | 's' | 'u' | 'g' | 'i' | 'b' | '%' => statField files candidate.path candidate.node
          (if c = 'u' then 'U' else if c = 'g' then 'G' else c)
      | 'n' => toString (files.linkCount candidate.node)
      | c => String.ofList ['%', c]) ++ findText files candidate rest
  | '\\' :: c :: rest =>
    (match c with
      | 'n' => "\n"
      | 't' => "\t"
      | '0' => "\x00"
      | '\\' => "\\"
      | c => String.ofList ['\\', c]) ++ findText files candidate rest
  | c :: rest => String.singleton c ++ findText files candidate rest
  | [] => ""

def findTest (candidate : Candidate) (name arg : String) : Act Bool := do
  let files ← Act.files
  let inode := files.node candidate.node
  let base := Path.base candidate.path
  match name with
  | "-name" => return matchesPattern arg base
  | "-iname" => return matchesPattern (lowered arg) (lowered base)
  | "-path" | "-wholename" => return matchesPattern arg candidate.path
  | "-ipath" => return matchesPattern (lowered arg) (lowered candidate.path)
  | "-type" => return (arg.splitOn ",").contains (String.singleton (findLetter inode))
  | "-links" => return natural? arg == some (files.linkCount candidate.node)
  | "-empty" => return (match inode.content with
      | .file bytes => bytes.isEmpty
      | .folder _ entries => entries.isEmpty
      | _ => false)
  | "-size" =>
    let (sign, rest) := match arg.toList with
      | '+' :: rest => ('+', rest)
      | '-' :: rest => ('-', rest)
      | rest => (' ', rest)
    let digits := rest.takeWhile Char.isDigit
    let unit := match rest.drop digits.length with
      | ['c'] => 1
      | ['k'] => 1024
      | ['M'] => 1048576
      | _ => 512
    let wanted := (String.ofList digits).toNat?.getD 0
    let size := (Utility.sizeOf inode + unit - 1) / unit
    return if sign = '+' then size > wanted else if sign = '-' then size < wanted else size = wanted
  | "-perm" =>
    let wanted := (Mode.octal? (String.ofList (arg.toList.filter Char.isDigit))).getD 0
    return if arg.startsWith "-" then inode.mode &&& wanted = wanted
      else if arg.startsWith "/" then inode.mode &&& wanted != 0 else inode.mode = wanted
  | "-newer" =>
    match ← lookAt arg true with
    | .ok n => return inode.stamp > (files.node n).stamp
    | .error _ => return false
  | "-executable" => return inode.allows 1
  | "-readable" => return inode.allows 4
  | "-writable" => return inode.allows 2
  | "-print" =>
    printLine candidate.path
    return true
  | "-print0" =>
    print (candidate.path ++ "\x00")
    return true
  | "-printf" =>
    print (findText files candidate arg.toList)
    return true
  | "-delete" =>
    let result ← Act.changeFiles fun files folder =>
      if inode.isFolder then files.removeFolder folder candidate.path
      else files.unlink folder candidate.path
    match result with
    | .ok () => return true
    | .error fault =>
      complain ("cannot delete " ++ quote candidate.path ++ ": " ++ fault.reason)
      return false
  | "-false" => return false
  | _ => return true

def findExec (start : Starter) (words : List String) : Act Bool := do
  let name := (← Act.process).name
  let ending ← Act.inside (fun process => process) do
    match ← start words with
    | .ok status => return status
    | .error fault =>
      let _ ← Act.write 2 (name ++ ": " ++ quote (words.headD "") ++ ": " ++ fault.reason ++ "\n")
      return 127
  return ending == .exited 0

/-- Whether an expression holds of a file, with what trying it has led to. -/
def FindExpr.holds (start : Starter) (candidate : Candidate) : FindExpr → FindState →
    Act (Bool × FindState)
  | test name arg, state => do
    let value ← findTest candidate name arg
    return (value, { state with
      pruned := state.pruned || name = "-prune", quit := state.quit || name = "-quit",
      status := if name = "-delete" && !value then 1 else state.status })
  | exec words together, state => do
    if together then
      let before := (state.collected.lookup words).getD []
      let others := state.collected.filter (·.1 != words)
      let collected := others ++ [(words, before ++ [candidate.path])]
      return (true, { state with collected })
    else return (← findExec start (words.map fun word =>
      replaceAll word "\x7b\x7d" candidate.path), state)
  | flip a, state => do
    let (value, state) ← a.holds start candidate state
    return (!value, state)
  | both a b, state => do
    let (value, state) ← a.holds start candidate state
    if value && !state.quit then b.holds start candidate state else return (false, state)
  | either a b, state => do
    let (value, state) ← a.holds start candidate state
    if value || state.quit then return (value, state) else b.holds start candidate state
  | always, state => return (true, state)

structure Search where
  expression : FindExpr
  least : Nat
  most : Nat
  last : Bool
  follow : Bool

mutual

def Search.walk (search : Search) (start : Starter) : Nat → Nat → String → String → FindState →
    Act FindState
  | 0, _, _, _, state => return state
  | bound + 1, depth, begun, path, state => do
    let looked ← if search.follow then do
        match ← lookAt path true with
        | .ok n => pure (.ok n)
        | .error _ => lookAt path false
      else lookAt path false
    match looked with
    | .error fault =>
      complain (quote path ++ ": " ++ fault.reason)
      return { state with status := 1 }
    | .ok n =>
      let candidate : Candidate := ⟨path, n, depth, begun⟩
      let attempt := fun (state : FindState) => do
        if depth < search.least then return state
        return (← search.expression.holds start candidate state).2
      let inode := (← Act.files).node n
      if !inode.isFolder || depth ≥ search.most then attempt { state with pruned := false }
      else if search.last then
        let state ← search.inside start bound depth begun path n state
        if state.quit then return state
        attempt state
      else
        let state ← attempt { state with pruned := false }
        if state.pruned || state.quit then return state
        search.inside start bound depth begun path n state

def Search.inside (search : Search) (start : Starter) :
    Nat → Nat → String → String → Nat → FindState → Act FindState
  | 0, _, _, _, _, state => return state
  | bound + 1, depth, begun, path, n, state => do
    let files ← Act.files
    let inode := files.node n
    if !inode.allows 4 then
      complain (quote path ++ ": " ++ SystemError.permissionDenied.reason)
      return { state with status := 1 }
    inode.entries.foldlM (fun state entry => do
      if state.quit then return state
      search.walk start bound (depth + 1) begun (Path.join path entry.1) state) state

end

def find (start : Starter) (args : List String) : Act Nat := do
  if args.contains "--version" || args.contains "-version" then return ← answer 0 .version
  if args.contains "--help" || args.contains "-help" then return ← answer 0 .help
  let isMode := fun (word : String) => word = "-L" || word = "-H" || word = "-P"
  let modes := args.takeWhile isMode
  let args := args.dropWhile isMode
  let isStart := fun (word : String) =>
    !(word.startsWith "-" || word = "(" || word = "!" || word = ")")
  let paths := args.takeWhile isStart
  let words := args.dropWhile isStart
  match (findEither (4 * words.length + 4)).run words with
  | .error message _ =>
    complain message
    return 1
  | .ok expression rest =>
    if let word :: _ := rest then
      complain (if word = ")" then "you have too many ')'"
        else "paths must precede expression: \x60" ++ word ++ "'")
      return 1
    let number := fun (name : String) => (expression.value? name).bind natural?
    let search : Search :=
      { expression := if expression.acts then expression else .both expression (.test "-print" ""),
        least := (number "-mindepth").getD 0, most := (number "-maxdepth").getD maxDepth,
        last := (expression.value? "-delete").isSome || (expression.value? "-depth").isSome,
        follow := modes.getLast? == some "-L" }
    let mut state : FindState := {}
    for path in (if paths.isEmpty then ["."] else paths) do
      if !state.quit then
        state ← search.walk start (2 * maxDepth) 0 path path state
    let mut status := state.status
    for (words, paths) in state.collected do
      let words := words.flatMap fun word => if word = "\x7b\x7d" then paths else [word]
      if !(← findExec start words) then status := 1
    return status

end ImpToC.Utility
