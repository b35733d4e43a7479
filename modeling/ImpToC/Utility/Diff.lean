import ImpToC.Utility.Files

/-! How two files differ, line by line. -/
namespace ImpToC.Utility

/-- A line of the first file only, of the second only, or of both. -/
inductive DiffLine where
  | removed (line : Line)
  | added (line : Line)
  | common (line : Line)

namespace Diff

def commonCounts (a b : Array String) : Array (Array Nat) :=
  let start := #[Array.replicate (b.size + 1) 0]
  (List.range a.size).reverse.foldl (fun rows i =>
    let next := rows.getD (rows.size - 1) #[]
    let row := (List.range b.size).reverse.foldl (fun (row : Array Nat) j =>
      -- The row is built from its end, so that the entry for `j + 1` is the last one.
      let after := row.getD (row.size - 1) 0
      let down := next.getD (b.size - j) 0
      let across := next.getD (b.size - j - 1) 0
      row.push (if a[i]? == b[j]? then across + 1 else max after down)) #[0]
    rows.push row) start

/-- The lines of both files in one list; equal lines are kept together as early as possible. -/
def edits (a b : Array Line) (form : Line → String) (counts : Array (Array Nat)) :
    Nat → Nat → Nat → List DiffLine
  | 0, _, _ => []
  | bound + 1, i, j =>
    let count := fun (i j : Nat) => (counts.getD (a.size - i) #[]).getD (b.size - j) 0
    match a[i]?, b[j]? with
    | none, none => []
    | some x, none => .removed x :: edits a b form counts bound (i + 1) j
    | none, some y => .added y :: edits a b form counts bound i (j + 1)
    | some x, some y =>
      if form x = form y then .common x :: edits a b form counts bound (i + 1) (j + 1)
      else if count (i + 1) j ≥ count i (j + 1) then .removed x :: edits a b form counts bound (i + 1) j
      else .added y :: edits a b form counts bound i (j + 1)

/-- A change: the places before which it stands, and the lines it takes away and brings. -/
structure Change where
  first : Nat
  second : Nat
  removed : List Line
  added : List Line

def changes : List DiffLine → Nat → Nat → Option Change → List Change
  | [], _, _, begun? => begun?.toList
  | .common _ :: rest, i, j, begun? => begun?.toList ++ changes rest (i + 1) (j + 1) none
  | .removed line :: rest, i, j, begun? =>
    let change := begun?.getD ⟨i, j, [], []⟩
    changes rest (i + 1) j (some { change with removed := change.removed ++ [line] })
  | .added line :: rest, i, j, begun? =>
    let change := begun?.getD ⟨i, j, [], []⟩
    changes rest i (j + 1) (some { change with added := change.added ++ [line] })

def marked (mark : String) (line : Line) : String :=
  mark ++ line.text ++ "\n" ++ if line.ended then "" else "\\ No newline at end of file\n"

def numbers (first count : Nat) : String :=
  if count = 0 then toString first
  else if count = 1 then toString (first + 1)
  else toString (first + 1) ++ "," ++ toString (first + count)

def Change.normal (change : Change) : String :=
  let letter := if change.removed.isEmpty then "a" else if change.added.isEmpty then "d" else "c"
  numbers change.first change.removed.length ++ letter ++
    numbers change.second change.added.length ++ "\n" ++
    String.join (change.removed.map (marked "< ")) ++
    (if letter = "c" then "---\n" else "") ++ String.join (change.added.map (marked "> "))

def hunks (context : Nat) : List Change → List (List Change)
  | [] => []
  | change :: rest => match hunks context rest with
    | (next :: more) :: others =>
      if next.first ≤ change.first + change.removed.length + 2 * context then
        (change :: next :: more) :: others
      else [change] :: (next :: more) :: others
    | others => [change] :: others

def unifiedNumbers (first count : Nat) : String :=
  if count = 1 then toString (first + 1)
  else toString (if count = 0 then first else first + 1) ++ "," ++ toString count

def unifiedHunk (context : Nat) (a : Array Line) (hunk : List Change) : String :=
  match hunk.head?, hunk.getLast? with
  | some first, some last =>
    let start := first.first - context
    let start' := first.second - (first.first - start)
    let stop := min a.size (last.first + last.removed.length + context)
    let stop' := last.second + last.added.length + (stop - (last.first + last.removed.length))
    let common := fun (i j : Nat) => String.join ((a.extract i j).toList.map (marked " "))
    let (body, reached) := hunk.foldl (fun (body, i) change =>
      (body ++ common i change.first ++ String.join (change.removed.map (marked "-")) ++
        String.join (change.added.map (marked "+")), change.first + change.removed.length))
      ("", start)
    "@@ -" ++ unifiedNumbers start (stop - start) ++ " +" ++
      unifiedNumbers start' (stop' - start') ++ " @@\n" ++ body ++ common reached stop
  | _, _ => ""

def contextNumbers (first count : Nat) : String :=
  if count ≤ 1 then toString (first + count)
  else toString (first + 1) ++ "," ++ toString (first + count)

def contextSide (lines : Array Line) (start stop : Nat) (mark : String)
    (parts : List (Nat × List Line × Bool)) : String :=
  let common := fun (i j : Nat) => String.join ((lines.extract i j).toList.map (marked "  "))
  let (body, reached) := parts.foldl (fun (body, i) (place, changed, both) =>
    (body ++ common i place ++ String.join (changed.map (marked (if both then "! " else mark))),
      place + changed.length)) ("", start)
  body ++ common reached stop

def contextHunk (context : Nat) (a b : Array Line) (hunk : List Change) : String :=
  match hunk.head?, hunk.getLast? with
  | some first, some last =>
    let start := first.first - context
    let start' := first.second - (first.first - start)
    let stop := min a.size (last.first + last.removed.length + context)
    let stop' := last.second + last.added.length + (stop - (last.first + last.removed.length))
    let both := fun (change : Change) => !change.removed.isEmpty && !change.added.isEmpty
    let removed := hunk.map fun change => (change.first, change.removed, both change)
    let added := hunk.map fun change => (change.second, change.added, both change)
    let side := fun (lines : Array Line) (start stop : Nat) (mark : String)
        (parts : List (Nat × List Line × Bool)) =>
      if parts.all fun part => part.2.1.isEmpty then "" else contextSide lines start stop mark parts
    "***************\n*** " ++ contextNumbers start (stop - start) ++ " ****\n" ++
      side a start stop "- " removed ++
      "--- " ++ contextNumbers start' (stop' - start') ++ " ----\n" ++
      side b start' stop' "+ " added
  | _, _ => ""

def Change.command (change : Change) : String :=
  let text := String.join (change.added.map fun line => line.text ++ "\n")
  if change.removed.isEmpty then toString change.first ++ "a\n" ++ text ++ ".\n"
  else if change.added.isEmpty then numbers change.first change.removed.length ++ "d\n"
  else numbers change.first change.removed.length ++ "c\n" ++ text ++ ".\n"

def isBinary (text : String) : Bool := text.contains '\x00'

end Diff

def diffFiles (parsed : Parsed) (heading first second : String) : Act Nat := do
  let missing := fun (result : Except SystemError String) => match result with
    | .error .noSuchFile => if parsed.has 'N' then Except.ok "" else result
    | result => result
  let a := missing (← readPath first)
  let b := missing (← readPath second)
  match a, b with
  | .ok a, .ok b =>
    if a = b then
      if parsed.has 's' then printLine ("Files " ++ first ++ " and " ++ second ++ " are identical")
      return 0
    if parsed.has 'q' then
      printLine ("Files " ++ first ++ " and " ++ second ++ " differ")
      return 1
    if (Diff.isBinary a || Diff.isBinary b) && !parsed.has 'a' then
      printLine ("Binary files " ++ first ++ " and " ++ second ++ " differ")
      return 2
    let normalise := fun (line : Line) =>
      let text := if parsed.has 'i' then String.ofList (line.text.toList.map Char.toLower)
        else line.text
      let text := if parsed.has 'w' then String.ofList (text.toList.filter fun c => c != ' ' && c != '\t')
        else if parsed.has 'b' then
          (if text.startsWith " " || text.startsWith "\t" then " " else "") ++
          " ".intercalate (((text.toList.splitOnP fun c => c = ' ' || c = '\t').filter
            (!·.isEmpty)).map String.ofList)
        else if parsed.has 'Z' then
          String.ofList (text.toList.reverse.dropWhile fun c => c = ' ' || c = '\t').reverse
        else text
      let loose := parsed.has 'w' || parsed.has 'b' || parsed.has 'Z'
      ({ line with text, ended := line.ended || loose } : Line).whole
    let left := (linesOf a).toArray
    let right := (linesOf b).toArray
    let counts := Diff.commonCounts (left.map normalise) (right.map normalise)
    let edits := Diff.edits left right normalise counts (left.size + right.size + 1) 0 0
    let changes := Diff.changes edits 0 0 none
    let changes := if !parsed.has 'B' then changes else changes.filter fun change =>
      (change.removed ++ change.added).any fun line => !line.text.isEmpty
    if changes.isEmpty then return 0
    print heading
    let number := fun (letters : List Char) =>
      ((parsed.options.filter fun option => letters.contains option.1).getLast?.bind fun option =>
        natural? option.2)
    let labels := (parsed.options.filter fun option => option.1 == 'L').map Prod.snd
    let stamp := "\t2024-01-01 00:00:00.000000000 +0000"
    let title := fun (i : Nat) (path : String) => labels.getD i (path ++ stamp)
    if parsed.has 'c' || parsed.has 'C' then
      let context := (number ['C']).getD 3
      print ("*** " ++ title 0 first ++ "\n--- " ++ title 1 second ++ "\n")
      print (String.join ((Diff.hunks context changes).map (Diff.contextHunk context left right)))
    else if parsed.has 'u' || parsed.has 'U' || parsed.has '\x03' then
      let context := (number ['U', '\x03']).getD 3
      print ("--- " ++ title 0 first ++ "\n+++ " ++ title 1 second ++ "\n")
      print (String.join ((Diff.hunks context changes).map (Diff.unifiedHunk context left)))
    else if parsed.has 'e' then
      print (String.join (changes.reverse.map Diff.Change.command))
    else print (String.join (changes.map Diff.Change.normal))
    return 1
  | a, b =>
    for (path, result) in [(first, a), (second, b)] do
      if let .error fault := result then complain (path ++ ": " ++ fault.reason)
    return 2

def diffFolders (parsed : Parsed) (words : String) : Nat → String → String → Act Nat
  | 0, _, _ => return 2
  | bound + 1, first, second => do
    let files ← Act.files
    let folder := (← Act.process).folder
    let namesOf := fun (path : String) => match files.resolve folder path true with
      | .ok n => files.names n
      | .error _ => []
    let (left, right) := (namesOf first, namesOf second)
    let all := ((left ++ right).eraseDups).mergeSort fun a b => decide (a ≤ b)
    all.foldlM (fun status name => do
      let (a, b) := (Path.join first name, Path.join second name)
      let inFirst ← isFolderAt a
      let inSecond ← isFolderAt b
      let lone := !(left.contains name && right.contains name)
      if lone && !parsed.has 'N' then
        printLine ("Only in " ++ (if left.contains name then first else second) ++ ": " ++ name)
        return max status 1
      else if inFirst && inSecond || lone && (inFirst || inSecond) then
        if parsed.has 'r' then return max status (← diffFolders parsed words bound a b)
        if !lone then printLine ("Common subdirectories: " ++ a ++ " and " ++ b)
        return status
      else if inFirst || inSecond then
        let kind := fun (isFolder : Bool) (path : String) => do
          if isFolder then return "a directory"
          match ← readPath path with
          | .ok "" => return "a regular empty file"
          | _ => return "a regular file"
        printLine ("File " ++ a ++ " is " ++ (← kind inFirst a) ++ " while file " ++ b ++ " is " ++
          (← kind inSecond b))
        return max status 1
      else
        let heading := "diff" ++ words ++ " " ++ a ++ " " ++ b ++ "\n"
        return max status (← diffFiles parsed heading a b)) 0

def diff (args : List String) : Act Nat :=
  withOwnHint
    { letters := "0123456789abBcC:dD:eEfF:hHiI:lL:nNpPqrsS:tTuU:vwW:x:X:yZ\x03::",
      long := [("unified", '\x03'), ("context", 'c'), ("ed", 'e'), ("normal", 'O'), ("text", 'a'),
        ("ignore-blank-lines", 'B'), ("ignore-trailing-space", 'Z'), ("brief", 'q'), ("label", 'L'), ("report-identical-files", 's'),
        ("ignore-case", 'i'), ("ignore-all-space", 'w'), ("recursive", 'r'), ("new-file", 'N'),
        ("ignore-space-change", 'b')],
      status := 2 } args fun parsed => do
    match parsed.words with
    | [first, second] =>
      let inFirst ← isFolderAt first
      let inSecond ← isFolderAt second
      let gone ← [first, second].filterMapM fun path => do
        if path = "-" || parsed.has 'N' then return none
        match ← lookAt path true with
        | .ok _ => return none
        | .error fault => return some (path ++ ": " ++ fault.reason)
      if !gone.isEmpty then
        for message in gone do
          complain message
        return 2
      let words := String.join ((args.filter fun word => word.startsWith "-" && word != "-").map
        (" " ++ ·))
      if inFirst && inSecond then diffFolders parsed words maxDepth first second
      else if inFirst then diffFiles parsed "" (Path.join first (Path.base second)) second
      else if inSecond then diffFiles parsed "" first (Path.join second (Path.base first))
      else diffFiles parsed "" first second
    | words =>
      let name := (← Act.process).name
      complain (match words with
        | [] => "missing operand after " ++ quote name
        | [word] => "missing operand after " ++ quote word
        | _ => "extra operand " ++ quote (words.getD 2 ""))
      complain (hint name)
      return 2

end ImpToC.Utility
