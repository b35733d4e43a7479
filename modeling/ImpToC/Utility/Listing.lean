import ImpToC.Shell.Pattern
import ImpToC.Utility.Files
import ImpToC.Utility.Processes

/-! Programs that tell which files there are and what is known about them. -/
namespace ImpToC.Utility

def typeLetter (inode : Inode) : Char := match inode.content with
  | .file _ => '-'
  | .folder .. => 'd'
  | .link _ => 'l'
  | .device _ => 'c'

def typeName (inode : Inode) : String := match inode.content with
  | .file bytes => if bytes.isEmpty then "regular empty file" else "regular file"
  | .folder .. => "directory"
  | .link _ => "symbolic link"
  | .device _ => "character special file"

def sizeOf (inode : Inode) : Nat := match inode.content with
  | .file bytes => bytes.size
  | .folder .. => 4096
  | .link target => target.length
  | .device _ => 0

def ownerOf (inode : Inode) : String := if inode.owned then "user" else "root"

def statField (files : FileSystem) (path : String) (n : Nat) : Char → String
  | 'n' => path
  | 'N' => match (files.node n).content with
    | .link target => quote path ++ " -> " ++ quote target
    | _ => quote path
  | 's' => toString (sizeOf (files.node n))
  | 'a' => Mode.octal 1 (files.node n).mode
  | 'A' => String.singleton (typeLetter (files.node n)) ++ Mode.render (files.node n).mode
  | 'F' => typeName (files.node n)
  | 'h' => toString (files.linkCount n)
  | 'i' => toString (n + 1000)
  | 'b' => toString ((sizeOf (files.node n) + 4095) / 4096 * 8)
  | 'B' => "512"
  | 'o' => "4096"
  | 'U' | 'G' => ownerOf (files.node n)
  | 'u' | 'g' => if (files.node n).owned then "1000" else "0"
  | 'X' | 'Y' | 'Z' => toString (1700000000 + (files.node n).stamp)
  | 'd' => "1"
  | 'f' => String.ofList (Nat.toDigits 16 ((match (files.node n).content with
      | .file _ => 0o100000
      | .folder .. => 0o40000
      | .link _ => 0o120000
      | .device _ => 0o20000) + (files.node n).mode))
  | '%' => "%"
  | _ => "?"

def statText (files : FileSystem) (path : String) (n : Nat) (escapes : Bool) : List Char → String
  | '%' :: c :: rest => statField files path n c ++ statText files path n escapes rest
  | '\\' :: 'n' :: rest =>
    (if escapes then "\n" else "\\n") ++ statText files path n escapes rest
  | '\\' :: 't' :: rest =>
    (if escapes then "\t" else "\\t") ++ statText files path n escapes rest
  | c :: rest => String.singleton c ++ statText files path n escapes rest
  | [] => ""

def stat (args : List String) : Act Nat :=
  withOptions "c:Lfp:t" [("format", 'c'), ("dereference", 'L'), ("printf", 'p')] args
    fun parsed => do
  if parsed.words.isEmpty then return ← misuse "missing operand" 1
  onEach parsed.words fun path => do
    match ← lookAt path (parsed.has 'L') with
    | .error fault => refuse ("cannot statx " ++ quote path) fault
    | .ok n =>
      let files ← Act.files
      match parsed.value? 'p', parsed.value? 'c' with
      | some format, _ => print (statText files path n true format.toList)
      | none, some format => printLine (statText files path n false format.toList)
      | none, none =>
        printLine (statText files path n false
          ("  File: %n\n  Size: %s\tBlocks: %b\tIO Block: %o   %F\n" ++
            "Access: (0%a/%A)  Uid: (%u/%U)   Gid: (%g/%G)").toList)
      return 0

structure Ls where
  all : Bool
  almost : Bool
  long : Bool
  folders : Bool
  recursive : Bool
  classify : Bool
  slashes : Bool
  reverse : Bool
  byTime : Bool
  bySize : Bool
  unsorted : Bool
  numbers : Bool
  sizes : Bool
  commas : Bool

def Ls.mark (ls : Ls) (inode : Inode) : String := match inode.content with
  | .folder .. => if ls.classify || ls.slashes then "/" else ""
  | .link _ => if ls.classify && !ls.long then "@" else ""
  | .file _ => if ls.classify && inode.mode &&& 0o111 != 0 then "*" else ""
  | .device _ => ""

def Ls.order (ls : Ls) (files : FileSystem) (entries : List (String × Nat)) : List (String × Nat) :=
  let key := fun (entry : String × Nat) =>
    if ls.byTime then (files.node entry.2).stamp
    else if ls.bySize then sizeOf (files.node entry.2) else 0
  if ls.unsorted then entries
  else
    let sorted := entries.mergeSort fun a b =>
      decide (key a > key b) || (key a == key b && decide (a.1 ≤ b.1))
    if ls.reverse then sorted.reverse else sorted

def Ls.rows (ls : Ls) (files : FileSystem) (entries : List (String × Nat)) : String :=
  let number := fun (n : Nat) => if ls.numbers then toString (n + 1000) ++ " " else ""
  if ls.long then
    let links := entries.map fun entry => toString (files.linkCount entry.2)
    let sizes := entries.map fun entry => toString (sizeOf (files.node entry.2))
    let widest := fun (texts : List String) => texts.foldl (fun n text => max n text.length) 0
    String.join ((entries.zip (links.zip sizes)).map fun ((name, n), links', size) =>
      let inode := files.node n
      let target := match inode.content with
        | .link target => " -> " ++ target
        | _ => ""
      number n ++ String.singleton (typeLetter inode) ++ Mode.render inode.mode ++ " " ++
        padLeft (widest links) links' ++ " " ++ ownerOf inode ++ " " ++ ownerOf inode ++ " " ++
        padLeft (widest sizes) size ++ " Jan  1 00:00 " ++ name ++ ls.mark inode ++ target ++ "\n")
  else if ls.commas then
    if entries.isEmpty then ""
    else ", ".intercalate (entries.map fun (name, n) => name ++ ls.mark (files.node n)) ++ "\n"
  else String.join (entries.map fun (name, n) => number n ++ name ++ ls.mark (files.node n) ++ "\n")

def Ls.entries (ls : Ls) (files : FileSystem) (folder : Nat) : List (String × Nat) :=
  let own := (files.node folder).entries.filter fun entry =>
    ls.all || ls.almost || !entry.1.startsWith "."
  let both := if ls.all then [(".", folder), ("..", files.parent folder)] else []
  ls.order files (both ++ own)

def Ls.total (files : FileSystem) (entries : List (String × Nat)) : String :=
  "total " ++ toString ((entries.map fun entry => match (files.node entry.2).content with
    | .file bytes => (bytes.size + 4095) / 4096 * 4
    | .folder .. => 4
    | _ => 0).foldl (· + ·) 0) ++ "\n"

def Ls.folder (ls : Ls) (files : FileSystem) : Nat → Bool → String → Nat → String
  | 0, _, _, _ => ""
  | bound + 1, titled, path, n =>
    let entries := ls.entries files n
    let title := if titled then path ++ ":\n" else ""
    let total := if ls.long then Ls.total files entries else ""
    let below := if !ls.recursive then [] else entries.filter fun entry =>
      (files.node entry.2).isFolder && entry.1 != "." && entry.1 != ".."
    title ++ total ++ ls.rows files entries ++ String.join (below.map fun entry =>
      "\n" ++ ls.folder files bound true (Path.join path entry.1) entry.2)

def ls (args : List String) : Act Nat :=
  withSpec
    { letters := "abcdfghiklmnopqrstuvw:xABCDFGHI:LNQRST:UXZ1\x03::\x04:", status := 2,
      long := [("all", 'a'), ("escape", 'b'), ("directory", 'd'), ("dired", 'D'), ("full-time", 'l'),
        ("human-readable", 'h'), ("inode", 'i'), ("kibibytes", 'k'), ("numeric-uid-gid", 'n'),
        ("no-group", 'G'), ("hide-control-chars", 'q'), ("reverse", 'r'), ("size", 's'),
        ("width", 'w'), ("almost-all", 'A'), ("ignore-backups", 'B'), ("classify", 'F'),
        ("file-type", 'p'), ("dereference", 'L'), ("ignore", 'I'), ("literal", 'N'),
        ("quote-name", 'Q'), ("recursive", 'R'), ("format", '\x04'), ("sort", '\x04'),
        ("tabsize", 'T'), ("time", '\x04'), ("color", '\x03')] } unchecked args fun parsed => do
  let has := parsed.has
  let ls : Ls :=
    { all := has 'a', almost := has 'A', long := has 'l' || has 'n' || has 'g' || has 'o',
      folders := has 'd', recursive := has 'R', classify := has 'F', slashes := has 'p',
      reverse := has 'r', byTime := has 't', bySize := has 'S', unsorted := has 'U',
      numbers := has 'i', sizes := has 's', commas := has 'm' }
  let paths := if parsed.words.isEmpty then ["."] else parsed.words
  let mut status := 0
  let mut found : List (String × Nat) := []
  for path in paths do
    let followed ← lookAt path true
    let result ← if (ls.long || ls.folders || ls.classify) && !has 'L' && !Path.endsWithSlash path
      then lookAt path false
      else match followed with
        | .ok n => pure (.ok n)
        | .error fault => do
          match ← lookAt path false with
          | .ok n => pure (.ok n)
          | .error _ => pure (.error fault)
    match result with
    | .ok n => found := found ++ [(path, n)]
    | .error fault =>
      let _ ← refuse ("cannot access " ++ quote path) fault
      status := 2
  let files ← Act.files
  let shown := ls.order files found
  let isListed := fun (entry : String × Nat) => (files.node entry.2).isFolder && !ls.folders
  let plain := shown.filter fun entry => !isListed entry
  let folders := shown.filter isListed
  print (ls.rows files plain)
  let titled := paths.length > 1 || ls.recursive
  let mut first := plain.isEmpty
  for (path, n) in folders do
    if !(files.node n).allows 4 then
      complain ("cannot open directory " ++ quote path ++ ": " ++ SystemError.permissionDenied.reason)
      status := 2
    else
      print ((if first then "" else "\n") ++ ls.folder files maxDepth titled path n)
      first := false
  return status

end ImpToC.Utility
