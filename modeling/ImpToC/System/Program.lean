import ImpToC.System.FileSystem

/-! Programs: what a file has to be so that it can be started. -/
namespace ImpToC

def imageMark : String := "\x7fELF"

structure Started where
  program : String
  words : List String

namespace FileSystem

def maxInterpreters : Nat := 5
def maxInterpreterLine : Nat := 255

/-- The interpreter that the first line of a script asks for, with the one word that may
follow it. -/
def interpreter? (octets : List Char) : Option (String × Option String) :=
  let isBlank := fun (c : Char) => c == ' ' || c == '\t'
  match octets with
  | '#' :: '!' :: rest =>
    let line := (rest.takeWhile fun c => c != '\n' && c != '\x00').dropWhile isBlank
    let line := (line.reverse.dropWhile isBlank).reverse
    let path := line.takeWhile (!isBlank ·)
    let word := (line.drop path.length).dropWhile isBlank
    if path.isEmpty then none
    else some (String.ofList path, if word.isEmpty then none else some (String.ofList word))
  | _ => none

def start (fs : FileSystem) (folder : Nat) (programs : List String) :
    Nat → String → List String → Except SystemError Started
  | 0, _, _ => .error .tooManyLinks
  | depth + 1, path, words => do
    let inode := fs.node (← fs.resolve folder path true)
    if !inode.isFile || !inode.allows 1 then throw .permissionDenied
    let octets := Octets.ofBytes (inode.bytes.extract 0 maxInterpreterLine)
    if octets.startsWith imageMark then
      let name := String.ofList (octets.toList.drop imageMark.length)
      if programs.contains name then return ⟨name, words⟩ else throw .execFormat
    else
      match interpreter? octets.toList with
      | none => throw .execFormat
      | some (interpreter, word?) =>
        fs.start folder programs depth interpreter
          (interpreter :: word?.toList ++ path :: words.tail)

def candidates (searchPath name : String) : List String :=
  if name.contains '/' then [name]
  else ((Path.splitAt ':' searchPath.toList).map String.ofList).map fun folder =>
    if folder.isEmpty then name else Path.join folder name

def search? (fs : FileSystem) (folder : Nat) (searchPath name : String) : Option String :=
  (candidates searchPath name).find? fun path =>
    match fs.resolve folder path true with
    | .ok n => (fs.node n).isFile && (fs.node n).allows 1
    | .error _ => false

end FileSystem

end ImpToC
