/-! Paths: names between slashes. -/
namespace ImpToC.Path

def splitAt (mark : Char) : List Char → List (List Char)
  | [] => [[]]
  | c :: rest =>
    match splitAt mark rest with
    | [] => [[c]]
    | part :: parts => if c = mark then [] :: part :: parts else (c :: part) :: parts

def isAbsolute (path : String) : Bool := path.toList.head? == some '/'

def endsWithSlash (path : String) : Bool := path.toList.getLast? == some '/'

def names (path : String) : List String :=
  ((splitAt '/' path.toList).filter (!·.isEmpty)).map String.ofList

def dropSlashes (path : List Char) : List Char :=
  (path.reverse.dropWhile (· == '/')).reverse

def base (path : String) : String :=
  if path.toList.all (· == '/') then (if path.isEmpty then "" else "/")
  else ((names path).getLast?).getD ""

def folder (path : String) : String :=
  let kept := dropSlashes path.toList
  let before := (kept.reverse.dropWhile (· != '/')).reverse
  if before.isEmpty then (if kept.isEmpty && !path.isEmpty then "/" else ".")
  else
    let shorter := dropSlashes before
    if shorter.isEmpty then "/" else String.ofList shorter

def join (folder name : String) : String :=
  if endsWithSlash folder then folder ++ name else folder ++ "/" ++ name

def relative (folder path : String) : String :=
  let rec common : List String → List String → List String × List String
    | a :: as, b :: bs => if a = b then common as bs else (a :: as, b :: bs)
    | as, bs => (as, bs)
  let (up, down) := common (names folder) (names path)
  match up.map (fun _ => "..") ++ down with
  | [] => "."
  | steps => "/".intercalate steps

/-- What follows the last dot of a file name, unless the name begins with that dot. -/
def extension? (name : List Char) : Option (List Char) :=
  if name = ['.', '.'] || !name.contains '.' then none
  else
    let after := (name.reverse.takeWhile (· != '.')).reverse
    if after.length + 1 = name.length then none else some after

/-- The path with another extension. The old one is cut off up to its dot first; if only
`..` is left of the name then, which names no file, it stays like that. -/
def withExtension (path extension : String) : String :=
  let name := ((splitAt '/' path.toList).getLast?).getD []
  let cut := path.toList.take (path.length - ((extension? name).getD []).length)
  let stem := ((splitAt '/' cut).getLast?).getD []
  if stem.isEmpty || stem = ['.'] || stem = ['.', '.'] then String.ofList cut
  else
    let kept := match extension? stem with
      | some after => cut.take (cut.length - after.length - 1)
      | none => cut
    String.ofList kept ++ "." ++ extension

end ImpToC.Path
