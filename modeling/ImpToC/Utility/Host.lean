import ImpToC.Utility.Listing
import ImpToC.Utility.Processes

/-! Programs for the host, its users, its disks and its clock, and others that are seldom run.
All of them know which options they have; what they tell is that of a small host. -/
namespace ImpToC.Utility

def startingSecond : Nat := 1700000000

/-- Year, month and day for a number of days since 1970, by eras of 400 years that begin in
March. -/
def civil (days : Nat) : Nat × Nat × Nat :=
  let shifted := days + 719468
  let era := shifted / 146097
  let dayOfEra := shifted % 146097
  let yearOfEra := (dayOfEra - dayOfEra / 1460 + dayOfEra / 36524 - dayOfEra / 146096) / 365
  let dayOfYear := dayOfEra - (365 * yearOfEra + yearOfEra / 4 - yearOfEra / 100)
  let month := (5 * dayOfYear + 2) / 153
  let day := dayOfYear - (153 * month + 2) / 5 + 1
  let month := if month < 10 then month + 3 else month - 9
  (yearOfEra + era * 400 + if month ≤ 2 then 1 else 0, month, day)

def dayNames : List String := ["Thu", "Fri", "Sat", "Sun", "Mon", "Tue", "Wed"]

def monthNames : List String :=
  ["Jan", "Feb", "Mar", "Apr", "May", "Jun", "Jul", "Aug", "Sep", "Oct", "Nov", "Dec"]

/-- A moment, in microseconds since 1970, in the form that a text asks for. -/
def dateText (micros : Nat) : List Char → String
  | '%' :: letter :: rest =>
    let seconds := micros / 1000000
    let days := seconds / 86400
    let (year, month, day) := civil days
    let two := fun (n : Nat) => Floating.padded 2 (toString n)
    let date := toString year ++ "-" ++ two month ++ "-" ++ two day
    let time := two (seconds / 3600 % 24) ++ ":" ++ two (seconds / 60 % 60) ++ ":" ++
      two (seconds % 60)
    let shown := match letter with
      | 's' => toString seconds
      | 'N' => Floating.padded 9 (toString (micros % 1000000 * 1000))
      | 'Y' => toString year
      | 'm' => two month
      | 'd' => two day
      | 'H' => two (seconds / 3600 % 24)
      | 'M' => two (seconds / 60 % 60)
      | 'S' => two (seconds % 60)
      | 'F' => date
      | 'T' => time
      | 'a' => dayNames.getD (days % 7) ""
      | 'b' => monthNames.getD (month - 1) ""
      | 'Z' => "UTC"
      | 'z' => "+0000"
      | 'n' => "\n"
      | 't' => "\t"
      | '%' => "%"
      | letter => String.ofList ['%', letter]
    shown ++ dateText micros rest
  | c :: rest => String.singleton c ++ dateText micros rest
  | [] => ""

def date (args : List String) : Act Nat :=
  withOptions "d:f:I::r:Rs:u"
    [("date", 'd'), ("file", 'f'), ("iso-8601", 'I'), ("reference", 'r'), ("rfc-email", 'R'),
     ("set", 's'), ("utc", 'u'), ("universal", 'u')] args fun parsed => do
  let micros := startingSecond * 1000000 + (← Act.world).clock
  match parsed.words with
  | [] =>
    printLine (dateText micros (if parsed.has 'I' then "%F" else "%a %b %d %T %Z %Y").toList)
    return 0
  | format :: _ =>
    match format.toList with
    | '+' :: format =>
      printLine (dateText micros format)
      return 0
    | _ =>
      complain ("invalid date " ++ quote format)
      return 1

def telling (letters line : String) (long : List (String × Char)) (args : List String) :
    Act Nat :=
  withOptions letters long args fun parsed => do
  if let extra :: _ := parsed.words then return ← misuse ("extra operand " ++ quote extra) 1
  printLine line
  return 0

def idle (spec : Spec) (args : List String) : Act Nat :=
  withSpec spec unchecked args fun _ => return 0

def idleWithSize (letters : String) (letter : Char) (message : String → String)
    (args : List String) : Act Nat :=
  withSpec { letters }
    (fun given value => pure (if given = letter && (size? value).isNone
      then some (.value (message value)) else none))
    args fun _ => return 0

def stty (args : List String) : Act Nat := do
  match args.find? fun word => !(["-a", "-g", "--all", "--save"].contains word) with
  | some "--help" => answer 0 .help
  | some "--version" => answer 0 .version
  | some word => misuse ("invalid argument " ++ quote word) 1
  | none =>
    complain "'standard input': Inappropriate ioctl for device"
    return 1

def refusing (complaint : String) (status : Nat) (args : List String) : Act Nat := do
  match args with
  | "--version" :: _ => answer 0 .version
  | "--help" :: _ => answer 0 .help
  | _ =>
    let _ ← Act.write 2 (complaint ++ "\n")
    return status

def gzip (args : List String) : Act Nat := do
  let parsed := Spec.parse { letters := "ab:cdfhH?klLmMnNqrS:tvVZ123456789" } args
  match parsed.faults.head? with
  | some (.option message) =>
    let _ ← Act.write 2 ("gzip: " ++ message ++ "\nTry \x60gzip --help' for more information.\n")
    return 1
  | some fault => answer 0 fault
  | none => return 0

def tar : List String → Act Nat :=
  refusing ("tar: You may not specify more than one '-Acdtrux', '--delete' or  '--test-label' " ++
    "option\nTry 'tar --help' or 'tar --usage' for more information.") 2

def getopt : List String → Act Nat :=
  refusing ("getopt: unknown shell after -s or --shell argument\n" ++ hint "getopt") 2

def perl (args : List String) : Act Nat := do
  match args with
  | "--version" :: _ | "-v" :: _ => answer 0 .version
  | _ =>
    match args.find? fun word => word.startsWith "-" && !word.startsWith "-s" with
    | some word =>
      let _ ← Act.write 2 ("Unrecognized switch: " ++ word ++ "  (-h will show valid options).\n")
      return 29
    | none => return 0

def hostTable : List (String × (List String → Act Nat)) :=
  [("arch", telling "" "x86_64" []),
   ("b2sum", idle { letters := "l:bctwz" }),
   ("basenc", idle { letters := "diw:" }),
   ("chcon", idle { letters := "HLPRhvu:r:t:l:" }),
   ("chgrp", idle { letters := "HLPRcfhv" }),
   ("chown", idle { letters := "HLPRcfhv" }),
   ("csplit", idle { letters := "f:b:kn:sqz" }),
   ("date", date),
   ("df", idle { letters := "aB:iF:hHklmPTt:vx:" }),
   ("diff3", fun args =>
     withOwnHint { letters := "aeimvx3AEL:TX", status := 2 } args fun _ => return 0),
   ("dir", fun args => ls ("-C" :: args)),
   ("dircolors", idle { letters := "bcp" }),
   ("du", idleWithSize "0abd:chHklmst:xB:DLPSX:" 't' fun value =>
     "invalid -t argument " ++ quote value),
   ("flock", idle { letters := "sexnoFuw:E:c:hV", first := true, status := 64 }),
   ("fmt", idle { letters := "0123456789cstuw:p:g:" }),
   ("getopt", getopt),
   ("groups", telling "" "users" []),
   ("gunzip", gzip),
   ("gzip", gzip),
   ("hostid", telling "" "00000000" []),
   ("hostname", telling "aAbdfiIsyF:V" "localhost" []),
   ("id", fun args => withOptions "agnruzGZ"
     [("user", 'u'), ("group", 'g'), ("groups", 'G'), ("name", 'n'), ("real", 'r')] args
     fun parsed => do
       let name := if parsed.has 'n' then "user" else "1000"
       printLine (if parsed.has 'u' || parsed.has 'g' || parsed.has 'G' then name
         else "uid=1000(user) gid=1000(user) groups=1000(user)")
       return 0),
   ("logname", fun args => withOptions "" [] args fun _ => do
     complain "no login name"
     return 1),
   ("mkfifo", idle { letters := "m:Z" }),
   ("mknod", idle { letters := "m:Z" }),
   ("more", idle { letters := "defcpln:suhV" }),
   ("nproc", telling "" "1" [("all", 'a'), ("ignore", 'i')]),
   ("numfmt", idle { letters := "d:z" }),
   ("pathchk", idle { letters := "pP", first := true }),
   ("perl", perl),
   ("pinky", idle { letters := "sfwiqbhlp" }),
   ("pr", idle { letters := "0123456789abcd:e::fFh:i::Jl:mn::N:o:rs::S::tTvw:W:" }),
   ("ptx", idle { letters := "AF:GM:ORS:TW:b:i:fg:o:trw:" }),
   ("runcon", idle { letters := "r:t:u:l:c", first := true, status := 125 }),
   ("sdiff", fun args =>
     withOwnHint { letters := "abBdEHiI:lo:stvw:WZ", status := 2 } args fun _ => return 0),
   ("shred", idleWithSize "fn:s:uvxz" 's' fun value => "invalid file size: " ++ quote value),
   ("shuf", idle { letters := "ei:n:o:rz" }),
   ("stty", stty),
   ("sync", idle { letters := "df" }),
   ("tar", tar),
   ("tsort", idle { letters := "" }),
   ("users", idle { letters := "" }),
   ("vdir", fun args => ls ("-l" :: args)),
   ("who", idle { letters := "abdlmpqrstuwHT" }),
   ("whoami", telling "" "user" []),
   ("zcat", gzip)]

end ImpToC.Utility
