import ImpToC.Utility.Awk
import ImpToC.Utility.Bytes
import ImpToC.Utility.Columns
import ImpToC.Utility.Diff
import ImpToC.Utility.Digest
import ImpToC.Utility.Find
import ImpToC.Utility.Grep
import ImpToC.Utility.Host
import ImpToC.Utility.Joining
import ImpToC.Utility.Listing
import ImpToC.Utility.Numbering
import ImpToC.Utility.Numbers
import ImpToC.Utility.Sed
import ImpToC.Utility.Test

/-! The programs of the system, by their names. -/
namespace ImpToC.Utility

def grepScript (option : String) (args : List String) : Act Nat := do
  Act.setProcess fun process => { process with name := "grep" }
  grepWith 'G' (option :: args)

def constant (status : Nat) : List String → Act Nat
  | ["--version"] => do
    let _ ← answer status .version
    return status
  | _ => return status

/-- The programs, other than the shell. Those that start others are given a way to. -/
def table (start : Starter) : List (String × (List String → Act Nat)) :=
  [("[", testProgram true),
   ("awk", awk start),
   ("base64", base64),
   ("basename", basename),
   ("cat", cat),
   ("chmod", chmod),
   ("cksum", cksum),
   ("cmp", cmp),
   ("comm", comm),
   ("cp", cp),
   ("cut", cut),
   ("dd", dd),
   ("diff", diff),
   ("dirname", dirname),
   ("echo", echoProgram),
   ("egrep", grepScript "-E"),
   ("env", env start),
   ("expr", expr),
   ("false", fun args => constant 1 args),
   ("fgrep", grepScript "-F"),
   ("find", find start),
   ("fold", fold),
   ("grep", grepWith 'G'),
   ("head", head),
   ("install", install),
   ("link", link),
   ("ln", ln),
   ("ls", ls),
   ("mawk", awk start),
   ("md5sum", digest "MD5" Digest.md5),
   ("mkdir", mkdir),
   ("mktemp", mktemp),
   ("mv", mv),
   ("nice", nice start),
   ("nl", nl),
   ("nohup", nohup start),
   ("od", od),
   ("paste", paste),
   ("printenv", printenv),
   ("printf", printfProgram),
   ("pwd", pwdProgram),
   ("readlink", readlink),
   ("realpath", realpath),
   ("rev", rev),
   ("rgrep", grepScript "-r"),
   ("rm", rm),
   ("rmdir", rmdir),
   ("sed", sed),
   ("seq", seq),
   ("setsid", setsid start),
   ("sha1sum", digest "SHA1" Digest.sha1),
   ("sha256sum", digest "SHA256" Digest.sha256),
   ("sleep", sleep),
   ("sort", sort),
   ("stat", stat),
   ("stdbuf", stdbuf start),
   ("tac", tac),
   ("tail", tail),
   ("tee", tee),
   ("test", testProgram false),
   ("timeout", timeout start),
   ("touch", touch),
   ("tr", tr),
   ("true", fun args => constant 0 args),
   ("truncate", truncate),
   ("tty", tty),
   ("uname", uname),
   ("uniq", uniq),
   ("unlink", unlink),
   ("wc", wc),
   ("which", which),
   ("xargs", xargs start),
   ("yes", yes)] ++ hostTable

def names : List String := ["sh", "dash", "bash"] ++ (table fun _ => return .ok 0).map Prod.fst

end ImpToC.Utility
