import ImpToC.Proofs.Encoding
import ImpToC.Proofs.Inodes

/-! What is changed by writing to a path: the file that the path leads to, which may be a new
one, and nothing that another path leads to. Writing text and copying a file both open the path
first, and then give bytes to what has been opened. -/
namespace ImpToC

theorem Except.guard_eq_ok {ε α : Type} {condition : Prop} [Decidable condition] {fault : ε}
    {next : Unit → Except ε α} {result : α} :
    (if condition then (throw fault : Except ε Unit) >>= next else next ()) = .ok result ↔
      ¬condition ∧ next () = .ok result := by
  by_cases holds : condition
  · have refused : (throw fault : Except ε Unit) >>= next = .error fault := rfl
    simp [holds, refused]
  · simp [holds]

namespace FileSystem

def look (fs : FileSystem) (start : Nat) (path : String) (follow : Bool) :
    Option (Location × Option Inode) :=
  match fs.locate start path follow with
  | .ok place => some (place, place.found?.map fun n => (fs.node n).face)
  | .error _ => none

def Leads (fs : FileSystem) (path : String) (n : Nat) : Prop :=
  ∃ place, fs.locate fs.work (Octets.ofText path) true = .ok place ∧ place.found? = some n

def Holds (fs : FileSystem) (path : String) (bytes : ByteArray) : Prop :=
  ∃ n, fs.Leads path n ∧ (fs.node n).content = .file bytes

/-- The path leads to the inode, which is a file with these bytes, and nothing else is changed. -/
def Stores (path : String) (n : Nat) (bytes : ByteArray) (before after : FileSystem) : Prop :=
  ∃ place, after.locate after.work (Octets.ofText path) true = .ok place ∧ place.found? = some n ∧
    Alters place.folder place.name n before after ∧ (after.node n).content = .file bytes

namespace Stores
variable {path : String} {n : Nat} {bytes newBytes : ByteArray}
  {before middle after : FileSystem}

theorem holds (stores : Stores path n bytes before after) : after.Holds path bytes := by
  obtain ⟨place, located, found, -, file⟩ := stores
  exact ⟨n, ⟨place, located, found⟩, file⟩

theorem file (stores : Stores path n bytes before after) :
    (after.node n).content = .file bytes := by
  obtain ⟨-, -, -, -, file⟩ := stores
  exact file

theorem leads {other : String} {m : Nat} (stores : Stores path n bytes before after)
    (leads : before.Leads other m) : after.Leads other m := by
  obtain ⟨_, -, -, alters, -⟩ := stores
  obtain ⟨place, located, found⟩ := leads
  exact ⟨place, alters.work ▸ alters.locate_eq located found, found⟩

theorem change (stores : Stores path n bytes before middle)
    (others : ∀ m, m ≠ n → after.node m = middle.node m) (work : after.work = middle.work)
    (file : (after.node n).content = .file newBytes) : Stores path n newBytes before after := by
  obtain ⟨place, located, found, alters, -⟩ := stores
  have isEnd := Inode.isEnd_of_file file
  have onward := (Alters.refl place.folder place.name alters.isEnd).change others work isEnd
  exact ⟨place, work ▸ onward.locate_eq located found, found, alters.change others work isEnd,
    file⟩

theorem setBytes (stores : Stores path n bytes before middle) (newBytes : ByteArray) :
    Stores path n newBytes before (middle.setBytes n fun _ => newBytes) := by
  have file := middle.content_setBytes stores.file fun _ => newBytes
  exact stores.change (fun m ne => middle.node_setBytes_ne _ ne) rfl file

theorem setMode (stores : Stores path n bytes before middle) (mode : Nat) :
    Stores path n bytes before (middle.setNode n fun inode => { inode with mode }) := by
  have lt := middle.lt_size_of_content stores.file (by simp)
  refine stores.change (fun m ne => middle.node_setNode_ne _ ne) rfl ?_
  rw [middle.node_setNode_self _ lt]
  exact stores.file

end Stores

/-- What a path is opened as for writing: a device, or a file that is empty now. -/
inductive Opens (path : String) (fs : FileSystem) : FileSystem → Nat → Prop where
  | device {n : Nat} {device : Device} (leads : fs.Leads path n)
      (content : (fs.node n).content = .device device) : Opens path fs fs n
  | file {opened : FileSystem} {n : Nat} (stores : Stores path n .empty fs opened) :
      Opens path fs opened n

section Write
variable {fs opened : FileSystem} {path source target : String} {n mode : Nat}
  {bytes : ByteArray} {Given : FileSystem → ByteArray → Prop} {written : Written}

end Write

end FileSystem

end ImpToC
