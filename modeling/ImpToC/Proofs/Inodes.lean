import ImpToC.System.FileSystem
import Mathlib.Tactic.SplitIfs

/-! Inodes under change, and where paths lead afterwards. Paths end at an inode that is neither
a folder nor a link. So if only such an inode differs, and perhaps one entry by which it has got a
name, then every path that leads elsewhere leads where it did. File systems need not be well
formed here: an entry may name an inode that does not exist, and a parent may be a file. -/
namespace ImpToC

namespace Inode

def face (inode : Inode) : Inode := match inode.content with
  | .folder parent _ => { inode with content := .folder parent [] }
  | _ => inode

def target? (inode : Inode) : Option String := match inode.content with
  | .link target => some target
  | _ => none

/-- Paths end here: this is no folder, and no link either. -/
def IsEnd (inode : Inode) : Prop := inode.isFolder = false ∧ inode.target? = none

theorem isEnd_of_file {inode : Inode} {bytes : ByteArray} (file : inode.content = .file bytes) :
    inode.IsEnd := by
  simp [IsEnd, isFolder, target?, file]

variable {inode other : Inode}

theorem isFolder_eq_of_face_eq (same : inode.face = other.face) :
    inode.isFolder = other.isFolder := by
  have keeps (inode : Inode) : inode.face.isFolder = inode.isFolder := by
    rw [face]
    split <;> simp_all [isFolder]
  rw [← keeps inode, same, keeps]

theorem target?_eq_of_face_eq (same : inode.face = other.face) :
    inode.target? = other.target? := by
  have keeps (inode : Inode) : inode.face.target? = inode.target? := by
    rw [face]
    split <;> simp_all [target?]
  rw [← keeps inode, same, keeps]

theorem allows_eq_of_face_eq (same : inode.face = other.face) (right : Nat) :
    inode.allows right = other.allows right := by
  have keeps (inode : Inode) : inode.face.allows right = inode.allows right := by
    rw [face]
    split <;> rfl
  rw [← keeps inode, same, keeps]

end Inode

namespace FileSystem

section Lookup
variable {entries : List (String × Nat)} {key name : String}

theorem lookup_unnamed (ne : key ≠ name) :
    (entries.filter fun entry => entry.1 != name).lookup key = entries.lookup key := by
  induction entries with
  | nil => rfl
  | cons entry entries ih =>
    obtain ⟨first, n⟩ := entry
    by_cases same : first = name
    · simp [List.lookup_cons, same, ih, beq_false_of_ne ne]
    · simp [List.lookup_cons, same, ih]

theorem lookup_named (ne : key ≠ name) (n : Nat) :
    (entries.filter (fun entry => entry.1 != name) ++ [(name, n)]).lookup key =
      entries.lookup key := by
  simp [List.lookup_append, lookup_unnamed ne, List.lookup_cons, beq_false_of_ne ne]

theorem lookup_unnamed_self :
    (entries.filter fun entry => entry.1 != name).lookup name = none := by
  rw [List.lookup_eq_none_iff]
  intro entry mem
  exact bne_iff_ne.2 (bne_iff_ne.1 (List.mem_filter.1 mem).2).symm

theorem lookup_named_self (n : Nat) :
    (entries.filter (fun entry => entry.1 != name) ++ [(name, n)]).lookup name = some n := by
  simp [List.lookup_append, lookup_unnamed_self]

end Lookup

section Nodes
variable (fs : FileSystem) {n m folder : Nat} {name key : String}

theorem lt_size_of_content {content : Content} (known : (fs.node n).content = content)
    (other : content ≠ .device .null) : n < fs.inodes.size := by
  refine Nat.lt_of_not_le fun outside => other ?_
  have same : fs.node n = default := by
    simp [node, Array.getD_eq_getD_getElem?, outside]
  rw [← known, same]
  rfl

theorem lt_size_of_isFolder (isFolder : (fs.node n).isFolder) : n < fs.inodes.size := by
  refine fs.lt_size_of_content rfl fun known => ?_
  simp [Inode.isFolder, known] at isFolder

theorem node_size : fs.node fs.inodes.size = default := by
  simp [node, Array.getD_eq_getD_getElem?]

theorem node_setNode_ne (change : Inode → Inode) (ne : m ≠ n) :
    (fs.setNode n change).node m = fs.node m := by
  simp [setNode, node, Array.getD_eq_getD_getElem?, Array.getElem?_modify, ne.symm]

theorem node_setNode_self (change : Inode → Inode) (lt : n < fs.inodes.size) :
    (fs.setNode n change).node n = change (fs.node n) := by
  simp only [setNode, node, Array.getD_eq_getD_getElem?, Array.getElem?_modify]
  simp [lt]

theorem node_setNode_induction (property : Inode → Inode → Prop) {change : Inode → Inode}
    (refl : ∀ inode, property inode inode) (changed : ∀ inode, property inode (change inode))
    (m : Nat) : property (fs.node m) ((fs.setNode n change).node m) := by
  by_cases same : m = n
  · subst same
    by_cases lt : m < fs.inodes.size
    · rw [fs.node_setNode_self change lt]
      exact changed _
    · have kept : (fs.setNode m change).node m = fs.node m := by
        simp [setNode, node, Array.getD_eq_getD_getElem?, Nat.not_lt.1 lt]
      rw [kept]
      exact refl _
  · rw [fs.node_setNode_ne change same]
    exact refl _

theorem node_setBytes_ne (change : ByteArray → ByteArray) (ne : m ≠ n) :
    (fs.setBytes n change).node m = fs.node m :=
  fs.node_setNode_ne _ ne

theorem content_setBytes {bytes : ByteArray} (file : (fs.node n).content = .file bytes)
    (change : ByteArray → ByteArray) :
    ((fs.setBytes n change).node n).content = .file (change bytes) := by
  have lt : n < fs.inodes.size := fs.lt_size_of_content file (by simp)
  refine (congrArg Inode.content (fs.node_setNode_self _ lt)).trans ?_
  rcases known : fs.node n with ⟨content, mode, owned, stamp⟩
  obtain rfl : content = .file bytes := by rw [← file, known]
  rfl

theorem face_setEntries (change : List (String × Nat) → List (String × Nat)) (m : Nat) :
    ((fs.setEntries folder change).node m).face = (fs.node m).face := by
  refine fs.node_setNode_induction (fun old new => new.face = old.face) (fun _ => rfl) ?_ m
  rintro ⟨content, mode, owned, stamp⟩
  cases content <;> rfl

theorem lookup_setEntries {change : List (String × Nat) → List (String × Nat)}
    (keeps : ∀ entries, (change entries).lookup key = entries.lookup key) (m : Nat) :
    ((fs.setEntries folder change).node m).entries.lookup key =
      (fs.node m).entries.lookup key := by
  refine fs.node_setNode_induction
    (fun old new => new.entries.lookup key = old.entries.lookup key) (fun _ => rfl) ?_ m
  rintro ⟨content, mode, owned, stamp⟩
  cases content with
  | folder parent entries => exact keeps entries
  | file bytes => rfl
  | link target => rfl
  | device device => rfl

theorem node_setEntries_ne (change : List (String × Nat) → List (String × Nat))
    (ne : m ≠ folder) : (fs.setEntries folder change).node m = fs.node m :=
  fs.node_setNode_ne _ ne

theorem entries_setEntries_self (change : List (String × Nat) → List (String × Nat))
    (isFolder : (fs.node folder).isFolder) :
    ((fs.setEntries folder change).node folder).entries = change (fs.node folder).entries := by
  rw [setEntries, fs.node_setNode_self _ (fs.lt_size_of_isFolder isFolder)]
  rcases known : fs.node folder with ⟨content, mode, owned, stamp⟩
  rw [known] at isFolder
  cases content with
  | folder parent entries => rfl
  | file bytes => cases isFolder
  | link target => cases isFolder
  | device device => cases isFolder

/-- The files with one more inode, which has no name yet. -/
def extend (fs : FileSystem) (inode : Inode) : FileSystem :=
  { fs with
    inodes := fs.inodes.push { inode with stamp := fs.stamp + 1 }
    stamp := fs.stamp + 1 }

theorem add_eq (inode : Inode) :
    fs.add folder name inode =
      ((fs.extend inode).name folder name fs.inodes.size, fs.inodes.size) :=
  rfl

theorem node_extend_ne (inode : Inode) (ne : m ≠ fs.inodes.size) :
    (fs.extend inode).node m = fs.node m := by
  simp [extend, node, Array.getD_eq_getD_getElem?, Array.getElem?_push, ne]

theorem node_extend_self (inode : Inode) :
    (fs.extend inode).node fs.inodes.size = { inode with stamp := fs.stamp + 1 } := by
  simp [extend, node, Array.getD_eq_getD_getElem?]

theorem node_add_ne (inode : Inode) (old : m ≠ fs.inodes.size) (ne : m ≠ folder) :
    (fs.add folder name inode).1.node m = fs.node m := by
  rw [add_eq, FileSystem.name, node_setEntries_ne _ _ ne, node_extend_ne _ _ old]

theorem face_add (inode : Inode) (old : m ≠ fs.inodes.size) :
    ((fs.add folder name inode).1.node m).face = (fs.node m).face := by
  rw [add_eq, FileSystem.name, face_setEntries, node_extend_ne _ _ old]

theorem lookup_add_ne (inode : Inode) (old : m ≠ fs.inodes.size) (ne : key ≠ name) :
    ((fs.add folder name inode).1.node m).entries.lookup key =
      (fs.node m).entries.lookup key := by
  rw [add_eq, FileSystem.name, lookup_setEntries _ (fun _ => lookup_named ne _),
    node_extend_ne _ _ old]

theorem lookup_add_self (name : String) (inode : Inode) (isFolder : (fs.node folder).isFolder) :
    ((fs.add folder name inode).1.node folder).entries.lookup name = some fs.inodes.size := by
  have old : folder ≠ fs.inodes.size := Nat.ne_of_lt (fs.lt_size_of_isFolder isFolder)
  have same := fs.node_extend_ne inode old
  rw [add_eq, FileSystem.name, entries_setEntries_self _ _ (same ▸ isFolder), lookup_named_self]

theorem node_add_self (name : String) (inode : Inode) (isFolder : (fs.node folder).isFolder) :
    (fs.add folder name inode).1.node fs.inodes.size =
      { inode with stamp := fs.stamp + 1 } := by
  have old : folder ≠ fs.inodes.size := Nat.ne_of_lt (fs.lt_size_of_isFolder isFolder)
  rw [add_eq, FileSystem.name, node_setEntries_ne _ _ old.symm, node_extend_self]

end Nodes

/-- Two file systems that differ in one inode only, at which paths end, and perhaps in an entry
of a folder by which it has got a name. -/
structure Alters (folder : Nat) (name : String) (n : Nat) (before after : FileSystem) : Prop where
  work : after.work = before.work
  wasEnd : (before.node n).IsEnd
  isEnd : (after.node n).IsEnd
  faces : ∀ m, m ≠ n → (after.node m).face = (before.node m).face
  entries : ∀ m, m ≠ n → ∀ key,
    (after.node m).entries.lookup key = (before.node m).entries.lookup key ∨
      m = folder ∧ key = name ∧ (before.node m).entries.lookup key = none ∧
        (after.node m).entries.lookup key = some n

/-- How the place of a path can differ then: it may be one that had nothing, and has got the
inode. A path that led nowhere leads nowhere. -/
inductive Finds (folder : Nat) (name : String) (n : Nat) :
    Except SystemError Location → Except SystemError Location → Prop where
  | same (place : Location) : Finds folder name n (.ok place) (.ok place)
  | found (slash : Bool) :
      Finds folder name n (.ok ⟨folder, name, none, slash⟩) (.ok ⟨folder, name, some n, slash⟩)
  | lost (fault fault' : SystemError) : Finds folder name n (.error fault) (.error fault')

/-- What a path leads to by a name that is looked up. -/
def advance (fs : FileSystem) (follow : Bool) (steps links here : Nat) (name : String)
    (rest : List String) (slash : Bool) : Except SystemError Location :=
  match (fs.node here).entries.lookup name with
  | none => if rest.isEmpty then .ok ⟨here, name, none, slash⟩ else .error .noSuchFile
  | some n =>
    match (fs.node n).target? with
    | some target =>
      if rest.isEmpty && !follow && !slash then .ok ⟨here, name, some n, slash⟩
      else if links = 0 then .error .tooManyLinks
      else
        fs.walk follow steps (links - 1) (if Path.isAbsolute target then 0 else here)
          (Path.names target ++ rest) (slash || rest.isEmpty && Path.endsWithSlash target)
    | none =>
      if rest.isEmpty then .ok ⟨here, name, some n, slash⟩
      else fs.walk follow steps links n rest slash

theorem walk_cons (fs : FileSystem) (follow : Bool) (steps links here : Nat) (name : String)
    (rest : List String) (slash : Bool) :
    fs.walk follow (steps + 1) links here (name :: rest) slash =
      if !(fs.node here).isFolder then .error .notADirectory
      else if !(fs.node here).allows 1 then .error .permissionDenied
      else if name = "." then fs.walk follow steps links here rest slash
      else if name = ".." then fs.walk follow steps links (fs.parent here) rest slash
      else if name.length > maxName then .error .nameTooLong
      else fs.advance follow steps links here name rest slash := by
  rw [walk, advance]
  cases (fs.node here).entries.lookup name with
  | none => rfl
  | some n => cases known : (fs.node n).content <;> simp [Inode.target?, known]

namespace Alters
variable {folder n : Nat} {name : String} {before middle after : FileSystem}

theorem isFolder_eq (alters : Alters folder name n before after) (m : Nat) :
    (after.node m).isFolder = (before.node m).isFolder := by
  by_cases same : m = n
  · rw [same, alters.isEnd.1, alters.wasEnd.1]
  · exact Inode.isFolder_eq_of_face_eq (alters.faces m same)

theorem target?_eq (alters : Alters folder name n before after) (m : Nat) :
    (after.node m).target? = (before.node m).target? := by
  by_cases same : m = n
  · rw [same, alters.isEnd.2, alters.wasEnd.2]
  · exact Inode.target?_eq_of_face_eq (alters.faces m same)

theorem ne_of_isFolder (alters : Alters folder name n before after) {m : Nat}
    (isFolder : (before.node m).isFolder) : m ≠ n := by
  rintro rfl
  rw [alters.wasEnd.1] at isFolder
  cases isFolder

theorem allows_eq (alters : Alters folder name n before after) {m : Nat}
    (isFolder : (before.node m).isFolder) (right : Nat) :
    (after.node m).allows right = (before.node m).allows right :=
  Inode.allows_eq_of_face_eq (alters.faces m (alters.ne_of_isFolder isFolder)) right

theorem parent_eq (alters : Alters folder name n before after) {m : Nat}
    (isFolder : (before.node m).isFolder) : after.parent m = before.parent m := by
  have shown (fs : FileSystem) :
      fs.parent m = match (fs.node m).face.content with
        | .folder parent _ => parent
        | _ => m := by
    rw [parent, Inode.face]
    split <;> simp_all
  rw [shown, shown, alters.faces m (alters.ne_of_isFolder isFolder)]

theorem walk_through (alters : Alters folder name n before after) (follow : Bool)
    (steps links : Nat) {rest : List String} (more : rest.isEmpty = false) (slash : Bool) :
    ∃ fault, after.walk follow steps links n rest slash = .error fault := by
  cases steps with
  | zero => exact ⟨_, rfl⟩
  | succ steps =>
    cases rest with
    | nil => cases more
    | cons key rest => exact ⟨.notADirectory, by simp [walk_cons, alters.isEnd.1]⟩

/-- Only the last name of a path can be the new entry. -/
theorem advance (alters : Alters folder name n before after) {follow : Bool} {steps : Nat}
    (further : ∀ links here names slash, Finds folder name n
      (before.walk follow steps links here names slash)
      (after.walk follow steps links here names slash))
    (links : Nat) {here : Nat} (ne : here ≠ n) (key : String) (rest : List String)
    (slash : Bool) :
    Finds folder name n (before.advance follow steps links here key rest slash)
      (after.advance follow steps links here key rest slash) := by
  rw [FileSystem.advance, FileSystem.advance]
  rcases alters.entries here ne key with same | ⟨rfl, rfl, vacant, entry⟩
  · rw [same]
    cases (before.node here).entries.lookup key with
    | none =>
      dsimp only
      split_ifs
      · exact .same _
      · exact .lost _ _
    | some m =>
      dsimp only
      rw [alters.target?_eq]
      cases (before.node m).target? with
      | none =>
        dsimp only
        split_ifs
        · exact .same _
        · exact further _ _ _ _
      | some target =>
        dsimp only
        split_ifs
        · exact .same _
        · exact .lost _ _
        · exact further _ _ _ _
        · exact further _ _ _ _
  · -- Here the walk meets the inode where there was nothing: it ends there or fails.
    rw [vacant, entry]
    dsimp only
    rw [alters.isEnd.2]
    dsimp only
    cases last : rest.isEmpty with
    | true => exact .found slash
    | false =>
      obtain ⟨fault, refused⟩ := alters.walk_through follow steps links last slash
      simp only [refused, Bool.false_eq_true, if_false]
      exact .lost _ _

theorem walk (alters : Alters folder name n before after) (follow : Bool)
    (steps links here : Nat) (names : List String) (slash : Bool) :
    Finds folder name n (before.walk follow steps links here names slash)
      (after.walk follow steps links here names slash) := by
  induction steps generalizing links here names slash with
  | zero => exact .lost _ _
  | succ steps ih =>
    cases names with
    | nil => exact .same _
    | cons key rest =>
      rw [walk_cons, walk_cons, alters.isFolder_eq]
      by_cases isFolder : (before.node here).isFolder
      · -- A folder on the way is not the inode, so all that is read of it is the same.
        rw [alters.allows_eq isFolder, alters.parent_eq isFolder]
        split_ifs
        · exact .lost _ _
        · exact .lost _ _
        · exact ih _ _ _ _
        · exact ih _ _ _ _
        · exact .lost _ _
        · exact alters.advance ih links (alters.ne_of_isFolder isFolder) key rest slash
      · simp only [isFolder, Bool.not_false, if_true]
        exact .lost _ _

theorem locate (alters : Alters folder name n before after) (start : Nat) (path : String)
    (follow : Bool) :
    Finds folder name n (before.locate start path follow) (after.locate start path follow) := by
  rw [FileSystem.locate, FileSystem.locate]
  split_ifs
  · exact .lost _ _
  · exact .lost _ _
  · exact alters.walk _ _ _ _ _ _
  · exact alters.walk _ _ _ _ _ _

theorem locate_eq (alters : Alters folder name n before after) {start : Nat} {path : String}
    {follow : Bool} {place : Location} {m : Nat}
    (leads : before.locate start path follow = .ok place) (found : place.found? = some m) :
    after.locate start path follow = .ok place := by
  have finds := alters.locate start path follow
  rw [leads] at finds
  generalize after.locate start path follow = result at finds ⊢
  cases finds with
  | same => rfl
  | found slash => cases found

theorem refl (folder : Nat) (name : String) {fs : FileSystem} (isEnd : (fs.node n).IsEnd) :
    Alters folder name n fs fs :=
  ⟨rfl, isEnd, isEnd, fun _ _ => rfl, fun _ _ _ => .inl rfl⟩

theorem change (alters : Alters folder name n before middle)
    (others : ∀ m, m ≠ n → after.node m = middle.node m) (work : after.work = middle.work)
    (isEnd : (after.node n).IsEnd) : Alters folder name n before after where
  work := work.trans alters.work
  wasEnd := alters.wasEnd
  isEnd := isEnd
  faces m ne := by rw [others m ne, alters.faces m ne]
  entries m ne key := by
    rw [others m ne]
    exact alters.entries m ne key

theorem add {fs : FileSystem} (isFolder : (fs.node folder).isFolder)
    (vacant : (fs.node folder).entries.lookup name = none) (inode : Inode) {bytes : ByteArray}
    (file : inode.content = .file bytes) :
    Alters folder name fs.inodes.size fs (fs.add folder name inode).1 where
  work := rfl
  wasEnd := by
    rw [fs.node_size]
    exact ⟨rfl, rfl⟩
  isEnd := by
    rw [fs.node_add_self name inode isFolder]
    exact Inode.isEnd_of_file file
  faces m old := fs.face_add inode old
  entries m old key := by
    by_cases named : m = folder ∧ key = name
    · obtain ⟨rfl, rfl⟩ := named
      exact .inr ⟨rfl, rfl, vacant, fs.lookup_add_self _ inode isFolder⟩
    · left
      by_cases same : m = folder
      · exact fs.lookup_add_ne inode old fun equal => named ⟨same, equal⟩
      · rw [fs.node_add_ne inode old same]

end Alters

end FileSystem

end ImpToC
