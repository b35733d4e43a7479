import ImpToC.Text.CharClass

/-! Patterns, in which `*` stands for any text, `?` for any character, and brackets for one
of several characters. -/
namespace ImpToC.Shell

open CharClass (Member)

inductive Item where
  | any
  | one
  | char (c : Char)
  | bracket (negated : Bool) (members : List Member)
  deriving DecidableEq

/-- The members of a bracket, whose opening has been passed, and what follows it. A
bracket that is not closed is none. The flag says that a member has been read already. -/
def members? : Nat → Bool → List Member → List Char → Option (List Member × List Char)
  | 0, _, _, _ => none
  | bound + 1, begun, before, cs => match cs with
    | [] => none
    | ']' :: rest => if begun then some (before.reverse, rest)
      else members? bound true (.range ']' ']' :: before) rest
    | '[' :: ':' :: rest =>
      let name := rest.takeWhile Char.isAlpha
      match rest.drop name.length with
      | ':' :: ']' :: rest => members? bound true (.ofClass (String.ofList name) :: before) rest
      | _ => members? bound true (.range '[' '[' :: before) (':' :: rest)
    | c :: '-' :: ']' :: rest =>
      members? bound true (.range '-' '-' :: .range c c :: before) (']' :: rest)
    | c :: '-' :: d :: rest => members? bound true (.range c d :: before) rest
    | c :: rest => members? bound true (.range c c :: before) rest

def bracket? (cs : List Char) : Option (Item × List Char) :=
  let (negated, rest) := match cs with
    | '!' :: rest => (true, rest)
    | _ => (false, cs)
  (members? (rest.length + 1) false [] rest).map fun (members, rest) =>
    (.bracket negated members, rest)

namespace Item

/-- The items of a pattern. Characters in quotes stand for themselves, and so does one
after a backslash. -/
def ofChars : Nat → List (Char × Bool) → List Item
  | 0, _ => []
  | bound + 1, cs => match cs with
    | [] => []
    | ('*', false) :: rest => any :: ofChars bound rest
    | ('?', false) :: rest => one :: ofChars bound rest
    | ('\\', false) :: (c, _) :: rest => char c :: ofChars bound rest
    | ('[', false) :: rest =>
      match bracket? (rest.map fun (c, quoted) => if quoted && (c == ']' || c == '-') then '\x00' else c) with
      | some (item, after) => item :: ofChars bound (rest.drop (rest.length - after.length))
      | none => char '[' :: ofChars bound rest
    | (c, _) :: rest => char c :: ofChars bound rest

def ofMarked (cs : List (Char × Bool)) : List Item := ofChars (cs.length + 1) cs

def ofText (text : String) : List Item := ofMarked (text.toList.map fun c => (c, false))

def fits (c : Char) : Item → Bool
  | any => false
  | one => true
  | char d => c == d
  | bracket negated members => members.any (Member.holds c) != negated

def covers : List Item → List Char → Bool
  | [], text => text.isEmpty
  | any :: items, text =>
    covers items text ||
      match text with
      | [] => false
      | _ :: rest => covers (any :: items) rest
  | item :: items, text =>
    match text with
    | [] => false
    | c :: rest => item.fits c && covers items rest
termination_by items text => items.length + text.length

def trimStart (longest : Bool) (items : List Item) (text : List Char) : List Char :=
  let counts := List.range (text.length + 1)
  let counts := if longest then counts.reverse else counts
  match counts.find? fun count => covers items (text.take count) with
  | some count => text.drop count
  | none => text

def trimEnd (longest : Bool) (items : List Item) (text : List Char) : List Char :=
  let counts := List.range (text.length + 1)
  let counts := if longest then counts else counts.reverse
  match counts.find? fun count => covers items (text.drop count) with
  | some count => text.take count
  | none => text

def isOpen : Item → Bool
  | char _ => false
  | _ => true

end Item

end ImpToC.Shell
