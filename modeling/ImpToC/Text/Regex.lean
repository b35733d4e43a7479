import ImpToC.Text.CharClass

/-! Regular expressions and where they match. Of all matches the leftmost one counts, and of
those the longest. -/
namespace ImpToC

inductive Regex where
  | empty
  | char (c : Char)
  | any
  | set (negated : Bool) (members : List CharClass.Member)
  | start
  | stop
  | edge
  | inner
  | wordStart
  | wordStop
  | seq (a b : Regex)
  | alt (a b : Regex)
  | repeated (a : Regex) (least : Nat) (most? : Option Nat)
  | group (n : Nat) (a : Regex)
  | again (n : Nat)

namespace Regex

abbrev Groups := List (Nat × Nat × Nat)

/-- A text to look in, and whether upper and lower case count as the same. -/
structure Subject where
  text : Array Char
  fold : Bool := false

def Subject.ofString (text : String) (fold : Bool) : Subject := ⟨text.toList.toArray, fold⟩

def Subject.slice (subject : Subject) (i j : Nat) : String :=
  String.ofList (subject.text.extract i j).toList

def isWordChar (c : Char) : Bool := c.isAlphanum || c = '_'

def Subject.wordAt (subject : Subject) (i : Nat) : Bool :=
  ((subject.text[i]?).map isWordChar).getD false

def Subject.wordBefore (subject : Subject) (i : Nat) : Bool := i > 0 && subject.wordAt (i - 1)

def swapCase (c : Char) : Char := if c.isUpper then c.toLower else c.toUpper

def takes? (fold : Bool) : Regex → Option (Char → Bool)
  | char c => some fun d => d == c || fold && d == swapCase c
  | any => some fun _ => true
  | set negated members => some fun d =>
    (members.any (·.holds d) || fold && members.any (·.holds (swapCase d))) != negated
  | _ => none

def placed? (subject : Subject) : Regex → Option (Nat → Bool)
  | empty => some fun _ => true
  | start => some (· == 0)
  | stop => some (· == subject.text.size)
  | edge => some fun i => subject.wordAt i != subject.wordBefore i
  | inner => some fun i => subject.wordAt i == subject.wordBefore i
  | wordStart => some fun i => subject.wordAt i && !subject.wordBefore i
  | wordStop => some fun i => !subject.wordAt i && subject.wordBefore i
  | _ => none

def union : Nat → List Nat → List Nat → List Nat
  | 0, as, bs => as ++ bs
  | _, [], bs => bs
  | _, as, [] => as
  | bound + 1, a :: as, b :: bs =>
    if a < b then a :: union bound as (b :: bs)
    else if b < a then b :: union bound (a :: as) bs
    else a :: union bound as bs

def merge (as bs : List Nat) : List Nat := union (as.length + bs.length) as bs

/-- Goes on from new places until there are none, and gives all that were reached. -/
def closure (next : List Nat → List Nat) : Nat → List Nat → List Nat → List Nat
  | 0, _, reached => reached
  | bound + 1, fresh, reached =>
    if fresh.isEmpty then reached
    else
      let found := (next fresh).filter fun i => !reached.contains i
      closure next bound found (merge reached found)

/-- The places reached from some places by characters of one kind, from which they may go on
as long as the characters are of that kind. -/
def run (subject : Subject) (takes : Char → Bool) (places : List Nat) : List Nat :=
  let size := subject.text.size
  let rec go : Nat → Nat → Bool → List Nat → List Nat → List Nat
    | 0, _, _, _, reached => reached.reverse
    | bound + 1, i, on, places, reached =>
      let (here, places) := match places with
        | p :: rest => if p = i then (true, rest) else (false, places)
        | [] => (false, [])
      let on := on || here
      if !on && places.isEmpty then reached.reverse
      else
        let reached := if on then i :: reached else reached
        let on := on && ((subject.text[i]?).map takes).getD false
        go bound (i + 1) on places reached
  match places with
  | [] => []
  | first :: _ => go (size + 1 - first) first false places []

def times {α : Type} (step : α → α) : Nat → α → α
  | 0, a => a
  | n + 1, a => times step n (step a)

def upTo (step : List Nat → List Nat) : Nat → List Nat → List Nat → List Nat
  | 0, _, reached => reached
  | n + 1, places, reached =>
    if places.isEmpty then reached
    else
      let found := (step places).filter fun i => !reached.contains i
      upTo step n found (merge reached found)

def ends (subject : Subject) : Regex → List Nat → List Nat
  | seq a b, places => ends subject b (ends subject a places)
  | alt a b, places => merge (ends subject a places) (ends subject b places)
  | group _ a, places => ends subject a places
  | repeated a least most?, places =>
    let first := times (ends subject a) least places
    match most? with
    | some most => upTo (ends subject a) (most - least) first first
    | none => match takes? subject.fold a with
      | some takes => run subject takes first
      | none => closure (ends subject a) (subject.text.size + 1) first first
  | again _, _ => []
  | regex, places =>
    match takes? subject.fold regex with
    | some takes => places.filterMap fun i =>
      match subject.text[i]? with
      | some c => if takes c then some (i + 1) else none
      | none => none
    | none => match placed? subject regex with
      | some holds => places.filter holds
      | none => []

def hasAgain : Regex → Bool
  | seq a b | alt a b => hasAgain a || hasAgain b
  | repeated a _ _ | group _ a => hasAgain a
  | again _ => true
  | _ => false

def put (groups : Groups) (n i j : Nat) : Groups :=
  (n, i, j) :: groups.filter fun entry => entry.1 != n

/-- Where the groups of a match from one place to another lie. What comes first takes as much
as it can. -/
def assign (subject : Subject) : Regex → Nat → Nat → Groups → Groups
  | seq a b, i, j, groups =>
    let middle? := (ends subject a [i]).reverse.find? fun k => (ends subject b [k]).contains j
    match middle? with
    | some k => assign subject b k j (assign subject a i k groups)
    | none => groups
  | alt a b, i, j, groups =>
    if (ends subject a [i]).contains j then assign subject a i j groups
    else assign subject b i j groups
  | group n a, i, j, groups => put (assign subject a i j groups) n i j
  | repeated a least most?, i, j, groups =>
    let rest := fun (least : Nat) (most? : Option Nat) => repeated a least most?
    let rec go : Nat → Nat → Option Nat → Nat → Groups → Groups
      | 0, _, _, _, groups => groups
      | bound + 1, least, most?, i, groups =>
        if i = j && least = 0 || most? == some 0 then groups
        else
          let after := rest (least - 1) (most?.map (· - 1))
          let next? := (ends subject a [i]).reverse.find? fun k =>
            (k > i || least > 0) && (ends subject after [k]).contains j
          match next? with
          | some k => go bound (least - 1) (most?.map (· - 1)) k (assign subject a i k groups)
          | none => groups
    go (j - i + least + 1) least most? i groups
  | _, _, _, groups => groups

def ways (subject : Subject) : Regex → Nat → Groups → List (Nat × Groups)
  | seq a b, i, groups => (ways subject a i groups).flatMap fun (k, groups) => ways subject b k groups
  | alt a b, i, groups => ways subject a i groups ++ ways subject b i groups
  | group n a, i, groups =>
    (ways subject a i groups).map fun (k, groups) => (k, put groups n i k)
  | repeated a least most?, i, groups =>
    let rec go : Nat → Nat → Option Nat → Nat → Groups → List (Nat × Groups)
      | 0, least, _, i, groups => if least = 0 then [(i, groups)] else []
      | bound + 1, least, most?, i, groups =>
        let stop := if least = 0 then [(i, groups)] else []
        if most? == some 0 then stop
        else
          ((ways subject a i groups).filter fun way => way.1 > i || least > 0).flatMap
            (fun (k, groups) => go bound (least - 1) (most?.map (· - 1)) k groups) ++ stop
    go (subject.text.size + least + 1 - i) least most? i groups
  | again n, i, groups =>
    match groups.lookup n with
    | none => []
    | some (from_, to_) =>
      let length := to_ - from_
      let same := (List.range length).all fun k =>
        match subject.text[from_ + k]?, subject.text[i + k]? with
        | some c, some d => c == d || subject.fold && c == swapCase d
        | _, _ => false
      if same then [(i + length, groups)] else []
  | regex, i, groups => (ends subject regex [i]).map fun k => (k, groups)

structure Match where
  first : Nat
  last : Nat
  groups : Groups := []

def matchAt? (regex : Regex) (subject : Subject) (i : Nat) : Option Match :=
  if regex.hasAgain then
    (ways subject regex i []).foldl (fun best? (j, groups) =>
      match best? with
      | some best => if j > best.last then some ⟨i, j, groups⟩ else best?
      | none => some ⟨i, j, groups⟩) (none : Option Match)
  else match (ends subject regex [i]).getLast? with
    | some j => some ⟨i, j, []⟩
    | none => none

def find? (regex : Regex) (subject : Subject) (i : Nat) : Option Match :=
  let rec go : Nat → Nat → Option Match
    | 0, _ => none
    | bound + 1, i => match regex.matchAt? subject i with
      | some found => some found
      | none => go bound (i + 1)
  (go (subject.text.size + 1 - i) i).map fun found =>
    if regex.hasAgain then found
    else { found with groups := assign subject regex found.first found.last [] }

def occurs (regex : Regex) (subject : Subject) : Bool :=
  if regex.hasAgain then (regex.find? subject 0).isSome
  else !(ends subject regex (List.range (subject.text.size + 1))).isEmpty

def Match.group (found : Match) (subject : Subject) (n : Nat) : String :=
  if n = 0 then subject.slice found.first found.last
  else match found.groups.lookup n with
    | some (i, j) => subject.slice i j
    | none => ""

def ofLiteral (text : String) : Regex :=
  text.toList.foldr (fun c rest => seq (char c) rest) empty

end Regex

end ImpToC
