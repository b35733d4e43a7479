import ImpToC.System.Path

/-! Permissions: three bits for the owner, three for the group and three for all others, and
above them three that change how a file is run or a folder is used. -/
namespace ImpToC.Mode

def octal (width n : Nat) : String :=
  let digits := Nat.toDigits 8 n
  String.ofList (List.replicate (width - digits.length) '0' ++ digits)

def octal? (text : String) : Option Nat :=
  let digits := text.toList
  if digits.isEmpty || !digits.all fun c => '0' ≤ c && c ≤ '7' then none
  else some (digits.foldl (fun n c => 8 * n + (c.toNat - '0'.toNat)) 0)

def letters (bits : Nat) : List Char :=
  [if bits / 4 % 2 = 1 then 'r' else '-', if bits / 2 % 2 = 1 then 'w' else '-',
   if bits % 2 = 1 then 'x' else '-']

def special (mode bit : Nat) (mark : Char) (three : List Char) : List Char :=
  if mode / bit % 2 = 0 then three
  else three.dropLast ++ [if three.getLast? == some 'x' then mark else mark.toUpper]

def render (mode : Nat) : String :=
  String.ofList (special mode 2048 's' (letters (mode / 64 % 8)) ++
    special mode 1024 's' (letters (mode / 8 % 8)) ++ special mode 512 't' (letters (mode % 8)))

/-- A change of permissions by letters, such as `u+x,go=r`. The mask limits what is changed
for nobody in particular, and a folder or what is executable already takes `X`. -/
def changed? (mask : Nat) (isFolder : Bool) (mode : Nat) (text : String) : Option Nat :=
  let clause := fun (mode? : Option Nat) (clause : List Char) => mode?.bind fun mode =>
    let isWho := fun (c : Char) => c == 'u' || c == 'g' || c == 'o' || c == 'a'
    let isSign := fun (c : Char) => c == '+' || c == '-' || c == '='
    let who := clause.takeWhile isWho
    let actions := clause.drop who.length
    let all := who.isEmpty || who.contains 'a'
    let shifts := (if all || who.contains 'u' then [64] else []) ++
      (if all || who.contains 'g' then [8] else []) ++ (if all || who.contains 'o' then [1] else [])
    let rec act : Nat → Nat → List Char → Option Nat
      | 0, _, _ => none
      | _ + 1, mode, [] => some mode
      | bound + 1, mode, sign :: rest =>
        if !isSign sign then none
        else
          let letters := rest.takeWhile fun c => !isSign c
          let after := rest.drop letters.length
          let copied := fun (c : Char) => match c with
            | 'u' => mode / 64 % 8
            | 'g' => mode / 8 % 8
            | 'o' => mode % 8
            | _ => 0
          let anyX := isFolder || mode / 64 % 2 == 1 || mode / 8 % 2 == 1 || mode % 2 == 1
          let bits := letters.foldl (fun bits c => bits ||| (match c with
            | 'r' => 4
            | 'w' => 2
            | 'x' => 1
            | 'X' => if anyX then 1 else 0
            | c => copied c)) 0
          if !letters.all fun c => "rwxXstugo".toList.contains c then none
          else
            let sets := (if letters.contains 's' && shifts.contains 64 then 2048 else 0) +
              (if letters.contains 's' && shifts.contains 8 then 1024 else 0) +
              (if letters.contains 't' && shifts.contains 1 then 512 else 0)
            let wanted := shifts.foldl (fun value shift => value ||| (bits * shift)) sets
            let wanted := if who.isEmpty then wanted - (wanted &&& mask) else wanted
            let scope := shifts.foldl (fun value shift => value ||| (7 * shift)) 0
            let mode := match sign with
              | '+' => mode ||| wanted
              | '-' => mode - (mode &&& wanted)
              | _ => (mode - (mode &&& scope)) ||| wanted
            act bound mode after
    if actions.isEmpty then none else act (actions.length + 1) mode actions
  (Path.splitAt ',' text.toList).foldl clause (some mode)

def of? (mask : Nat) (isFolder : Bool) (mode : Nat) (text : String) : Option Nat :=
  match octal? text with
  | some n => if n ≤ 0o7777 then some n else none
  | none => changed? mask isFolder mode text

end ImpToC.Mode
