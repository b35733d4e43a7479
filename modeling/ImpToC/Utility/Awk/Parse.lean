import ImpToC.Utility.Awk.Syntax

/-! Reading programs of patterns and actions. -/
namespace ImpToC.Utility.Awk.Parse

abbrev Rule := EStateM (Nat × String) (List (Token × Nat))

def peek? : Rule (Option Token) := return (← get).head?.map Prod.fst

def line : Rule Nat := return (← get).head?.map Prod.snd |>.getD 0

def skip : Rule Unit := modify List.tail

def shown : Token → String
  | .number x => Floating.render 'g' 6 x
  | .text s => "\"" ++ s ++ "\""
  | .regex s => "/" ++ s ++ "/"
  | .name s | .function s | .word s | .symbol s => s
  | .newline => "end of line"

def fail {α : Type} : Rule α := do
  match ← get with
  | [] => throw (0, "syntax error at or near end of file")
  | (token, line) :: _ => throw (line, "syntax error at or near " ++ shown token)

def isSymbol (s : String) : Rule Bool := return match ← peek? with
  | some (.symbol t) => s == t
  | _ => false

def isWord (s : String) : Rule Bool := return match ← peek? with
  | some (.word t) => s == t
  | _ => false

def accept (s : String) : Rule Bool := do
  if ← isSymbol s then
    skip
    return true
  else return false

def acceptWord (s : String) : Rule Bool := do
  if ← isWord s then
    skip
    return true
  else return false

def expect (s : String) : Rule Unit := do
  if !(← accept s) then fail

def skipLines (all : Bool) : Nat → Rule Unit
  | 0 => return
  | bound + 1 => do
    match ← peek? with
    | some .newline =>
      skip
      skipLines all bound
    | some (.symbol ";") =>
      if all then
        skip
        skipLines all bound
      else return
    | _ => return

def newlines : Rule Unit := do skipLines false ((← get).length + 1)

def separators : Rule Unit := do skipLines true ((← get).length + 1)

def regexOf (text : String) : Rule Regex := do
  match Regex.read dialect text with
  | .ok regex => return regex
  | .error message => throw (← line, "regular expression compile failed (" ++ message ++ ")\n" ++ text)

/-- What an expression may not contain at its top: `>` in the words of `print`, and `in` at the
start of a loop. -/
structure Context where
  noGreater : Bool := false
  noIn : Bool := false

def isTarget : Expr → Bool
  | .name _ | .field _ | .element .. => true
  | _ => false

/-- Whether a token can begin an operand that is joined to the one before. -/
def beginsOperand : Token → Bool
  | .number _ | .text _ | .regex _ | .name _ | .function _ => true
  | .word s => builtins.contains s
  | .symbol s => s = "$" || s = "(" || s = "!" || s = "-" || s = "+" || s = "++" || s = "--"
  | _ => false

def assignOps : List (String × Option BinaryOp) :=
  [("=", none), ("+=", some .add), ("-=", some .sub), ("*=", some .mul), ("/=", some .div),
   ("%=", some .mod), ("^=", some .pow)]

def comparisons : List (String × BinaryOp) :=
  [("<", .lt), ("<=", .le), ("==", .eq), ("!=", .ne), (">", .gt), (">=", .ge)]

inductive Level where
  | whole | either | both | member | matching | comparison | concat | additive | product
  | unary | power | step | primary

mutual

def exprs (context : Context) : Nat → Rule (List Expr)
  | 0 => fail
  | bound + 1 => do
    let first ← expr context bound .whole
    if ← accept "," then
      newlines
      return first :: (← exprs context bound)
    else return [first]

def args : Nat → Rule (List Expr)
  | 0 => fail
  | bound + 1 => do
    expect "("
    newlines
    if ← accept ")" then return []
    let values ← exprs {} bound
    newlines
    expect ")"
    return values

/-- Goes on after an expression with operators of a level. -/
def more (context : Context) : Nat → Level → Expr → Rule Expr
  | 0, _, _ => fail
  | bound + 1, level, left => do
    match level with
    | .either =>
      if ← accept "||" then
        newlines
        more context bound level (.binary .either left (← expr context bound .both))
      else return left
    | .both =>
      if ← accept "&&" then
        newlines
        more context bound level (.binary .both left (← expr context bound .member))
      else return left
    | .member =>
      if !context.noIn && (← isWord "in") then
        skip
        match ← peek? with
        | some (.name array) =>
          skip
          more context bound level (.member [left] array)
        | _ => fail
      else return left
    | .matching =>
      if ← accept "~" then more context bound level (.found false left (← expr context bound .comparison))
      else if ← accept "!~" then
        more context bound level (.found true left (← expr context bound .comparison))
      else return left
    | .comparison =>
      match ← peek? with
      | some (.symbol s) =>
        if s = "|" then
          match (← get)[1]? with
          | some (.word "getline", _) =>
            skip
            skip
            let target? ← optionalTarget bound
            more context bound level (.getLine target? none (some left))
          | _ => return left
        else if s = ">" && context.noGreater then return left
        else match comparisons.lookup s with
          | some op =>
            skip
            more context bound level (.binary op left (← expr context bound .concat))
          | none => return left
      | _ => return left
    | .concat =>
      match ← peek? with
      | some token =>
        if beginsOperand token && !(match token with
            | .symbol s => s = "+" || s = "-" || s = "!"
            | _ => false) then
          more context bound level (.binary .concat left (← expr context bound .additive))
        else return left
      | none => return left
    | .additive =>
      if ← accept "+" then more context bound level (.binary .add left (← expr context bound .product))
      else if ← accept "-" then
        more context bound level (.binary .sub left (← expr context bound .product))
      else return left
    | .product =>
      if ← accept "*" then more context bound level (.binary .mul left (← expr context bound .unary))
      else if ← accept "/" then
        more context bound level (.binary .div left (← expr context bound .unary))
      else if ← accept "%" then
        more context bound level (.binary .mod left (← expr context bound .unary))
      else return left
    | _ => return left

def optionalTarget : Nat → Rule (Option Expr)
  | 0 => fail
  | bound + 1 => do
    match ← peek? with
    | some (.symbol "$") | some (.name _) => return some (← expr {} bound .primary)
    | _ => return none

def expr (context : Context) : Nat → Level → Rule Expr
  | 0, _ => fail
  | bound + 1, level => do
    match level with
    | .whole =>
      let left ← expr context bound .either
      if ← accept "?" then
        newlines
        let a ← expr context bound .whole
        newlines
        expect ":"
        newlines
        return .choice left a (← expr context bound .whole)
      match ← peek? with
      | some (.symbol s) =>
        match assignOps.lookup s with
        | some op? =>
          match left with
          | .binary op a target =>
            -- An assignment takes the last operand as its target.
            if isTarget target then
              skip
              newlines
              return .binary op a (.assign op? target (← expr context bound .whole))
            else fail
          | .unary op target =>
            if isTarget target then
              skip
              newlines
              return .unary op (.assign op? target (← expr context bound .whole))
            else fail
          | target =>
            if isTarget target then
              skip
              newlines
              return .assign op? target (← expr context bound .whole)
            else fail
        | none => return left
      | _ => return left
    | .either => more context bound .either (← expr context bound .both)
    | .both => more context bound .both (← expr context bound .member)
    | .member => more context bound .member (← expr context bound .matching)
    | .matching => more context bound .matching (← expr context bound .comparison)
    | .comparison => more context bound .comparison (← expr context bound .concat)
    | .concat => more context bound .concat (← expr context bound .additive)
    | .additive => more context bound .additive (← expr context bound .product)
    | .product => more context bound .product (← expr context bound .unary)
    | .unary =>
      if ← accept "!" then return .unary .negate (← expr context bound .unary)
      else if ← accept "-" then return .unary .minus (← expr context bound .unary)
      else if ← accept "+" then return .unary .plus (← expr context bound .unary)
      else expr context bound .power
    | .power =>
      let left ← expr context bound .step
      if ← accept "^" then
        -- The operator joins to the right and its right side may have a sign.
        let right ← if ← accept "-" then do pure (.unary .minus (← expr context bound .power))
          else expr context bound .power
        return .binary .pow left right
      else return left
    | .step =>
      if ← accept "++" then return .change 1 false (← expr context bound .primary)
      else if ← accept "--" then return .change (-1) false (← expr context bound .primary)
      else
        let target ← expr context bound .primary
        if isTarget target then
          if ← accept "++" then return .change 1 true target
          else if ← accept "--" then return .change (-1) true target
          else return target
        else return target
    | .primary =>
      match ← peek? with
      | none => fail
      | some token =>
        match token with
        | .number x =>
          skip
          return .number x
        | .text s =>
          skip
          return .text s
        | .regex s =>
          let regex ← regexOf s
          skip
          return .regex regex
        | .name s =>
          skip
          if ← accept "[" then
            let index ← exprs {} bound
            expect "]"
            return .element s index
          else return .name s
        | .function s =>
          skip
          return .call s (← args bound)
        | .symbol "$" =>
          skip
          if ← accept "++" then return .field (.change 1 false (← expr context bound .primary))
          else if ← accept "--" then return .field (.change (-1) false (← expr context bound .primary))
          else if ← accept "-" then return .field (.unary .minus (← expr context bound .primary))
          else return .field (← expr context bound .primary)
        | .symbol "(" =>
          skip
          newlines
          let values ← exprs {} bound
          newlines
          expect ")"
          match values with
          | [value] => return .group value
          | index =>
            if ← acceptWord "in" then
              match ← peek? with
              | some (.name array) =>
                skip
                return .member index array
              | _ => fail
            else return .call "" index
        | .symbol "-" =>
          skip
          return .unary .minus (← expr context bound .unary)
        | .symbol "+" =>
          skip
          return .unary .plus (← expr context bound .unary)
        | .symbol "!" =>
          skip
          return .unary .negate (← expr context bound .unary)
        | .word "getline" =>
          skip
          let target? ← optionalTarget bound
          if ← accept "<" then
            return .getLine target? (some (← expr context bound .primary)) none
          else return .getLine target? none none
        | .word s =>
          if builtins.contains s then
            skip
            if s = "length" && !(← isSymbol "(") then return .builtin s []
            else return .builtin s (← args bound)
          else fail
        | _ => fail

end

def target (bound : Nat) : Rule Target := do
  if ← accept ">" then return .file (← expr {} bound .whole)
  else if ← accept ">>" then return .append (← expr {} bound .whole)
  else if ← accept "|" then return .command (← expr {} bound .whole)
  else return .standard

/-- Whether a simple statement ends here. -/
def ends : Rule Bool := return match ← peek? with
  | none | some .newline | some (.symbol ";") | some (.symbol "\x7d") => true
  | _ => false

def printed (bound : Nat) : Rule (List Expr) := do
  match ← peek? with
  | some (.symbol ">") | some (.symbol ">>") | some (.symbol "|") => return []
  | _ =>
    if ← ends then return []
    let values ← exprs { noGreater := true } bound
    return match values with
      | [.call "" several] => several
      | values => values

def simple (bound : Nat) : Rule Stmt := do
  if ← acceptWord "print" then
    let values ← printed bound
    return .print values (← target bound)
  else if ← acceptWord "printf" then
    let values ← printed bound
    if values.isEmpty then fail
    return .printf values (← target bound)
  else if ← acceptWord "delete" then
    match ← peek? with
    | some (.name array) =>
      skip
      if ← accept "[" then
        let index ← exprs {} bound
        expect "]"
        return .delete array index
      else return .delete array []
    | _ => fail
  else return .expr (← expr {} bound .whole)

def finish : Rule Unit := do
  match ← peek? with
  | none | some (.symbol "\x7d") => return
  | some .newline | some (.symbol ";") => skip
  | _ => fail

mutual

def stmt : Nat → Rule Stmt
  | 0 => fail
  | bound + 1 => do
    match ← peek? with
    | some (.symbol "\x7b") =>
      skip
      let body ← stmts bound
      expect "\x7d"
      if ← isSymbol ";" then skip
      return .block body
    | some (.symbol ";") =>
      skip
      return .nothing
    | some (.word "if") =>
      skip
      expect "("
      let c ← expr {} bound .whole
      expect ")"
      newlines
      let a ← stmt bound
      let before ← get
      separators
      if ← acceptWord "else" then
        newlines
        return .ifThen c a (← stmt bound)
      else
        set before
        return .ifThen c a .nothing
    | some (.word "while") =>
      skip
      expect "("
      let c ← expr {} bound .whole
      expect ")"
      if ← isSymbol ";" then
        skip
        return .loop c .nothing
      newlines
      return .loop c (← stmt bound)
    | some (.word "do") =>
      skip
      newlines
      let body ← stmt bound
      separators
      if !(← acceptWord "while") then fail
      expect "("
      let c ← expr {} bound .whole
      expect ")"
      finish
      return .loopAfter body c
    | some (.word "for") =>
      skip
      expect "("
      match (← get).take 4 |>.map Prod.fst with
      | [.name name, .word "in", .name array, .symbol ")"] =>
        modify (List.drop 4)
        newlines
        return .each name array (← stmt bound)
      | _ =>
        let start ← if ← isSymbol ";" then pure .nothing else simple bound
        expect ";"
        newlines
        let c? ← if ← isSymbol ";" then pure none else do pure (some (← expr {} bound .whole))
        expect ";"
        newlines
        let step ← if ← isSymbol ")" then pure .nothing else simple bound
        expect ")"
        if ← isSymbol ";" then
          skip
          return .count start c? step .nothing
        newlines
        return .count start c? step (← stmt bound)
    | some (.word "next") =>
      skip
      finish
      return .next
    | some (.word "nextfile") =>
      skip
      finish
      return .nextFile
    | some (.word "break") =>
      skip
      finish
      return .leave
    | some (.word "continue") =>
      skip
      finish
      return .again
    | some (.word "exit") =>
      skip
      let e? ← if ← ends then pure none else do pure (some (← expr {} bound .whole))
      finish
      return .exit e?
    | some (.word "return") =>
      skip
      let e? ← if ← ends then pure none else do pure (some (← expr {} bound .whole))
      finish
      return .back e?
    | _ =>
      let s ← simple bound
      finish
      return s

def stmts : Nat → Rule (List Stmt)
  | 0 => fail
  | bound + 1 => do
    separators
    match ← peek? with
    | none | some (.symbol "\x7d") => return []
    | _ =>
      let first ← stmt bound
      return first :: (← stmts bound)

end

def action? (bound : Nat) : Rule (Option Stmt) := do
  if ← accept "\x7b" then
    let body ← stmts bound
    if !(← accept "\x7d") then
      match ← peek? with
      | none => throw (0, "missing \x7d near end of file")
      | some _ => fail
    return some (.block body)
  else return none

def names : Nat → Rule (List String)
  | 0 => fail
  | bound + 1 => do
    match ← peek? with
    | some (.name s) =>
      skip
      if ← accept "," then
        newlines
        return s :: (← names bound)
      else return [s]
    | _ => return []

def items (bound : Nat) : Nat → Program → Rule Program
  | 0, program => return program
  | count + 1, program => do
    separators
    match ← peek? with
    | none => return program
    | some (.word "BEGIN") =>
      skip
      let action? ← action? bound
      if action?.isNone then fail
      items bound count { program with rules := program.rules ++ [⟨.start, action?⟩] }
    | some (.word "END") =>
      skip
      let action? ← action? bound
      if action?.isNone then fail
      items bound count { program with rules := program.rules ++ [⟨.stop, action?⟩] }
    | some (.word "function") | some (.word "func") =>
      skip
      match ← peek? with
      | some (.name name) | some (.function name) =>
        skip
        expect "("
        let params ← names ((← get).length + 1)
        expect ")"
        newlines
        match ← action? bound with
        | some body =>
          items bound count { program with
            functions := program.functions ++ [⟨name, params, body⟩] }
        | none => fail
      | _ => fail
    | some (.symbol "\x7b") =>
      items bound count { program with rules := program.rules ++ [⟨.always, ← action? bound⟩] }
    | some _ =>
      let a ← expr {} bound .whole
      let pattern ← if ← accept "," then do
          newlines
          pure (.range a (← expr {} bound .whole))
        else pure (.holds a)
      let action? ← action? bound
      items bound count { program with rules := program.rules ++ [⟨pattern, action?⟩] }

def program (text : String) : Except (Nat × String) Program := do
  let tokens ← tokens (text.length + 1) 1 [] text.toList
  let bound := 20 * tokens.length + 40
  match (items bound (tokens.length + 1) {}).run tokens with
  | .ok program _ => return program
  | .error fault _ => throw fault

end ImpToC.Utility.Awk.Parse
