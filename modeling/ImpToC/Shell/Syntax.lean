/-! The syntax of the command language. Words keep the quoting of their pieces, because it
decides how they are expanded. -/
namespace ImpToC.Shell

/-- What is asked of a parameter that is missing. With a colon an empty value counts as
missing too. -/
inductive Fallback where
  | useDefault | assign | fail | alternate
  deriving DecidableEq, Repr

inductive Direction where
  | input | output | clobber | append | both
  deriving DecidableEq, Repr

mutual

inductive Part where
  | text (text : String) (quoted : Bool)
  | param (name : String) (change : Change) (quoted : Bool)
  | output (command : Command) (quoted : Bool)
  | formula (parts : List Part) (quoted : Bool)

inductive Change where
  | none
  | length
  | fallback (kind : Fallback) (colon : Bool) (word : List Part)
  | trim (atEnd longest : Bool) (pattern : List Part)
  | bad

inductive Redirect where
  | file (descriptor : Nat) (direction : Direction) (path : List Part)
  | same (descriptor : Nat) (word : List Part)
  | text (descriptor : Nat) (body : List Part)

inductive Command where
  | nothing
  | simple (line : Nat) (assignments : List (String × List Part)) (words : List (List Part))
      (redirects : List Redirect)
  | pipeline (commands : List Command)
  | negated (command : Command)
  | both (first second : Command)
  | either (first second : Command)
  | sequence (first second : Command)
  | background (command : Command)
  | group (line : Nat) (command : Command) (redirects : List Redirect)
  | subshell (line : Nat) (command : Command) (redirects : List Redirect)
  | choice (condition yes no : Command)
  | loop (whileTrue : Bool) (condition body : Command)
  | each (line : Nat) (name : String) (words? : Option (List (List Part))) (body : Command)
  | select (line : Nat) (word : List Part) (cases : List (List (List Part) × Command))
  | define (line : Nat) (name : String) (body : Command)

end

abbrev Word := List Part

instance : Inhabited Command := ⟨.nothing⟩

end ImpToC.Shell
