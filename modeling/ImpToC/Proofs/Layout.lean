import ImpToC.Proofs.C.Lexemes

/-! How a file is laid out as text. Reading the text from the front, one keeps count of the
braces that are open; a line is indented by four spaces for each of them, where a brace that
closes at the head of a line counts as closed already. A statement leaves the count as it
found it, so every brace is closed and the indentation comes back to where it was. -/
namespace ImpToC.C

/-- A place in a text: how many braces are open and, until the first mark of a line is met,
how many spaces the line begins with. -/
structure Place where
  depth : Nat
  blank? : Option Nat
  deriving DecidableEq, Repr

namespace Place

def head (depth : Nat) : Place := ⟨depth, some 0⟩

def depth? (floor depth : Nat) (mark : Char) : Option Nat :=
  if mark = '\x7b' then some (depth + 1)
  else if mark = '\x7d' then if floor < depth then some (depth - 1) else none
  else some depth

/-- How many braces the indentation of a line that begins with the mark stands for. -/
def level (depth : Nat) (mark : Char) : Nat := if mark = '\x7d' then depth - 1 else depth

/-- The place behind one more character, if the character may stand there. -/
def step? (floor : Nat) (place : Place) (char : Char) : Option Place :=
  if char = '\n' then some (head place.depth)
  else
    match place.blank? with
    | none => (depth? floor place.depth char).map fun depth => ⟨depth, none⟩
    | some blank =>
      if char = ' ' then some ⟨place.depth, some (blank + 1)⟩
      else if blank = 4 * level place.depth char then
        (depth? floor place.depth char).map fun depth => ⟨depth, none⟩
      else none

def scan (floor : Nat) (place : Place) : List Char → Option Place
  | [] => some place
  | char :: text => (place.step? floor char).bind fun next => scan floor next text

variable {floor depth : Nat}

theorem scan_append (place : Place) (first second : List Char) :
    scan floor place (first ++ second) =
      (scan floor place first).bind fun next => scan floor next second := by
  induction first generalizing place with
  | nil => rfl
  | cons char first ih =>
    simp only [List.cons_append, scan, ih, Option.bind_assoc]

theorem scan_append_of {place middle : Place} {first second : List Char}
    (reached : scan floor place first = some middle) :
    scan floor place (first ++ second) = scan floor middle second := by
  rw [scan_append, reached, Option.bind_some]

theorem scan_spaces (blank count : Nat) :
    scan floor ⟨depth, some blank⟩ (List.replicate count ' ') =
      some ⟨depth, some (blank + count)⟩ := by
  induction count generalizing blank with
  | zero => rfl
  | succ count ih =>
    have step : step? floor ⟨depth, some blank⟩ ' ' = some ⟨depth, some (blank + 1)⟩ := rfl
    rw [List.replicate_succ, scan, step, Option.bind_some, ih]
    congr 3
    omega

end Place

def Plain (text : String) : Prop :=
  ∀ char ∈ text.toList, char ≠ '\n' ∧ char ≠ '\x7b' ∧ char ≠ '\x7d'

def Solid (text : String) : Prop := Plain text ∧ text.toList.head?.any (· != ' ')

instance (text : String) : Decidable (Plain text) :=
  List.decidableBAll (fun char => char ≠ '\n' ∧ char ≠ '\x7b' ∧ char ≠ '\x7d') text.toList

instance (text : String) : Decidable (Solid text) :=
  inferInstanceAs (Decidable (Plain text ∧ text.toList.head?.any (· != ' ')))

theorem Solid.eq_cons {text : String} (solid : Solid text) :
    ∃ char rest, text.toList = char :: rest ∧ char ≠ ' ' := by
  have notBlank := solid.2
  cases chars : text.toList with
  | nil =>
    rw [chars] at notBlank
    cases notBlank
  | cons char rest =>
    rw [chars] at notBlank
    exact ⟨char, rest, rfl, by simpa using notBlank⟩

theorem plain_append {first second : String} (plain : Plain first) (others : Plain second) :
    Plain (first ++ second) := by
  intro char mem
  rw [String.toList_append] at mem
  rcases List.mem_append.1 mem with mem | mem
  · exact plain char mem
  · exact others char mem

theorem plain_intercalate {mark : String} {texts : List String} (plain : Plain mark)
    (all : ∀ text ∈ texts, Plain text) : Plain (mark.intercalate texts) := by
  induction texts with
  | nil =>
    rw [String.intercalate_nil]
    decide
  | cons text texts ih =>
    obtain ⟨first, others⟩ := List.forall_mem_cons.1 all
    cases texts with
    | nil => rwa [String.intercalate_singleton]
    | cons next texts =>
      rw [String.intercalate_cons_cons]
      exact plain_append (plain_append first plain) (ih others)

theorem Solid.append {first second : String} (solid : Solid first) (plain : Plain second) :
    Solid (first ++ second) := by
  obtain ⟨char, rest, same, notBlank⟩ := solid.eq_cons
  refine ⟨plain_append solid.1 plain, ?_⟩
  rw [String.toList_append, same, List.cons_append]
  simpa using notBlank

namespace Place

variable {floor depth : Nat} {text : String}

theorem depth?_of_plain {mark : Char} (notOpening : mark ≠ '\x7b') (notClosing : mark ≠ '\x7d') :
    depth? floor depth mark = some depth := by
  rw [depth?, if_neg notOpening, if_neg notClosing]

/-- Behind the first mark of a line, plain text changes nothing. -/
theorem scan_plain {chars : List Char}
    (plain : ∀ char ∈ chars, char ≠ '\n' ∧ char ≠ '\x7b' ∧ char ≠ '\x7d') :
    scan floor ⟨depth, none⟩ chars = some ⟨depth, none⟩ := by
  induction chars with
  | nil => rfl
  | cons char chars ih =>
    obtain ⟨⟨notEnd, notOpening, notClosing⟩, others⟩ := List.forall_mem_cons.1 plain
    have step : step? floor ⟨depth, none⟩ char = some ⟨depth, none⟩ := by
      simp only [step?, if_neg notEnd, depth?_of_plain notOpening notClosing, Option.map_some]
    rw [scan, step, Option.bind_some, ih others]

theorem scan_solid (solid : Solid text) :
    scan floor ⟨depth, some (4 * depth)⟩ text.toList = some ⟨depth, none⟩ := by
  obtain ⟨char, rest, same, notBlank⟩ := solid.eq_cons
  have plain := solid.1
  rw [Plain, same] at plain
  obtain ⟨⟨notEnd, notOpening, notClosing⟩, others⟩ := List.forall_mem_cons.1 plain
  have step : step? floor ⟨depth, some (4 * depth)⟩ char = some ⟨depth, none⟩ := by
    simp only [step?, if_neg notEnd, if_neg notBlank, level, if_neg notClosing,
      depth?_of_plain notOpening notClosing, Option.map_some, if_true]
  rw [same, scan, step, Option.bind_some, scan_plain others]

theorem scan_line_of {after : Nat} {level : Nat}
    (inside : scan floor ⟨depth, some (4 * level)⟩ text.toList = some ⟨after, none⟩) :
    scan floor (head depth) (line level text).toList = some (head after) := by
  have indented : scan floor (head depth) (List.replicate (4 * level) ' ') =
      some ⟨depth, some (4 * level)⟩ := by rw [head, scan_spaces, Nat.zero_add]
  have ended : ("\n" : String).toList = ['\n'] := rfl
  rw [line, String.toList_append, String.toList_append, String.toList_ofList, List.append_assoc,
    scan_append_of indented, scan_append_of inside, ended]
  rfl

theorem scan_line (solid : Solid text) :
    scan floor (head depth) (line depth text).toList = some (head depth) :=
  scan_line_of (scan_solid solid)

theorem scan_opening {before : String} (solid : Solid before) (same : text = before ++ "\x7b") :
    scan floor (head depth) (line depth text).toList = some (head (depth + 1)) := by
  refine scan_line_of ?_
  have brace : ("\x7b" : String).toList = ['\x7b'] := rfl
  rw [same, String.toList_append, scan_append_of (scan_solid solid), brace]
  rfl

theorem step?_closing (above : floor ≤ depth) :
    step? floor ⟨depth + 1, some (4 * depth)⟩ '\x7d' = some ⟨depth, none⟩ := by
  simp [step?, level, depth?, Nat.lt_succ_of_le above]

theorem scan_closing (above : floor ≤ depth) :
    scan floor (head (depth + 1)) (line depth "\x7d").toList = some (head depth) := by
  refine scan_line_of ?_
  have brace : ("\x7d" : String).toList = ['\x7d'] := rfl
  rw [brace, scan, step?_closing above, Option.bind_some, scan]

theorem scan_else (above : floor ≤ depth) :
    scan floor (head (depth + 1)) (line depth "\x7d else \x7b").toList =
      some (head (depth + 1)) := by
  refine scan_line_of ?_
  have marks : ("\x7d else \x7b" : String).toList = '\x7d' :: (" else ".toList ++ ['\x7b']) := rfl
  have plain : Plain " else " := by decide
  rw [marks, scan, step?_closing above, Option.bind_some, scan_append_of (scan_plain plain)]
  rfl

end Place

open Lexeme

theorem plain_of_isWord {text : String} (word : isWord text) : Plain text := by
  have parts : ∀ char ∈ text.toList, isWordPart char := by
    cases chars : text.toList with
    | nil => exact List.forall_mem_nil _
    | cons char more =>
      rw [isWord, chars] at word
      simp only [Bool.and_eq_true, List.all_eq_true] at word
      exact List.forall_mem_cons.2 ⟨isWordPart_of_isWordStart word.1, word.2⟩
  intro char mem
  have part := parts char mem
  refine ⟨?_, ?_, ?_⟩ <;> rintro rfl <;> cases part

theorem plain_of_isDigit {text : String} (digits : ∀ char ∈ text.toList, char.isDigit) :
    Plain text := by
  intro char mem
  have digit := digits char mem
  refine ⟨?_, ?_, ?_⟩ <;> rintro rfl <;> cases digit

theorem plain_toString (value : Nat) : Plain (toString value) :=
  plain_of_isDigit fun _ mem => Decimal.isDigit_of_mem_toString mem

theorem plain_quote {content : String} (legible : content.toList.all isLegibleChar) :
    Plain (Quoted.quote content) := by
  have inside : Plain (String.ofList (content.toList.flatMap Quoted.escape)) := by
    intro char mem
    rw [String.toList_ofList] at mem
    obtain ⟨source, listed, mem⟩ := List.mem_flatMap.1 mem
    have isOne := List.all_eq_true.1 legible source listed
    rw [isLegibleChar, Bool.or_eq_true, beq_iff_eq] at isOne
    rcases isOne with rfl | isOne
    · have escaped : Quoted.escape '\n' = ['\\', 'n'] := rfl
      rw [escaped, List.mem_cons, List.mem_singleton] at mem
      rcases mem with rfl | rfl <;> decide
    · simp only [Bool.and_eq_true, bne_iff_ne] at isOne
      rw [escape_of_isTextChar isOne.1.1, List.mem_singleton] at mem
      subst mem
      refine ⟨?_, isOne.1.2, isOne.2⟩
      rintro rfl
      exact absurd isOne.1.1 (by decide)
  exact plain_append (plain_append (by decide) inside) (by decide)

mutual

theorem Expr.plain_render {expr : Expr} (legible : expr.isLegible) : Plain expr.render := by
  match expr with
  | .literal digits =>
    rw [Expr.isLegible] at legible
    obtain ⟨value, -, rfl⟩ := Decimal.isCanonical_iff.1 legible
    exact plain_append (plain_toString value) (by decide)
  | .int value => exact plain_toString value
  | .text content =>
    rw [Expr.isLegible] at legible
    exact plain_quote legible
  | .ident name =>
    rw [Expr.isLegible] at legible
    exact plain_of_isWord (isWord_of_isIdentifier legible)
  | .call callee args =>
    rw [Expr.isLegible, Bool.and_eq_true] at legible
    have named := plain_of_isWord (isWord_of_isIdentifier legible.1)
    have supplied := Expr.plain_renderArgs legible.2
    exact plain_append (plain_append (plain_append named (by decide)) supplied) (by decide)
  | .binary op left right =>
    simp only [Expr.isLegible, Bool.and_eq_true] at legible
    have operator : Plain (symbol op) := by
      cases op with
      | arith op => cases op <;> decide
      | rel op => cases op <;> decide
    have first := plain_append (Expr.plain_render legible.1.1.1) (by decide : Plain " ")
    exact plain_append (plain_append (plain_append first operator) (by decide))
      (Expr.plain_render legible.1.1.2)
  | .both left right =>
    simp only [Expr.isLegible, Bool.and_eq_true] at legible
    exact plain_append (plain_append (Expr.plain_render legible.1.1.1) (by decide))
      (Expr.plain_render legible.1.1.2)
  | .neg (.int value) => exact plain_append (by decide) (plain_toString value)
  | .cast ty inner =>
    rw [Expr.isLegible, Bool.and_eq_true] at legible
    have named : Plain ("(" ++ ty.render ++ ")") := by cases ty <;> decide
    exact plain_append named (Expr.plain_render legible.1)
  | .paren inner =>
    rw [Expr.isLegible] at legible
    exact plain_append (plain_append (by decide) (Expr.plain_render legible)) (by decide)

theorem Expr.plain_renderArgs {args : List Expr} (legible : Expr.allLegible args) :
    Plain (Expr.renderArgs args) := by
  match args with
  | [] => decide
  | [arg] =>
    rw [Expr.allLegible, Bool.and_eq_true] at legible
    exact Expr.plain_render legible.1
  | arg :: next :: args =>
    rw [Expr.allLegible, Bool.and_eq_true] at legible
    exact plain_append (plain_append (Expr.plain_render legible.1) (by decide))
      (Expr.plain_renderArgs legible.2)

end

theorem Opens.solid {text : String} (opens : Opens text) (plain : Plain text) : Solid text := by
  obtain ⟨char, rest, chars, notBlank, -⟩ := opens
  refine ⟨plain, ?_⟩
  rw [chars]
  simpa using notBlank

theorem Ty.solid_render (ty : Ty) : Solid ty.render := by
  cases ty <;> exact by decide

theorem scan_if {floor level : Nat} {cond : String} (plain : Plain cond) :
    Place.scan floor (.head level) (line level ("if (" ++ cond ++ ") \x7b")).toList =
      some (.head (level + 1)) := by
  have solid : Solid ("if (" ++ cond ++ ") ") :=
    (Solid.append (by decide) plain).append (by decide)
  have marks : (") \x7b" : String) = ") " ++ "\x7b" := rfl
  exact Place.scan_opening solid (by rw [marks, ← String.append_assoc])

theorem scan_for {floor level : Nat} :
    Place.scan floor (.head level) (line level "for (;;) \x7b").toList =
      some (.head (level + 1)) := by
  have solid : Solid "for (;;) " := by decide
  exact Place.scan_opening solid rfl

mutual

theorem Stmt.scan_render {floor level : Nat} {stmt : Stmt} (legible : stmt.isLegible)
    (above : floor ≤ level) :
    Place.scan floor (.head level) (stmt.render level).toList = some (.head level) := by
  match stmt with
  | .declare ty name value =>
    rw [Stmt.isLegible, Bool.and_eq_true] at legible
    rw [Stmt.render]
    have word := plain_of_isWord (isWord_of_isIdentifier legible.1)
    have named : Solid (ty.render ++ " " ++ name) :=
      (ty.solid_render.append (by decide)).append word
    exact Place.scan_line
      (((named.append (by decide)).append (Expr.plain_render legible.2)).append (by decide))
  | .assign name value =>
    rw [Stmt.isLegible, Bool.and_eq_true] at legible
    rw [Stmt.render]
    have word := isWord_of_isIdentifier legible.1
    have named : Solid name := (opens_of_isWord word).solid (plain_of_isWord word)
    exact Place.scan_line
      (((named.append (by decide)).append (Expr.plain_render legible.2)).append (by decide))
  | .expr (.call callee args) =>
    rw [Stmt.isLegible] at legible
    rw [Stmt.render]
    have solid := (Expr.opens legible).solid (Expr.plain_render legible)
    exact Place.scan_line (solid.append (by decide))
  | .ret value =>
    rw [Stmt.isLegible] at legible
    rw [Stmt.render]
    exact Place.scan_line
      ((Solid.append (by decide) (Expr.plain_render legible)).append (by decide))
  | .ifThen cond body =>
    rw [Stmt.isLegible, Bool.and_eq_true] at legible
    rw [Stmt.render, String.toList_append, String.toList_append, List.append_assoc,
      Place.scan_append_of (scan_if (Expr.plain_render legible.1)),
      Place.scan_append_of (Stmt.scan_renderAll legible.2 (by omega)),
      Place.scan_closing above]
  | .ifElse cond body other =>
    simp only [Stmt.isLegible, Bool.and_eq_true] at legible
    simp only [Stmt.render, String.toList_append, List.append_assoc]
    rw [Place.scan_append_of (scan_if (Expr.plain_render legible.1.1)),
      Place.scan_append_of (Stmt.scan_renderAll legible.1.2 (by omega)),
      Place.scan_append_of (Place.scan_else above),
      Place.scan_append_of (Stmt.scan_renderAll legible.2 (by omega)), Place.scan_closing above]
  | .forever body =>
    rw [Stmt.isLegible] at legible
    rw [Stmt.render, String.toList_append, String.toList_append, List.append_assoc,
      Place.scan_append_of scan_for, Place.scan_append_of (Stmt.scan_renderAll legible (by omega)),
      Place.scan_closing above]
  | .breakUnless cond =>
    rw [Stmt.isLegible, Bool.and_eq_true] at legible
    rw [Stmt.render]
    exact Place.scan_line
      ((Solid.append (by decide) (Expr.plain_render legible.1)).append (by decide))

theorem Stmt.scan_renderAll {floor level : Nat} {stmts : List Stmt}
    (legible : Stmt.allLegible stmts) (above : floor ≤ level) :
    Place.scan floor (.head level) (Stmt.renderAll level stmts).toList = some (.head level) := by
  match stmts with
  | [] => rfl
  | stmt :: stmts =>
    rw [Stmt.allLegible, Bool.and_eq_true] at legible
    rw [Stmt.renderAll, String.toList_append,
      Place.scan_append_of (Stmt.scan_render legible.1 above), Stmt.scan_renderAll legible.2 above]

end

/-- A text that begins and ends on a line of its own, with no brace left open. -/
def Closed (text : String) : Prop := Place.scan 0 (.head 0) text.toList = some (.head 0)

theorem closed_append {first second : String} (closed : Closed first) (others : Closed second) :
    Closed (first ++ second) := by
  rw [Closed, String.toList_append, Place.scan_append_of closed]
  exact others

theorem closed_join {texts : List String} (closed : ∀ text ∈ texts, Closed text) :
    Closed (String.join texts) := by
  induction texts with
  | nil => rfl
  | cons text texts ih =>
    obtain ⟨first, others⟩ := List.forall_mem_cons.1 closed
    rw [String.join_cons]
    exact closed_append first (ih others)

theorem closed_intercalate {texts : List String} (closed : ∀ text ∈ texts, Closed text) :
    Closed ("\n".intercalate texts) := by
  induction texts with
  | nil => rfl
  | cons text texts ih =>
    obtain ⟨first, others⟩ := List.forall_mem_cons.1 closed
    cases texts with
    | nil => rwa [String.intercalate_singleton]
    | cons next texts =>
      rw [String.intercalate_cons_cons]
      exact closed_append (closed_append first rfl) (ih others)

theorem exists_intercalate {texts : List String} (closed : ∀ text ∈ texts, Closed text)
    {text : String} (mem : text ∈ texts) :
    ∃ before after, "\n".intercalate texts = before ++ text ++ after ∧ Closed before := by
  induction texts with
  | nil => cases mem
  | cons first texts ih =>
    obtain ⟨here, others⟩ := List.forall_mem_cons.1 closed
    rcases List.mem_cons.1 mem with rfl | mem
    · cases texts with
      | nil => exact ⟨"", "", by simp, rfl⟩
      | cons next texts =>
        refine ⟨"", "\n" ++ "\n".intercalate (next :: texts), ?_, rfl⟩
        rw [String.intercalate_cons_cons, String.empty_append, String.append_assoc]
    · obtain ⟨before, after, same, level⟩ := ih others mem
      cases texts with
      | nil => cases mem
      | cons next texts =>
        refine ⟨first ++ "\n" ++ before, after, ?_, closed_append (closed_append here rfl) level⟩
        rw [String.intercalate_cons_cons, same]
        simp only [String.append_assoc]

theorem closed_line {text : String} (solid : Solid text) : Closed (line 0 text) :=
  Place.scan_line solid

theorem line_zero (text : String) : line 0 text = text ++ "\n" := by
  rw [line, Nat.mul_zero, List.replicate_zero]
  exact congrArg (· ++ "\n") String.empty_append

theorem Function.opening_eq (function : Function) :
    function.signature ++ " \x7b\n" = line 0 (function.signature ++ " \x7b") := by
  rw [line_zero, String.append_assoc]
  rfl

theorem Function.solid_signature {function : Function} (legible : function.isLegible) :
    Solid function.signature := by
  simp only [isLegible, Bool.and_eq_true, List.all_eq_true] at legible
  have named : Plain function.name := plain_of_isWord (isWord_of_isIdentifier legible.1.1)
  have params : Plain (renderParams function.params) := by
    rw [renderParams]
    split
    · decide
    · refine plain_intercalate (by decide) fun text mem => ?_
      obtain ⟨param, listed, rfl⟩ := List.mem_map.1 mem
      have word := isWord_of_isIdentifier (legible.1.2 param listed)
      exact plain_append (by decide) (plain_of_isWord word)
  have typed : Solid ((if function.isStatic then "static " else "") ++
      function.returns.render) := by
    cases function.isStatic <;> cases function.returns <;> decide
  exact ((((typed.append (by decide)).append named).append (by decide)).append params).append
    (by decide)

theorem Function.allLegible_body {function : Function} (legible : function.isLegible) :
    Stmt.allLegible function.body :=
  (Bool.and_eq_true_iff.1 legible).2

theorem Function.scan_opening {function : Function} (legible : function.isLegible) :
    Place.scan 0 (.head 0) (function.signature ++ " \x7b\n").toList = some (.head 1) := by
  have solid : Solid (function.signature ++ " ") := (solid_signature legible).append (by decide)
  have marks : (" \x7b" : String) = " " ++ "\x7b" := rfl
  rw [Function.opening_eq]
  exact Place.scan_opening solid (by rw [marks, String.append_assoc])

theorem Function.closed {function : Function} (legible : function.isLegible) :
    Closed function.render := by
  have closing : line 0 "\x7d" = "\x7d\n" := rfl
  rw [Closed, Function.render, String.toList_append, String.toList_append, List.append_assoc,
    Place.scan_append_of (scan_opening legible),
    Place.scan_append_of (Stmt.scan_renderAll (allLegible_body legible) (Nat.zero_le _)),
    ← closing, Place.scan_closing (Nat.zero_le _)]

theorem renderHeaders_eq (headers : List String) : renderHeaders headers =
    String.join (headers.map fun header => line 0 ("#include <" ++ header ++ ">")) := by
  have marks : (">\n" : String) = ">" ++ "\n" := rfl
  simp only [renderHeaders, line_zero, marks, String.append_assoc]

theorem File.Legible.plain_header {file : File} (legible : file.Legible) :
    ∀ header ∈ file.headers, Plain header := by
  intro header mem char inside
  have isOne := List.all_eq_true.1 (legible.headers header mem) char inside
  refine ⟨?_, ?_, ?_⟩ <;> rintro rfl <;> cases isOne

theorem File.Legible.plain_global {file : File} (legible : file.Legible) :
    ∀ name ∈ file.globals, Plain name :=
  fun name mem => plain_of_isWord (isWord_of_isIdentifier (legible.globals name mem))

theorem File.Legible.closed_sections {file : File} (legible : file.Legible) :
    ∀ text ∈ file.sections, Closed text := by
  intro text mem
  simp only [File.sections, List.mem_append, List.mem_singleton, List.mem_map] at mem
  rcases mem with ((((rfl | ⟨function, mem, rfl⟩) | mem) | mem) | ⟨function, mem, rfl⟩) | rfl
  · rw [renderHeaders_eq]
    refine closed_join fun text mem => ?_
    obtain ⟨header, listed, rfl⟩ := List.mem_map.1 mem
    have plain := legible.plain_header header listed
    exact closed_line ((Solid.append (by decide) plain).append (by decide))
  · exact Function.closed (legible.prelude function mem).1
  · split at mem
    · cases mem
    · rw [List.mem_singleton.1 mem]
      refine closed_join fun text mem => ?_
      obtain ⟨name, listed, rfl⟩ := List.mem_map.1 mem
      have plain := legible.plain_global name listed
      exact closed_line ((Solid.append (by decide) plain).append (by decide))
  · split at mem
    · cases mem
    · rw [List.mem_singleton.1 mem]
      refine closed_join fun text mem => ?_
      obtain ⟨function, listed, rfl⟩ := List.mem_map.1 mem
      have solid := Function.solid_signature (legible.functions function listed).1
      exact closed_line (solid.append (by decide))
  · exact Function.closed (legible.functions function mem).1
  · exact Function.closed legible.main.1

theorem File.Legible.closed {file : File} (legible : file.Legible) : Closed file.render :=
  closed_intercalate legible.closed_sections

/-- The code of a function stands in the text of the file, where it begins and ends behind the
brace that its head opens. -/
theorem File.Legible.exists_code {file : File} (legible : file.Legible) {function : Function}
    (listed : function ∈ file.definitions) :
    ∃ before code after,
      file.render = before ++ (function.signature ++ " \x7b\n" ++ code ++ "\x7d\n") ++ after ∧
        Closed before ∧ Place.scan 1 (.head 1) code.toList = some (.head 1) := by
  have body := Function.allLegible_body (legible.definitions function listed).1
  have part : function.render ∈ file.sections := by
    rw [File.sections, List.append_assoc]
    refine List.mem_append_right _ ?_
    rcases List.mem_append.1 listed with mem | mem
    · exact List.mem_append_left _ (List.mem_map.2 ⟨function, mem, rfl⟩)
    · rw [List.mem_singleton.1 mem]
      exact List.mem_append_right _ (List.mem_singleton.2 rfl)
  obtain ⟨before, after, same, closed⟩ := exists_intercalate legible.closed_sections part
  exact ⟨before, Stmt.renderAll 1 function.body, after, same, closed,
    Stmt.scan_renderAll body (Nat.le_refl _)⟩

end ImpToC.C
