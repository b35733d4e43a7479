import ImpToC.Proofs.Layout

/-! The outline of a file: its lines that begin at the margin and do not just close a
function. What stands inside a function is indented, so a text that begins neither with a
space nor with a brace can be looked for in the outline alone. -/
namespace ImpToC.C

/-- The lines of a text, without the marks that end them. -/
def linesOf : List Char → List (List Char)
  | [] => []
  | char :: text =>
    if char = '\n' then [] :: linesOf text
    else (char :: (linesOf text).headD []) :: (linesOf text).tail

theorem linesOf_ne_nil (char : Char) (text : List Char) : linesOf (char :: text) ≠ [] := by
  rw [linesOf]
  split <;> exact List.cons_ne_nil _ _

theorem linesOf_line {chars : List Char} (single : '\n' ∉ chars) :
    linesOf (chars ++ ['\n']) = [chars] := by
  induction chars with
  | nil => rfl
  | cons char chars ih =>
    have notEnd : char ≠ '\n' := fun same => single (same ▸ List.mem_cons_self)
    have others : '\n' ∉ chars := fun mem => single (List.mem_cons_of_mem _ mem)
    rw [List.cons_append, linesOf, if_neg notEnd, ih others]
    rfl

namespace Place

variable {floor depth : Nat} {place next : Place} {char : Char} {chars : List Char}

theorem eq_of_step?_head (stepped : place.step? floor char = some (head depth)) : char = '\n' := by
  by_cases same : char = '\n'
  · exact same
  · obtain ⟨open?, blank?⟩ := place
    cases blank? with
    | none => simp [step?, same, head] at stepped
    | some blank =>
      rw [step?, if_neg same] at stepped
      by_cases space : char = ' '
      · simp [space, head] at stepped
      · simp only [if_neg space] at stepped
        split at stepped <;> simp [head] at stepped

theorem le_of_step? (above : floor ≤ place.depth) (stepped : place.step? floor char = some next) :
    floor ≤ next.depth := by
  have kept : ∀ after, depth? floor place.depth char = some after → floor ≤ after := by
    intro after counted
    rw [depth?] at counted
    split at counted
    · injection counted with same
      omega
    · split at counted
      · split at counted
        · injection counted with same
          omega
        · cases counted
      · injection counted with same
        omega
  rw [step?] at stepped
  split at stepped
  · injection stepped with same
    rw [← same]
    exact above
  · split at stepped
    · obtain ⟨after, counted, rfl⟩ := Option.map_eq_some_iff.1 stepped
      exact kept after counted
    · split at stepped
      · injection stepped with same
        rw [← same]
        exact above
      · split at stepped
        · obtain ⟨after, counted, rfl⟩ := Option.map_eq_some_iff.1 stepped
          exact kept after counted
        · cases stepped

theorem eq_space_of_step? (inside : 1 ≤ depth)
    (stepped : step? 1 ⟨depth, some 0⟩ char = some next) : char = '\n' ∨ char = ' ' := by
  by_cases ended : char = '\n'
  · exact .inl ended
  by_cases space : char = ' '
  · exact .inr space
  simp only [step?, if_neg ended, if_neg space] at stepped
  by_cases margin : 0 = 4 * level depth char
  · by_cases closing : char = '\x7d'
    · subst closing
      have one : depth = 1 := by
        simp only [level, if_true] at margin
        omega
      subst one
      cases stepped
    · rw [level, if_neg closing] at margin
      omega
  · rw [if_neg margin] at stepped
    cases stepped

/-- Lines are not run together where the first text ends at the head of a line. -/
theorem linesOf_append {second : List Char} (reached : scan floor place chars = some (head depth)) :
    linesOf (chars ++ second) = linesOf chars ++ linesOf second := by
  induction chars generalizing place with
  | nil => rfl
  | cons char chars ih =>
    obtain ⟨next, stepped, behind⟩ := Option.bind_eq_some_iff.1 reached
    cases chars with
    | nil =>
      injection behind with same
      subst same
      rw [eq_of_step?_head stepped]
      rfl
    | cons other chars =>
      rw [List.cons_append, linesOf, linesOf, ih behind]
      obtain ⟨first, rest, lines⟩ := List.exists_cons_of_ne_nil (linesOf_ne_nil other chars)
      rw [lines]
      split <;> rfl

def Indented (line : List Char) : Prop := line.head?.all (· == ' ')

theorem forall_mem_lines {lines : List (List Char)} (first : Indented (lines.headD []))
    (others : ∀ line ∈ lines.tail, Indented line) : ∀ line ∈ lines, Indented line := by
  cases lines with
  | nil => exact others
  | cons top rest => exact List.forall_mem_cons.2 ⟨first, others⟩

/-- The lines of a text inside a function are indented, the first one if it is read from
its head. -/
theorem indented_of_scan {after : Place} (inside : 1 ≤ place.depth)
    (reached : scan 1 place chars = some after) :
    (place.blank? = some 0 → Indented ((linesOf chars).headD [])) ∧
      ∀ line ∈ (linesOf chars).tail, Indented line := by
  induction chars generalizing place with
  | nil => exact ⟨fun _ => rfl, fun _ none => nomatch none⟩
  | cons char chars ih =>
    obtain ⟨next, stepped, behind⟩ := Option.bind_eq_some_iff.1 reached
    obtain ⟨first, others⟩ := ih (le_of_step? inside stepped) behind
    rw [linesOf]
    split
    · next ended =>
      rw [ended] at stepped
      injection stepped with same
      exact ⟨fun _ => rfl, forall_mem_lines (first (same ▸ rfl)) others⟩
    · next notEnd =>
      refine ⟨fun atHead => ?_, others⟩
      obtain ⟨depth, blank?⟩ := place
      cases atHead
      rw [(eq_space_of_step? inside stepped).resolve_left notEnd]
      rfl

end Place

def begins (start text : String) : Bool := start.toList.isPrefixOf text.toList

def linesWith (start text : String) : List String :=
  ((linesOf text.toList).map String.ofList).filter (begins start)

theorem begins_iff {start text : String} :
    begins start text = true ↔ start.toList <+: text.toList :=
  List.isPrefixOf_iff_prefix

theorem head_of_begins {start text : String} {char : Char} (found : begins start text = true)
    (first : start.toList.head? = some char) : text.toList.head? = some char := by
  obtain ⟨rest, same⟩ := begins_iff.1 found
  rw [← same, List.head?_append, first, Option.some_or]

section LinesWith

variable {start : String}

theorem linesWith_append_of_scan {floor depth : Nat} {place : Place} {first second : String}
    (reached : Place.scan floor place first.toList = some (.head depth)) :
    linesWith start (first ++ second) = linesWith start first ++ linesWith start second := by
  rw [linesWith, String.toList_append, Place.linesOf_append reached, List.map_append,
    List.filter_append, linesWith, linesWith]

theorem linesWith_line {text : String} (single : '\n' ∉ text.toList) :
    linesWith start (line 0 text) = [text].filter (begins start) := by
  have chars : (line 0 text).toList = text.toList ++ ['\n'] := by
    rw [line_zero, String.toList_append]
    rfl
  rw [linesWith, chars, linesOf_line single, List.map_singleton, String.ofList_toList]

theorem linesWith_join {texts : List String} (closed : ∀ text ∈ texts, Closed text) :
    linesWith start (String.join texts) = texts.flatMap (linesWith start) := by
  induction texts with
  | nil => rfl
  | cons text texts ih =>
    obtain ⟨first, others⟩ := List.forall_mem_cons.1 closed
    rw [String.join_cons, linesWith_append_of_scan first, ih others, List.flatMap_cons]

theorem linesWith_intercalate {texts : List String} (solid : Solid start)
    (closed : ∀ text ∈ texts, Closed text) :
    linesWith start ("\n".intercalate texts) = texts.flatMap (linesWith start) := by
  have blank : linesWith start "\n" = [] := by
    obtain ⟨char, rest, same, -⟩ := solid.eq_cons
    refine List.filter_eq_nil_iff.2 fun text mem found => ?_
    rw [List.mem_singleton.1 mem] at found
    exact nomatch head_of_begins found (congrArg List.head? same)
  induction texts with
  | nil => rfl
  | cons text texts ih =>
    obtain ⟨first, others⟩ := List.forall_mem_cons.1 closed
    cases texts with
    | nil => rw [String.intercalate_singleton, List.flatMap_singleton]
    | cons next texts =>
      have separated : Closed (text ++ "\n") := closed_append first rfl
      rw [String.intercalate_cons_cons, linesWith_append_of_scan separated,
        linesWith_append_of_scan first, blank, List.append_nil, ih others]
      rfl

theorem linesWith_body {body : List Stmt} (solid : Solid start) (legible : Stmt.allLegible body) :
    linesWith start (Stmt.renderAll 1 body) = [] := by
  obtain ⟨char, rest, same, notSpace⟩ := solid.eq_cons
  obtain ⟨top, others⟩ := Place.indented_of_scan (Nat.le_refl 1)
    (Stmt.scan_renderAll legible (Nat.le_refl 1))
  refine List.filter_eq_nil_iff.2 fun text mem found => ?_
  obtain ⟨line, listed, rfl⟩ := List.mem_map.1 mem
  have indented := Place.forall_mem_lines (top rfl) others line listed
  have headed := head_of_begins found (congrArg List.head? same)
  rw [String.toList_ofList] at headed
  rw [Place.Indented, headed] at indented
  exact notSpace (by simpa using indented)

theorem linesWith_closing (solid : Solid start) : linesWith start "\x7d\n" = [] := by
  obtain ⟨char, rest, same, -⟩ := solid.eq_cons
  have plain := solid.1 char (by rw [same]; exact List.mem_cons_self)
  refine List.filter_eq_nil_iff.2 fun text mem found => ?_
  rw [List.mem_singleton.1 mem] at found
  have headed := head_of_begins found (congrArg List.head? same)
  exact plain.2.2 (Option.some.inj headed).symm

theorem linesWith_function {function : Function} (solid : Solid start)
    (legible : function.isLegible) :
    linesWith start function.render = [function.signature ++ " \x7b"].filter (begins start) := by
  have single : '\n' ∉ (function.signature ++ " \x7b").toList := by
    intro mem
    rw [String.toList_append] at mem
    rcases List.mem_append.1 mem with mem | mem
    · exact ((Function.solid_signature legible).1 _ mem).1 rfl
    · exact absurd mem (by decide)
  have written : Place.scan 0 (.head 0)
      (function.signature ++ " \x7b\n" ++ Stmt.renderAll 1 function.body).toList =
        some (.head 1) := by
    rw [String.toList_append, Place.scan_append_of (Function.scan_opening legible),
      Stmt.scan_renderAll (Function.allLegible_body legible) (Nat.zero_le _)]
  rw [Function.render, linesWith_append_of_scan written,
    linesWith_append_of_scan (Function.scan_opening legible),
    linesWith_body solid (Function.allLegible_body legible), linesWith_closing solid,
    Function.opening_eq,
    linesWith_line single, List.append_nil, List.append_nil]

end LinesWith

namespace File

/-- The lines of a file that begin at the margin and do not just close a function. -/
def outline (file : File) : List String :=
  file.headers.map (fun header => "#include <" ++ header ++ ">") ++
    file.prelude.map (fun function => function.signature ++ " \x7b") ++
    file.globals.map (fun name => "long long " ++ name ++ " = 0;") ++
    file.functions.map (fun function => function.signature ++ ";") ++
    file.functions.map (fun function => function.signature ++ " \x7b") ++
    [file.main.signature ++ " \x7b"]

end File

section Outline

variable {α : Type} {start : String} {own : α → String}

theorem linesWith_lines {list : List α} (solid : ∀ a ∈ list, Solid (own a)) :
    linesWith start (String.join (list.map fun a => line 0 (own a))) =
      (list.map own).filter (begins start) := by
  rw [linesWith_join]
  · induction list with
    | nil => rfl
    | cons a list ih =>
      obtain ⟨first, others⟩ := List.forall_mem_cons.1 solid
      have single : '\n' ∉ (own a).toList := fun mem => (first.1 _ mem).1 rfl
      rw [List.map_cons, List.flatMap_cons, ih others, linesWith_line single, List.map_cons,
        ← List.filter_append, List.singleton_append]
  · intro text mem
    obtain ⟨a, listed, rfl⟩ := List.mem_map.1 mem
    exact closed_line (solid a listed)

theorem linesWith_functions {functions : List Function} (solid : Solid start)
    (legible : ∀ function ∈ functions, function.isLegible) :
    (functions.map Function.render).flatMap (linesWith start) =
      (functions.map fun function => function.signature ++ " \x7b").filter (begins start) := by
  induction functions with
  | nil => rfl
  | cons function functions ih =>
    obtain ⟨first, others⟩ := List.forall_mem_cons.1 legible
    rw [List.map_cons, List.flatMap_cons, ih others, linesWith_function solid first, List.map_cons,
      ← List.filter_append, List.singleton_append]

theorem linesWith_part {list : List α} (solid : ∀ a ∈ list, Solid (own a)) :
    (if list.isEmpty then [] else [String.join (list.map fun a => line 0 (own a))]).flatMap
      (linesWith start) = (list.map own).filter (begins start) := by
  cases list with
  | nil => rfl
  | cons a list =>
    rw [← linesWith_lines solid]
    exact List.flatMap_singleton ..

theorem File.Legible.linesWith_render {file : File} (legible : file.Legible) (solid : Solid start) :
    linesWith start file.render = file.outline.filter (begins start) := by
  have solidHeader : ∀ header ∈ file.headers, Solid ("#include <" ++ header ++ ">") :=
    fun header listed =>
      (Solid.append (by decide) (legible.plain_header header listed)).append (by decide)
  have solidGlobal : ∀ name ∈ file.globals, Solid ("long long " ++ name ++ " = 0;") :=
    fun name listed =>
      (Solid.append (by decide) (legible.plain_global name listed)).append (by decide)
  have solidFunction : ∀ function ∈ file.functions, Solid (function.signature ++ ";") :=
    fun function listed =>
      (Function.solid_signature (legible.functions function listed).1).append (by decide)
  rw [File.render, linesWith_intercalate solid legible.closed_sections, File.sections, File.outline]
  simp only [List.flatMap_append, List.filter_append, List.flatMap_singleton]
  rw [renderHeaders_eq, linesWith_lines solidHeader,
    linesWith_functions solid fun function listed => (legible.prelude function listed).1,
    linesWith_part solidGlobal, linesWith_part solidFunction,
    linesWith_functions solid fun function listed => (legible.functions function listed).1,
    linesWith_function solid legible.main.1]

end Outline

end ImpToC.C
