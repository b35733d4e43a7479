import ImpToC.Proofs.Congruence
import ImpToC.Proofs.Spelling

/-! What becomes of the values a program prints. A run into a list of values is the measure for
runs into writers: a writer that has room for the lines of all values takes them and the run ends
as it does with the list; a writer that has less room is full at the first line that does not
fit, and the run ends there. What a writer keeps is then told by the values alone, whatever the
nesting of calls and loops in which they were printed.

Lines are written in ASCII, so room for characters is room for bytes; and they can be told apart,
so the text also tells the values. -/
namespace ImpToC

open Exec

namespace Writer

def lines (values : List Int64) : String := String.join (values.map line)

@[simp] theorem lines_nil : lines [] = "" := rfl

@[simp] theorem lines_append (values others : List Int64) :
    lines (values ++ others) = lines values ++ lines others := by
  simp [lines]

@[simp] theorem lines_singleton (value : Int64) : lines [value] = line value := by
  simp [lines]

theorem mem_toString {value : Int64} {char : Char} (mem : char ∈ (toString value).toList) :
    char = '-' ∨ char.isDigit := by
  have digits : ∀ number : Nat, char ∈ number.repr.toList → char.isDigit := fun number mem =>
    Nat.isDigit_of_mem_toDigits (by decide) (by decide) (Nat.toList_repr ▸ mem)
  change char ∈ value.toInt.repr.toList at mem
  rw [Int.repr_eq_if] at mem
  split at mem
  · exact .inr (digits _ mem)
  · rw [String.toList_append, List.mem_append] at mem
    rcases mem with minus | mem
    · exact .inl (List.mem_singleton.1 minus)
    · exact .inr (digits _ mem)

theorem newline_not_mem (value : Int64) : '\n' ∉ (toString value).toList := by
  intro mem
  rcases mem_toString mem with minus | digit
  · cases minus
  · cases digit

theorem line_toList (value : Int64) : (line value).toList = (toString value).toList ++ ['\n'] := by
  rw [line, String.toList_append]
  rfl

theorem ascii_line {value : Int64} {char : Char} (mem : char ∈ (line value).toList) :
    char.toNat ≤ 127 := by
  rw [line_toList, List.mem_append, List.mem_singleton] at mem
  rcases mem with mem | rfl
  · rcases mem_toString mem with rfl | digit
    · decide
    · have range := (Char.isDigit_iff_toNat.1 digit).2
      change char.toNat ≤ 57 at range
      omega
  · decide

theorem ascii_lines {values : List Int64} {char : Char} (mem : char ∈ (lines values).toList) :
    char.toNat ≤ 127 := by
  rw [lines, String.toList_join, List.flatMap_map] at mem
  obtain ⟨value, -, mem⟩ := List.mem_flatMap.1 mem
  exact ascii_line mem

def bytes (text : String) : List UInt8 := text.toUTF8.data.toList

theorem bytes_ofList {chars : List Char} (ascii : ∀ char ∈ chars, char.toNat ≤ 127) :
    bytes (String.ofList chars) = chars.map fun char => char.val.toUInt8 := by
  rw [bytes, String.toUTF8_eq_toByteArray, String.toByteArray_ofList, List.utf8Encode,
    List.data_toByteArray]
  change chars.flatMap String.utf8EncodeChar = _
  induction chars with
  | nil => rfl
  | cons char chars ih =>
    have single : char.utf8Size = 1 :=
      Char.utf8Size_eq_one_iff.2 (UInt32.le_iff_toNat_le.2 (ascii char List.mem_cons_self))
    rw [List.flatMap_cons, String.utf8EncodeChar_eq_singleton single, List.map_cons,
      ih fun other mem => ascii other (List.mem_cons_of_mem _ mem)]
    rfl

theorem bytes_lines (values : List Int64) :
    bytes (lines values) = (lines values).toList.map fun char => char.val.toUInt8 := by
  have ascii : ∀ char ∈ (lines values).toList, char.toNat ≤ 127 := fun char mem => ascii_lines mem
  have written := bytes_ofList ascii
  rwa [String.ofList_toList] at written

theorem length_bytes_lines (values : List Int64) :
    (bytes (lines values)).length = (lines values).length := by
  rw [bytes_lines, List.length_map, String.length_toList]

theorem bytes_take_lines (room : Nat) (values : List Int64) :
    bytes (String.ofList ((lines values).toList.take room)) = (bytes (lines values)).take room := by
  rw [bytes_ofList fun char mem => ascii_lines (List.mem_of_mem_take mem), bytes_lines,
    List.map_take]

theorem repr_injective {a b : Int} (same : a.repr = b.repr) : a = b := by
  have read : ∀ m n : Nat, m.repr = n.repr → m = n := by
    intro m n same
    have value := Decimal.value_toString m
    rw [Nat.toString_eq_repr, same, ← Nat.toString_eq_repr, Decimal.value_toString] at value
    exact value.symm
  have unsigned : ∀ m n : Nat, m.repr ≠ "-" ++ n.repr := by
    intro m n same
    have minus : '-' ∈ m.repr.toList := by
      rw [same, String.toList_append]
      exact List.mem_append_left _ List.mem_cons_self
    rw [Nat.toList_repr] at minus
    have digit : '-'.isDigit := Nat.isDigit_of_mem_toDigits (by decide) (by decide) minus
    cases digit
  rw [Int.repr_eq_if, Int.repr_eq_if] at same
  split at same <;> split at same
  · have := read _ _ same
    omega
  · exact absurd same (unsigned _ _)
  · exact absurd same.symm (unsigned _ _)
  · have rest : (-a).toNat.repr = (-b).toNat.repr := by simpa using same
    have := read _ _ rest
    omega

theorem eq_of_newline {first second rest others : List Char} (plain : '\n' ∉ first)
    (other : '\n' ∉ second) (same : first ++ '\n' :: rest = second ++ '\n' :: others) :
    first = second ∧ rest = others := by
  have front : ∀ text tail : List Char, '\n' ∉ text →
      (text ++ '\n' :: tail).takeWhile (· != '\n') = text := by
    intro text tail free
    have all : ∀ char ∈ text, (char != '\n') = true := fun char mem =>
      bne_iff_ne.2 fun newline => free (newline ▸ mem)
    rw [List.takeWhile_append_of_pos all, List.takeWhile_cons_of_neg (by decide), List.append_nil]
  have texts : first = second := by
    rw [← front first rest plain, same, front second others other]
  subst texts
  have tails := List.append_cancel_left same
  exact ⟨rfl, (List.cons.inj tails).2⟩

theorem lines_cons (value : Int64) (values : List Int64) :
    (lines (value :: values)).toList =
      (toString value).toList ++ '\n' :: (lines values).toList := by
  simp [lines, line_toList]

theorem lines_injective : Function.Injective lines := by
  intro values others same
  replace same : (lines values).toList = (lines others).toList := congrArg String.toList same
  induction values generalizing others with
  | nil =>
    cases others with
    | nil => rfl
    | cons other others =>
      rw [lines_cons] at same
      cases List.append_eq_nil_iff.1 same.symm with
      | intro _ newline => cases newline
  | cons value values ih =>
    cases others with
    | nil =>
      rw [lines_cons] at same
      cases List.append_eq_nil_iff.1 same with
      | intro _ newline => cases newline
    | cons other others =>
      rw [lines_cons, lines_cons] at same
      obtain ⟨texts, rest⟩ := eq_of_newline (newline_not_mem value) (newline_not_mem other) same
      have numbers : value.toInt = other.toInt := repr_injective (String.toList_injective texts)
      rw [Int64.toInt_inj.1 numbers, ih rest]

def filled (start : Writer) (values : Array Int64) : Writer :=
  { start with
    kept := start.kept ++ lines values.toList
    room? := start.room?.map (· - (lines values.toList).length) }

def Fits (start : Writer) (values : Array Int64) : Prop :=
  ∀ room ∈ start.room?, (lines values.toList).length ≤ room

def cut (start : Writer) (room : Nat) (values : Array Int64) : Writer :=
  { start with
    kept := start.kept ++ String.ofList ((lines values.toList).toList.take room)
    room? := some 0 }

def Holds (start : Writer) (values : Array Int64) (writer : Writer) : Prop :=
  start.Fits values ∧ writer = start.filled values

/-- What a writer holds of the values if it was full before the last of them. -/
def IsFull (start : Writer) (values : Array Int64) (writer : Writer) : Prop :=
  ∃ room, start.room? = some room ∧ room < (lines values.toList).length ∧
    writer = start.cut room values

theorem holds_start (start : Writer) : start.Holds #[] start := by
  refine ⟨fun room _ => Nat.zero_le room, ?_⟩
  obtain ⟨kept, room?, whenFull, flushFault?, flushes⟩ := start
  cases room? <;> simp [filled]

theorem length_lines_push (values : Array Int64) (value : Int64) :
    (lines (values.push value).toList).length =
      (lines values.toList).length + (line value).length := by
  simp

theorem filled_push (start : Writer) (values : Array Int64) (value : Int64) :
    start.filled (values.push value) =
      { start.filled values with
        kept := (start.filled values).kept ++ line value
        room? := (start.filled values).room?.map (· - (line value).length) } := by
  obtain ⟨kept, room?, whenFull, flushFault?, flushes⟩ := start
  cases room? <;> simp [filled, String.append_assoc, Nat.sub_add_eq]

theorem IsFull.push {start writer : Writer} {values : Array Int64}
    (full : start.IsFull values writer) (value : Int64) :
    start.IsFull (values.push value) writer := by
  obtain ⟨room, limit, beyond, rfl⟩ := full
  have longer := length_lines_push values value
  refine ⟨room, limit, by omega, ?_⟩
  have short : room ≤ (lines values.toList).toList.length := by
    rw [String.length_toList]
    omega
  simp [cut, List.take_append_of_le_length short]

theorem Holds.put {start writer : Writer} {values : Array Int64} (holds : start.Holds values writer)
    (value : Int64) :
    (∃ after, writer.put value = (after, none) ∧ start.Holds (values.push value) after) ∨
      ∃ after, writer.put value = (after, some start.whenFull) ∧
        start.IsFull (values.push value) after := by
  obtain ⟨fits, rfl⟩ := holds
  have longer := length_lines_push values value
  cases limit : start.room? with
  | none =>
    have endless : (start.filled values).room? = none := by simp [filled, limit]
    refine .inl ⟨start.filled (values.push value), ?_, fun room given => ?_, rfl⟩
    · rw [filled_push, Writer.put]
      simp only [endless]
      rfl
    · rw [limit] at given
      cases given
  | some room =>
    have left : (start.filled values).room? = some (room - (lines values.toList).length) := by
      simp [filled, limit]
    have used := fits room limit
    by_cases short : (line value).length ≤ room - (lines values.toList).length
    · refine .inl ⟨start.filled (values.push value), ?_, fun other given => ?_, rfl⟩
      · rw [filled_push, Writer.put]
        simp only [left, if_pos short]
        rfl
      · rw [limit, Option.mem_def, Option.some.injEq] at given
        omega
    · refine .inr ⟨start.cut room (values.push value), ?_, room, limit, by omega, rfl⟩
      have split : (lines (values.push value).toList).toList.take room =
          (lines values.toList).toList ++
            (line value).toList.take (room - (lines values.toList).length) := by
        rw [Array.toList_push, lines_append, lines_singleton, String.toList_append,
          List.take_append, String.length_toList]
        rw [List.take_of_length_le (by rw [String.length_toList]; exact used)]
      rw [Writer.put]
      simp only [left, if_neg short]
      rw [cut, split]
      simp [filled, String.append_assoc]

end Writer

def Machine.withSink {σ τ : Type} (sink : τ) (machine : Machine σ) : Machine τ :=
  { globals := machine.globals, frames := machine.frames, stepsLeft := machine.stepsLeft, sink }

namespace Machine

variable {σ τ : Type} (sink : τ) (machine : Machine σ)

theorem store_withSink (name : String) (value : Int64) :
    (machine.withSink sink).store name value = (machine.store name value).withSink sink := by
  obtain ⟨globals, frames, stepsLeft, before⟩ := machine
  cases frames with
  | nil => rfl
  | cons frame frames =>
    simp only [store, withSink]
    split <;> rfl

theorem record_withSink (value : Int64) :
    (machine.withSink sink).record value = (machine.record value).withSink sink := by
  obtain ⟨globals, frames, stepsLeft, before⟩ := machine
  cases frames <;> rfl

end Machine

namespace Exec

variable {α β : Type} {start : Writer}

/-- The run into the writer ends as the run into the list and the writer holds all its values, or
the writer was full, at this value or at an earlier one than the last. -/
inductive Tracks (start : Writer) : Answer (Array Int64) α → Answer Writer α → Prop where
  | ok {a : α} {machine : Machine (Array Int64)} {writer : Writer}
    (holds : start.Holds machine.sink writer) :
    Tracks start (.ok a machine) (.ok a (machine.withSink writer))
  | error {fault : RunError} {machine : Machine (Array Int64)} {writer : Writer}
    (holds : start.Holds machine.sink writer) :
    Tracks start (.error fault machine) (.error fault (machine.withSink writer))
  | full {answer : Answer (Array Int64) α} {machine : Machine Writer}
    (isFull : start.IsFull (finalMachine answer).sink machine.sink) :
    Tracks start answer (.error (.output start.whenFull) machine)

/-- What the first computation does into a list, the second does into a writer. -/
structure Tracked (start : Writer) (listed : Exec (Array Int64) α) (written : Exec Writer α) :
    Prop where
  grows : ∀ machine writer, start.IsFull machine.sink writer →
    start.IsFull (finalMachine (listed machine)).sink writer
  tracks : ∀ machine writer, start.Holds machine.sink writer →
    Tracks start (listed machine) (written (machine.withSink writer))

def moveSink {σ τ : Type} (sink : τ) : Answer σ α → Answer τ α
  | .ok a machine => .ok a (machine.withSink sink)
  | .error fault machine => .error fault (machine.withSink sink)

theorem tracked_of_blind {listed : Exec (Array Int64) α} {written : Exec Writer α}
    (keeps : ∀ machine, (finalMachine (listed machine)).sink = machine.sink)
    (same : ∀ machine writer,
      written (machine.withSink writer) = moveSink writer (listed machine)) :
    Tracked start listed written := by
  constructor
  · intro machine writer full
    rwa [keeps machine]
  · intro machine writer holds
    have kept := keeps machine
    rw [same machine writer]
    cases done : listed machine with
    | ok a after =>
      rw [done] at kept
      exact .ok (kept ▸ holds)
    | error fault after =>
      rw [done] at kept
      exact .error (kept ▸ holds)

theorem Tracked.bind {listed : Exec (Array Int64) α} {written : Exec Writer α}
    {listedNext : α → Exec (Array Int64) β} {writtenNext : α → Exec Writer β}
    (first : Tracked start listed written)
    (rest : ∀ a, Tracked start (listedNext a) (writtenNext a)) :
    Tracked start (listed >>= listedNext) (written >>= writtenNext) := by
  constructor
  · intro machine writer full
    have grown := first.grows machine writer full
    rw [bind_apply]
    cases done : listed machine with
    | ok a middle =>
      rw [done] at grown
      exact (rest a).grows middle writer grown
    | error fault middle =>
      rw [done] at grown
      exact grown
  · intro machine writer holds
    have tracks := first.tracks machine writer holds
    rw [bind_apply, bind_apply]
    generalize listed machine = answer, written (machine.withSink writer) = other at tracks
    cases tracks with
    | ok holds => exact (rest _).tracks _ _ holds
    | error holds => exact .error holds
    | full isFull =>
      refine .full ?_
      cases answer with
      | ok a middle => exact (rest a).grows middle _ isFull
      | error fault middle => exact isFull

theorem tracked_store (name : String) (value : Int64) :
    Tracked start (store name value) (store name value) :=
  tracked_of_blind (fun machine => machine.store_sink name value) fun machine writer => by
    simp only [store, Machine.store_withSink, moveSink]

theorem tracked_record (value : Int64) : Tracked start (record value) (record value) :=
  tracked_of_blind (fun machine => machine.record_sink value) fun machine writer => by
    simp only [record, Machine.record_withSink, moveSink]

theorem tracked_operate (op : Operator) (a b : Int64) :
    Tracked start (operate op a b) (operate op a b) := by
  simp only [operate]
  cases op.result? a b <;> exact tracked_of_blind (fun _ => rfl) fun _ _ => rfl

theorem tracked_step (limits : Limits) : Tracked start (step limits) (step limits) := by
  refine tracked_of_blind ?_ ?_
  · rintro ⟨globals, frames, stepsLeft, sink⟩
    cases stepsLeft <;> rfl
  · rintro ⟨globals, frames, stepsLeft, sink⟩ writer
    cases stepsLeft <;> rfl

theorem tracked_put (value : Int64) : Tracked start (put value) (put value) := by
  constructor
  · intro machine writer full
    exact full.push value
  · rintro ⟨globals, frames, stepsLeft, values⟩ writer holds
    rcases holds.put value with ⟨after, taken, holds⟩ | ⟨after, refused, full⟩
    · have taken : Sink.put value writer = (after, none) := taken
      simp only [put, Machine.withSink, taken]
      exact .ok holds
    · have refused : Sink.put value writer = (after, some start.whenFull) := refused
      simp only [put, Machine.withSink, refused]
      exact .full full

theorem Tracked.within {listed : Exec (Array Int64) Unit} {written : Exec Writer Unit}
    (frame : Frame) (bodies : Tracked start listed written) :
    Tracked start (within frame listed) (within frame written) := by
  constructor
  · intro machine writer full
    have grown := bodies.grows (machine.enter frame) writer full
    rw [Exec.within]
    cases done : listed (machine.enter frame) <;> rw [done] at grown <;> exact grown
  · intro machine writer holds
    have tracks := bodies.tracks (machine.enter frame) writer holds
    have entered : (machine.withSink writer).enter frame = (machine.enter frame).withSink writer :=
      rfl
    rw [Exec.within, Exec.within, entered]
    generalize listed (machine.enter frame) = answer,
      written ((machine.enter frame).withSink writer) = other at tracks
    cases tracks with
    | ok holds => exact .ok holds
    | error holds => exact .error holds
    | full isFull => cases answer <;> exact .full isFull

theorem Tracked.call {env : Env} {listed : Stmt → Exec (Array Int64) Unit}
    {written : Stmt → Exec Writer Unit} (callee : String) (args : List Int64)
    (bodies : ∀ stmt, Tracked start (listed stmt) (written stmt)) :
    Tracked start (call env listed callee args) (call env written callee args) := by
  have entered := fun declaration : Declaration Stmt =>
    (bodies declaration.body).within { params := declaration.params.zip args }
  cases found : env.table.resolve callee args.length with
  | error fault =>
    refine tracked_of_blind (fun machine => ?_) fun machine writer => ?_
    · rw [call_of_unresolved found]
      rfl
    · rw [call_of_unresolved found, call_of_unresolved found]
      rfl
  | ok declaration =>
    constructor
    · intro machine writer full
      by_cases shallow : machine.frames.length < env.limits.callDepth
      · rw [call_of_shallow found shallow]
        exact (entered declaration).grows machine writer full
      · rw [call_of_deep found shallow]
        exact full
    · intro machine writer holds
      have depth : (machine.withSink writer).frames.length = machine.frames.length := rfl
      by_cases shallow : machine.frames.length < env.limits.callDepth
      · rw [call_of_shallow found shallow, call_of_shallow found (depth ▸ shallow)]
        exact (entered declaration).tracks machine writer holds
      · rw [call_of_deep found shallow, call_of_deep found (depth ▸ shallow)]
        exact .error holds

def tracking (start : Writer) (env : Env) : Congruence (Array Int64) Writer env env where
  Eval listed written := Tracked start listed written
  Run listed written := Tracked start listed written
  pure _ := tracked_of_blind (fun _ => rfl) fun _ _ => rfl
  bind first rest := first.bind rest
  load _ := tracked_of_blind (fun _ => rfl) fun _ _ => rfl
  operate := tracked_operate
  call callee args bodies := Tracked.call callee args bodies
  skip := tracked_of_blind (fun _ => rfl) fun _ _ => rfl
  stop := tracked_of_blind (fun _ => rfl) fun _ _ => rfl
  store := tracked_store
  record := tracked_record
  put := tracked_put
  step rest := (tracked_step env.limits).bind fun _ => rest
  after first rest := first.bind rest
  seq first rest := first.bind fun _ => rest

end Exec

open Writer (lines)

/-- How a run into the writer ends, if the run into the empty list ends in this answer. -/
inductive Writer.Receives (start : Writer) :
    Except RunError Unit × Array Int64 → Except RunError Unit × Writer → Prop where
  | all {answer : Except RunError Unit} {values : Array Int64} (fits : start.Fits values) :
    Receives start (answer, values) (answer, start.filled values)
  | some {answer : Except RunError Unit} {values : Array Int64} {room : Nat}
    (limit : start.room? = .some room) (beyond : room < (lines values.toList).length) :
    Receives start (answer, values) (.error (.output start.whenFull), start.cut room values)

theorem Exec.Tracks.receives {start : Writer} {answer : Answer (Array Int64) Unit}
    {other : Answer Writer Unit} (tracks : Tracks start answer other) :
    start.Receives (outcome answer) (outcome other) := by
  cases tracks with
  | ok holds =>
    obtain ⟨fits, rfl⟩ := holds
    exact .all fits
  | error holds =>
    obtain ⟨fits, rfl⟩ := holds
    exact .all fits
  | @full _ machine isFull =>
    obtain ⟨room, limit, beyond, left⟩ := isFull
    have ended : outcome (.error (.output start.whenFull) machine : Answer Writer Unit) =
        (.error (.output start.whenFull), start.cut room (finalMachine answer).sink) := by
      rw [outcome, left]
    rw [ended]
    cases answer <;> exact .some limit beyond

theorem Linked.run_receives (linked : Linked) (limits : Limits) (start : Writer) :
    start.Receives (linked.run limits #[]) (linked.run limits start) := by
  have tracked := (tracking start ⟨linked.table, limits⟩).execAll limits.steps
    linked.program.statements
  rw [run_eq_outcome, run_eq_outcome]
  exact (tracked.tracks { stepsLeft := limits.steps, sink := #[] } start
    start.holds_start).receives

namespace Tree

theorem run_receives (tree : Tree) (limits : Limits) (start : Writer) :
    start.Receives (tree.run limits #[]) (tree.run limits start) := by
  rw [run, run]
  cases Linked.ofTree tree with
  | error fault =>
    obtain ⟨fits, same⟩ := start.holds_start
    have none : start.Receives (.error fault.toRunError, #[]) (.error fault.toRunError, _) :=
      .all fits
    rwa [← same] at none
  | ok linked => exact linked.run_receives limits start

/-- How a run ends that still has to get the written text out, if its program ends in this
answer. -/
def flushed (flushFault? : Option String) : Except RunError Unit → Except RunError Unit
  | .error fault => .error fault
  | .ok () =>
    match flushFault? with
    | none => .ok ()
    | some reason => .error (.output reason)

/-- The writer after such a run: it was asked to get the text out only if the program had come to
its end. -/
def asked (writer : Writer) : Except RunError Unit → Writer
  | .error _ => writer
  | .ok () => writer.flush.1

theorem write_of_run {tree : Tree} {limits : Limits} {start after : Writer}
    {answer : Except RunError Unit} (ran : tree.run limits start = (answer, after)) :
    tree.write limits start = (flushed after.flushFault? answer, asked after answer) := by
  rw [write, ran]
  rcases answer with fault | ⟨⟩
  · rfl
  · dsimp only [flushed, asked, Writer.flush]
    cases after.flushFault? <;> rfl

theorem kept_asked (writer : Writer) (answer : Except RunError Unit) :
    (asked writer answer).kept = writer.kept := by
  rcases answer with fault | ⟨⟩ <;> rfl

section

variable {tree : Tree} {limits : Limits} {answer : Except RunError Unit} {values : Array Int64}
  (ran : tree.run limits #[] = (answer, values))

include ran

theorem values_eq_ok_iff {listed : Array Int64} :
    tree.values limits = .ok listed ↔
      answer = .ok () ∧ lines values.toList = lines listed.toList := by
  rw [values_eq_ok, ran, Prod.mk.injEq]
  refine and_congr_right fun _ => ⟨fun same => by rw [same], fun same => ?_⟩
  exact Array.toList_inj.1 (Writer.lines_injective same)

theorem values_eq_error_iff {fault : RunError} :
    tree.values limits = .error fault ↔ answer = .error fault := by
  constructor
  · intro failed
    have stopped := values_eq_error failed
    rwa [ran] at stopped
  · rintro rfl
    rw [Tree.values, ran]

theorem write_of_fits {start : Writer} (fits : start.Fits values) :
    tree.write limits start =
      (flushed start.flushFault? answer, asked (start.filled values) answer) := by
  have receives := tree.run_receives limits start
  rw [ran] at receives
  generalize reached : tree.run limits start = other at receives
  cases receives with
  | all => exact write_of_run reached
  | some limit beyond => exact absurd (fits _ limit) (Nat.not_le_of_lt beyond)

theorem write_of_beyond {start : Writer} {room : Nat} (limit : start.room? = some room)
    (beyond : room < (lines values.toList).length) :
    tree.write limits start = (.error (.output start.whenFull), start.cut room values) := by
  have receives := tree.run_receives limits start
  rw [ran] at receives
  generalize reached : tree.run limits start = other at receives
  cases receives with
  | all fits => exact absurd (fits room limit) (Nat.not_le_of_lt beyond)
  | some found =>
    rw [limit, Option.some.injEq] at found
    rw [write_of_run reached, ← found]
    rfl

end

/-- A writer with little room sees the beginning of what a writer without limits sees. If there is
room for all bytes, it keeps them all and the run ends alike, except that it has to get the text
out once the program has ended; if there is not, the run fails and the writer has kept as many
bytes as there was room for. Getting the text out is tried at most once, and it is tried exactly if
the program has ended and its text has found room; only then does it matter what becomes of it. A
run that lists its values ends in them exactly if the run into a writer without limits succeeds and
writes their lines, and fails as that one does. -/
theorem write_keeps_beginning (tree : Tree) (limits : Limits) (room : Nat) (whenFull : String) :
    let free := tree.write limits {}
    let limited := fun flushFault? =>
      tree.write limits { room? := some room, whenFull, flushFault? }
    let output := Writer.bytes free.2.kept
    (output.length ≤ room → ∀ flushFault?,
      (limited flushFault?).2.kept = free.2.kept ∧
        (limited flushFault?).1 = flushed flushFault? free.1) ∧
    (room < output.length → ∀ flushFault?,
      (limited flushFault?).1 = .error (.output whenFull) ∧
        Writer.bytes (limited flushFault?).2.kept = output.take room) ∧
    (∀ flushFault? other?, (limited flushFault?).1 ≠ (limited other?).1 →
      free.1 = .ok () ∧ output.length ≤ room) ∧
    (∀ flushFault?, (limited flushFault?).2.flushes ≤ 1 ∧
      ((limited flushFault?).2.flushes = 1 ↔ free.1 = .ok () ∧ output.length ≤ room)) ∧
    (∀ values, tree.values limits = .ok values ↔
      free.1 = .ok () ∧ free.2.kept = lines values.toList) ∧
    ∀ fault, tree.values limits = .error fault ↔ free.1 = .error fault := by
  intro free limited output
  rcases ran : tree.run limits (#[] : Array Int64) with ⟨answer, values⟩
  have whole : free = (answer, asked { kept := lines values.toList } answer) := by
    have endless : Writer.Fits {} values := by rintro room ⟨⟩
    have written := write_of_fits ran endless
    rw [Writer.filled, String.empty_append] at written
    rcases answer with fault | ⟨⟩ <;> exact written
  have kept : free.2.kept = lines values.toList := by rw [whole, kept_asked]
  have size : output.length = (lines values.toList).length := by
    rw [← Writer.length_bytes_lines, ← kept]
  have fitting : output.length ≤ room → ∀ flushFault?,
      limited flushFault? = (flushed flushFault? answer,
        asked (Writer.filled { room? := some room, whenFull, flushFault? } values) answer) := by
    intro enough flushFault?
    refine write_of_fits ran ?_
    rintro _ ⟨⟩
    exact size ▸ enough
  have overflowing : room < output.length → ∀ flushFault?,
      limited flushFault? = (.error (.output whenFull),
        Writer.cut { room? := some room, whenFull, flushFault? } room values) :=
    fun less flushFault? => write_of_beyond ran rfl (size ▸ less)
  refine ⟨fun enough flushFault? => ?_, fun less flushFault? => ?_, ?_, fun flushFault? => ?_,
    fun listed => ?_, fun fault => ?_⟩
  · rw [fitting enough, kept_asked, kept, whole]
    exact ⟨String.empty_append, rfl⟩
  · rw [overflowing less]
    refine ⟨rfl, ?_⟩
    simp only [output, kept, Writer.cut, String.empty_append]
    exact Writer.bytes_take_lines room values.toList
  · intro flushFault? other? differ
    rcases Nat.lt_or_ge room output.length with less | enough
    · rw [overflowing less, overflowing less] at differ
      exact absurd rfl differ
    · rw [fitting enough, fitting enough] at differ
      rcases answer with fault | ⟨⟩
      · exact absurd rfl differ
      · exact ⟨congrArg Prod.fst whole, enough⟩
  · rw [congrArg Prod.fst whole]
    rcases Nat.lt_or_ge room output.length with less | enough
    · rw [overflowing less]
      simp [Writer.cut, Nat.not_le_of_lt less]
    · rw [fitting enough]
      rcases answer with fault | ⟨⟩ <;> simp [asked, Writer.filled, Writer.flush, enough]
  · rw [kept, congrArg Prod.fst whole]
    exact values_eq_ok_iff ran
  · rw [whole]
    exact values_eq_error_iff ran

/-- A program that prints 12, 345 and 6 and then divides by 0, and one that prints 12. Room for
four bytes cuts 345 after its first digit, and getting the text out is not tried; room for three
bytes is just enough for 12, and it is tried. -/
theorem write_keeps_beginning_digits :
    let limits : Limits := { steps := 4 }
    let failing := Program.toTree ⟨[.print (.num "12"), .print (.num "345"), .print (.num "6"),
      .print (.binary (.arith .div) (.num "1") (.num "0"))]⟩
    let single := Program.toTree ⟨[.print (.num "12")]⟩
    let limited := fun (tree : Tree) (room : Nat) =>
      tree.write limits { room? := some room, flushFault? := some "flush failed" }
    Writer.bytes (limited failing 4).2.kept = [49, 50, 10, 51] ∧
      (limited failing 4).1 = .error (.output "disk full") ∧
      (limited failing 9).1 = .error .divisionByZero ∧
      (limited single 3).1 = .error (.output "flush failed") ∧
      (limited failing 4).2.flushes ≠ 1 ∧ (limited single 3).2.flushes = 1 ∧
      single.values limits = .ok #[12] := by
  intro limits failing single limited
  have output : Writer.bytes (failing.write limits {}).2.kept =
      [49, 50, 10, 51, 52, 53, 10, 54, 10] := by rfl
  have ended : (failing.write limits {}).1 = .error .divisionByZero := by rfl
  have short : Writer.bytes (single.write limits {}).2.kept = [49, 50, 10] := by rfl
  have done : (single.write limits {}).1 = .ok () := by rfl
  obtain ⟨-, cut, -, untried, -⟩ := write_keeps_beginning failing limits 4 "disk full"
  obtain ⟨whole, -⟩ := write_keeps_beginning failing limits 9 "disk full"
  obtain ⟨taken, -, -, tried, listed, -⟩ := write_keeps_beginning single limits 3 "disk full"
  have kept := cut (by rw [output]; decide) (some "flush failed")
  have failed := whole (by rw [output]; decide) (some "flush failed")
  have refused := taken (by rw [short]; decide) (some "flush failed")
  rw [output] at kept
  rw [ended] at failed
  rw [done] at refused
  have short' : (Writer.bytes (single.write limits {}).2.kept).length ≤ 3 := by
    rw [short]
    decide
  refine ⟨kept.2, kept.1, failed.2, refused.2, fun once => ?_, ?_, (listed #[12]).2 ⟨done, rfl⟩⟩
  · obtain ⟨success, -⟩ := (untried (some "flush failed")).2.1 once
    rw [ended] at success
    cases success
  · exact (tried (some "flush failed")).2.2 ⟨done, short'⟩

end Tree

end ImpToC
