import ImpToC.Proofs.Congruence

/-! Every run ends. The executions of `Stmt.exec` are given a bound in advance, which alone says
that they end. Here the same program is run by plain recursion, which is told nothing about how
long it may take. All it has to stop it is a counter of the statements begun, a word that would
wrap around to 0 if it were counted further than it goes, and the limit on the calls in progress.

A recursion that need not come back is known by its cut-offs: cut off at some depth it has no
answer yet. It comes back if from some depth on it has always the same answer, and it does not if
it is cut off at every depth.

The recursion also keeps a record of what happens on the way: statements begun, values handed to
the sink and calls entered. So what a run does before it ends can be counted, not only what is
left of it in the end.

Recursion and execution are compared computation by computation. What makes the recursion come
back is the execution beside it, whose steps left fall with every statement begun. -/
namespace ImpToC

open Exec

variable {σ α β : Type}

inductive Observed.Event where
  | begun
  | printed (value : Int64)
  | entered (depth : Nat)
  deriving DecidableEq, Repr

/-- A machine together with the counter of the statements begun and the record of what has
happened, the last event first. The machine itself counts nothing. -/
structure Observed (σ : Type) where
  machine : Machine σ
  counter : UInt64 := 0
  events : List Observed.Event := []

namespace Observed

def begun (observed : Observed σ) : Nat := observed.events.count .begun

/-- The values handed to the sink, the last one first. -/
def printed (observed : Observed σ) : List Int64 :=
  observed.events.filterMap fun
    | .printed value => some value
    | _ => none

def note (event : Event) (observed : Observed σ) : Observed σ :=
  { observed with events := event :: observed.events }

def tick (observed : Observed σ) : Observed σ :=
  { observed.note .begun with counter := observed.counter + 1 }

def enter (frame : Frame) (observed : Observed σ) : Observed σ :=
  let machine := observed.machine.enter frame
  { observed.note (.entered machine.frames.length) with machine }

def leave (observed : Observed σ) : Observed σ :=
  { observed with machine := observed.machine.leave }

variable (observed : Observed σ)

theorem begun_tick : observed.tick.begun = observed.begun + 1 := List.count_cons_self

theorem begun_printed (value : Int64) :
    (observed.note (.printed value)).begun = observed.begun :=
  List.count_cons_of_ne (by simp)

theorem begun_enter (frame : Frame) : (observed.enter frame).begun = observed.begun :=
  List.count_cons_of_ne (by simp)

end Observed

/-- What becomes of a sink that is handed these values, the last one first. -/
def Sink.putAll [Sink σ] (sink : σ) (values : List Int64) : σ :=
  values.foldr (fun value sink => (Sink.put value sink).1) sink

abbrev Recursion (σ α : Type) := ExceptT RunError (StateT (Observed σ) Option) α

namespace Recursion

def cutOff : Recursion σ α := fun _ => none

def perform (done : Exec σ α) : Recursion σ α := fun observed =>
  match done observed.machine with
  | .ok a machine => some (.ok a, { observed with machine })
  | .error fault machine => some (.error fault, { observed with machine })

def count (limits : Limits) : Recursion σ Unit := fun observed =>
  if UInt64.ofNat limits.steps < observed.tick.counter then
    some (.error (.stepLimitExceeded limits.steps), observed.tick)
  else
    some (.ok (), observed.tick)

def print [Sink σ] (value : Int64) : Recursion σ Unit := fun observed =>
  perform (put value) (observed.note (.printed value))

def enter (limits : Limits) (frame : Frame) : Recursion σ Unit := fun observed =>
  if observed.machine.frames.length < limits.callDepth then
    some (.ok (), observed.enter frame)
  else
    some (.error (.callDepthExceeded limits.callDepth), observed)

/-- Ends a call, whether its body came to its end or failed. -/
def leave (outcome : Except RunError Unit) : Recursion σ Int64 := fun observed =>
  some (outcome.map fun _ => observed.machine.result, observed.leave)

mutual

def eval [Sink σ] (env : Env) : Nat → Expr → Recursion σ Int64
  | 0, _ => cutOff
  | _ + 1, .num digits => pure (Int64.ofNat (Decimal.value digits.toList))
  | _ + 1, .var name => perform (load name)
  | depth + 1, .binary op left right => do
    let a ← eval env depth left
    let b ← eval env depth right
    perform (operate op a b)
  | depth + 1, .call callee args => do
    let values ← evalAll env depth args
    call env depth callee values

def evalAll [Sink σ] (env : Env) : Nat → List Expr → Recursion σ (List Int64)
  | 0, _ => cutOff
  | _ + 1, [] => pure []
  | depth + 1, arg :: args => do
    let value ← eval env depth arg
    let values ← evalAll env depth args
    pure (value :: values)

def call [Sink σ] (env : Env) : Nat → String → List Int64 → Recursion σ Int64
  | 0, _, _ => cutOff
  | depth + 1, callee, args =>
    match env.table.resolve callee args.length with
    | .error fault => throw (.function fault)
    | .ok declaration => do
      enter env.limits { params := declaration.params.zip args }
      -- a fault of the body is a value here, since the call is left in either case
      (ExceptT.run (exec env depth declaration.body) >>= leave :
        StateT (Observed σ) Option (Except RunError Int64))

def exec [Sink σ] (env : Env) : Nat → Stmt → Recursion σ Unit
  | 0, _ => cutOff
  | depth + 1, stmt => do
    count env.limits
    match stmt with
    | .assign target value =>
      let value ← eval env depth value
      perform (store target value)
      perform (record value)
    | .print value =>
      let value ← eval env depth value
      print value
      perform (record value)
    | .ifThen cond body =>
      let value ← eval env depth cond
      if value = 0 then pure () else exec env depth body
    | .ifElse cond body other =>
      let value ← eval env depth cond
      if value = 0 then exec env depth other else exec env depth body
    | .loop cond body => rounds env depth cond body
    | .function _ _ _ => pure ()

def rounds [Sink σ] (env : Env) : Nat → Expr → Stmt → Recursion σ Unit
  | 0, _, _ => cutOff
  | depth + 1, cond, body => do
    let value ← eval env depth cond
    if value = 0 then pure () else do
      exec env depth body
      rounds env depth cond body

end

def execAll [Sink σ] (env : Env) (depth : Nat) : List Stmt → Recursion σ Unit
  | [] => pure ()
  | stmt :: stmts => do
    exec env depth stmt
    execAll env depth stmts

def Answers (recursion : Nat → Recursion σ α) (observed : Observed σ)
    (answer : Except RunError α × Observed σ) : Prop :=
  ∃ least, ∀ depth, least ≤ depth → recursion depth observed = some answer

end Recursion

def Tree.recursion [Sink σ] (tree : Tree) (limits : Limits) (depth : Nat) : Recursion σ Unit :=
  match Linked.ofTree tree with
  | .error fault => throw fault.toRunError
  | .ok linked => Recursion.execAll ⟨linked.table, limits⟩ depth linked.program.statements

def Observed.start (sink : σ) : Observed σ := { machine := { stepsLeft := 0, sink } }

namespace Exec

/-- Works on the variables only: it does not look at the steps, leaves the sink alone and meets
no limit. -/
structure Plain (done : Exec σ α) : Prop where
  blind (steps : Nat) (machine : Machine σ) :
    done (machine.withSteps steps) = setSteps steps (done machine)
  sink (machine : Machine σ) : (finalMachine (done machine)).sink = machine.sink
  fault {machine after : Machine σ} {fault : RunError}
    (failed : done machine = .error fault after) : fault.isLimit = false

theorem plain_load (name : String) : Plain (load name : Exec σ Int64) where
  blind _ _ := rfl
  sink _ := rfl
  fault failed := nomatch failed

theorem plain_store (name : String) (value : Int64) : Plain (store name value : Exec σ Unit) where
  blind steps machine := congrArg (EStateM.Result.ok ()) (machine.store_withSteps steps name value)
  sink machine := machine.store_sink name value
  fault failed := nomatch failed

theorem plain_record (value : Int64) : Plain (record value : Exec σ Unit) where
  blind steps machine := congrArg (EStateM.Result.ok ()) (machine.record_withSteps steps value)
  sink machine := machine.record_sink value
  fault failed := nomatch failed

theorem plain_operate (op : Operator) (a b : Int64) : Plain (operate op a b : Exec σ Int64) where
  blind steps machine := operate_withSteps steps op a b machine
  sink machine := by
    rw [operate]
    cases op.result? a b <;> rfl
  fault failed := by
    obtain ⟨rfl, -⟩ := operate_eq_error failed
    rfl

end Exec

namespace Observed

/-- The record is true: the counter is the number of statements begun, no call was entered
beyond the limit, and the sink is what the values printed have made of it. -/
structure Sound [Sink σ] (limits : Limits) (sink : σ) (observed : Observed σ) : Prop where
  counted : observed.counter.toNat = observed.begun
  shallow : ∀ depth, .entered depth ∈ observed.events → depth ≤ limits.callDepth
  sunk : observed.machine.sink = Sink.putAll sink observed.printed

/-- What the record says of a run that ended with this fault. A run that is stopped by the
limit on its steps began one statement more than it may, and that was the last it did. -/
def Explains (limits : Limits) (observed : Observed σ) : RunError → Prop
  | .stepLimitExceeded steps =>
    steps = limits.steps ∧ observed.begun = limits.steps + 1 ∧
      observed.events.head? = some .begun
  | .callDepthExceeded depth => depth = limits.callDepth ∧ observed.begun ≤ limits.steps
  | _ => observed.begun ≤ limits.steps

theorem explains_of_not_limit {limits : Limits} {observed : Observed σ} {fault : RunError}
    (free : fault.isLimit = false) (inTime : observed.begun ≤ limits.steps) :
    observed.Explains limits fault := by
  cases fault with
  | stepLimitExceeded steps => cases free
  | callDepthExceeded depth => cases free
  | _ => exact inTime

end Observed

/-- The two sides in the middle of a run. The steps left are fewer than `room`, and the prints
made and the `pending` ones that are still to be made have each been paid for by a statement
begun. -/
structure Agrees [Sink σ] (limits : Limits) (sink : σ) (room pending : Nat)
    (machine : Machine σ) (observed : Observed σ) : Prop
    extends observed.Sound limits sink where
  same : observed.machine = machine.withSteps 0
  counter : observed.counter.toNat + machine.stepsLeft = limits.steps
  within : machine.stepsLeft < room
  paid : observed.printed.length + pending ≤ observed.begun

structure Halts [Sink σ] (limits : Limits) (sink : σ) (fault : RunError) (machine : Machine σ)
    (observed : Observed σ) : Prop extends observed.Sound limits sink where
  same : observed.machine = machine.withSteps 0
  explained : observed.Explains limits fault
  printed : observed.printed.length ≤ limits.steps

inductive AnswersAlike [Sink σ] (limits : Limits) (sink : σ) (room pending : Nat) :
    Answer σ α → Except RunError α × Observed σ → Prop where
  | ok {a : α} {machine : Machine σ} {observed : Observed σ}
    (agrees : Agrees limits sink room pending machine observed) :
    AnswersAlike limits sink room pending (.ok a machine) (.ok a, observed)
  | error {fault : RunError} {machine : Machine σ} {observed : Observed σ}
    (halts : Halts limits sink fault machine observed) :
    AnswersAlike limits sink room pending (.error fault machine) (.error fault, observed)

def ComesBack [Sink σ] (limits : Limits) (sink : σ) (room pending : Nat) (run : Exec σ α)
    (recursion : Nat → Recursion σ α) (room' pending' : Nat) : Prop :=
  ∀ machine observed, Agrees limits sink room pending machine observed →
    ∃ answer, Recursion.Answers recursion observed answer ∧
      AnswersAlike limits sink room' pending' (run machine) answer

namespace Recursion

variable {first : Recursion σ α} {next : α → Recursion σ β} {observed after : Observed σ}

theorem bind_of_ok {a : α} (done : first observed = some (.ok a, after)) :
    (first >>= next) observed = next a after := by
  change (first observed >>= fun answer => ExceptT.bindCont next answer.1 answer.2) = _
  rw [done]
  rfl

theorem bind_of_error {fault : RunError} (failed : first observed = some (.error fault, after)) :
    (first >>= next) observed = some (.error fault, after) := by
  change (first observed >>= fun answer => ExceptT.bindCont next answer.1 answer.2) = _
  rw [failed]
  rfl

namespace Answers

variable {start : Nat → Recursion σ α} {further : Nat → α → Recursion σ β}

theorem of_some {answer : Except RunError α × Observed σ} (done : first observed = some answer) :
    Answers (fun _ => first) observed answer := ⟨0, fun _ _ => done⟩

theorem of_succ {answer : Except RunError α × Observed σ}
    (later : Answers (fun depth => start (depth + 1)) observed answer) :
    Answers start observed answer := by
  obtain ⟨least, done⟩ := later
  refine ⟨least + 1, fun depth deep => ?_⟩
  cases depth with
  | zero => omega
  | succ depth => exact done depth (Nat.le_of_succ_le_succ deep)

theorem bind_ok {a : α} {answer : Except RunError β × Observed σ}
    (begun : Answers start observed (.ok a, after))
    (rest : Answers (fun depth => further depth a) after answer) :
    Answers (fun depth => start depth >>= further depth) observed answer := by
  obtain ⟨least, done⟩ := begun
  obtain ⟨more, ended⟩ := rest
  refine ⟨max least more, fun depth deep => ?_⟩
  exact (bind_of_ok (done depth (by omega))).trans (ended depth (by omega))

theorem bind_error {fault : RunError} (failed : Answers start observed (.error fault, after)) :
    Answers (fun depth => start depth >>= further depth) observed (.error fault, after) := by
  obtain ⟨least, done⟩ := failed
  exact ⟨least, fun depth deep => bind_of_error (done depth deep)⟩

end Answers

variable [Sink σ] {env : Env} {callee : String} {args : List Int64}
  {declaration : Declaration Stmt}

theorem call_of_unresolved {fault : FunctionError}
    (stray : env.table.resolve callee args.length = .error fault) :
    Answers (fun depth => call env depth callee args) observed
      (.error (.function fault), observed) := by
  refine .of_succ ⟨0, fun depth _ => ?_⟩
  dsimp only
  rw [call, stray]
  rfl

theorem call_of_deep (found : env.table.resolve callee args.length = .ok declaration)
    (deep : ¬observed.machine.frames.length < env.limits.callDepth) :
    Answers (fun depth => call env depth callee args) observed
      (.error (.callDepthExceeded env.limits.callDepth), observed) := by
  refine .of_succ ⟨0, fun depth _ => ?_⟩
  dsimp only
  rw [call, found]
  exact bind_of_error (if_neg deep)

theorem call_of_shallow (found : env.table.resolve callee args.length = .ok declaration)
    (shallow : observed.machine.frames.length < env.limits.callDepth)
    {outcome : Except RunError Unit}
    (ran : Answers (fun depth => exec env depth declaration.body)
      (observed.enter { params := declaration.params.zip args }) (outcome, after)) :
    Answers (fun depth => call env depth callee args) observed
      (outcome.map fun _ => after.machine.result, after.leave) := by
  obtain ⟨least, done⟩ := ran
  refine .of_succ ⟨least, fun depth deep => ?_⟩
  dsimp only at done ⊢
  rw [call, found]
  refine (bind_of_ok (if_pos shallow)).trans ?_
  change (exec env depth declaration.body
    (observed.enter { params := declaration.params.zip args }) >>=
      fun answer => leave answer.1 answer.2) = _
  rw [done depth deep]
  rfl

end Recursion

section

variable [Sink σ] {limits : Limits} {sink : σ} {room middle rest pending owed due : Nat}
  {machine : Machine σ} {observed : Observed σ}

namespace Agrees

theorem mono (agrees : Agrees limits sink room pending machine observed) (wider : room ≤ rest)
    (fewer : due ≤ pending) : Agrees limits sink rest due machine observed where
  toSound := agrees.toSound
  same := agrees.same
  counter := agrees.counter
  within := Nat.lt_of_lt_of_le agrees.within wider
  paid := Nat.le_trans (Nat.add_le_add_left fewer _) agrees.paid

theorem inTime (agrees : Agrees limits sink room pending machine observed) :
    observed.begun ≤ limits.steps := by
  have counted := agrees.counted
  have counter := agrees.counter
  omega

theorem move (agrees : Agrees limits sink room pending machine observed) {after : Machine σ}
    (steps : after.stepsLeft = machine.stepsLeft) (sunk : after.sink = machine.sink) :
    Agrees limits sink room pending after { observed with machine := after.withSteps 0 } where
  counted := agrees.counted
  shallow := agrees.shallow
  sunk := (sunk.trans (congrArg Machine.sink agrees.same).symm).trans agrees.sunk
  same := rfl
  counter := steps ▸ agrees.counter
  within := steps ▸ agrees.within
  paid := agrees.paid

theorem frames (agrees : Agrees limits sink room pending machine observed) :
    observed.machine.frames = machine.frames := by
  rw [agrees.same, Machine.withSteps_frames]

theorem enter (agrees : Agrees limits sink room pending machine observed) (frame : Frame)
    (shallow : machine.frames.length < limits.callDepth) :
    Agrees limits sink room pending (machine.enter frame) (observed.enter frame) where
  counted := agrees.counted.trans (observed.begun_enter frame).symm
  shallow depth inside := by
    cases List.mem_cons.1 inside with
    | inl last =>
      cases last
      rw [Machine.enter, agrees.frames]
      exact shallow
    | inr before => exact agrees.shallow depth before
  sunk := agrees.sunk
  same := congrArg (Machine.enter frame) agrees.same
  counter := agrees.counter
  within := agrees.within
  paid := agrees.paid.trans_eq (observed.begun_enter frame).symm

theorem leave (agrees : Agrees limits sink room pending machine observed) :
    Agrees limits sink room pending machine.leave observed.leave where
  counted := agrees.counted
  shallow := agrees.shallow
  sunk := agrees.sunk
  same := congrArg Machine.leave agrees.same
  counter := agrees.counter
  within := agrees.within
  paid := agrees.paid

theorem halts (agrees : Agrees limits sink room pending machine observed) {fault : RunError}
    (explained : observed.Explains limits fault) : Halts limits sink fault machine observed where
  toSound := agrees.toSound
  same := agrees.same
  explained := explained
  printed := by
    have paid := agrees.paid
    have inTime := agrees.inTime
    omega

end Agrees

theorem Halts.leave {fault : RunError} (halts : Halts limits sink fault machine observed) :
    Halts limits sink fault machine.leave observed.leave where
  counted := halts.counted
  shallow := halts.shallow
  sunk := halts.sunk
  same := congrArg Machine.leave halts.same
  explained := by
    have explained := halts.explained
    cases fault <;> exact explained
  printed := halts.printed

namespace ComesBack

theorem mono {run : Exec σ α} {recursion : Nat → Recursion σ α}
    (comesBack : ComesBack limits sink room pending run recursion middle owed)
    (wider : middle ≤ rest) (fewer : due ≤ owed) :
    ComesBack limits sink room pending run recursion rest due := by
  intro machine observed agrees
  obtain ⟨answer, done, alike⟩ := comesBack machine observed agrees
  refine ⟨answer, done, ?_⟩
  generalize run machine = answered at alike
  cases alike with
  | ok agrees => exact .ok (agrees.mono wider fewer)
  | error halts => exact .error halts

theorem of_succ {run : Exec σ α} {recursion : Nat → Recursion σ α}
    (later : ComesBack limits sink room pending run (fun depth => recursion (depth + 1)) rest due) :
    ComesBack limits sink room pending run recursion rest due := by
  intro machine observed agrees
  obtain ⟨answer, done, alike⟩ := later machine observed agrees
  exact ⟨answer, done.of_succ, alike⟩

theorem bind {first : Exec σ α} {next : α → Exec σ β} {first' : Nat → Recursion σ α}
    {next' : Nat → α → Recursion σ β}
    (start : ComesBack limits sink room pending first first' middle owed)
    (further : ∀ a, ComesBack limits sink middle owed (next a) (fun depth => next' depth a)
      rest due) :
    ComesBack limits sink room pending (first >>= next) (fun depth => first' depth >>= next' depth)
      rest due := by
  intro machine observed agrees
  obtain ⟨answer, done, alike⟩ := start machine observed agrees
  rw [bind_apply]
  generalize first machine = answered at alike
  cases alike with
  | ok agrees =>
    obtain ⟨answer, ended, alike⟩ := further _ _ _ agrees
    exact ⟨answer, done.bind_ok ended, alike⟩
  | error halts => exact ⟨_, done.bind_error, .error halts⟩

theorem of_some {run : Exec σ α} {recursion : Recursion σ α}
    (comesBack : ∀ machine observed, Agrees limits sink room pending machine observed →
      ∃ answer, recursion observed = some answer ∧
        AnswersAlike limits sink rest due (run machine) answer) :
    ComesBack limits sink room pending run (fun _ => recursion) rest due := by
  intro machine observed agrees
  obtain ⟨answer, done, alike⟩ := comesBack machine observed agrees
  exact ⟨answer, .of_some done, alike⟩

theorem pure (a : α) :
    ComesBack limits sink room pending (Pure.pure a) (fun _ => Pure.pure a) room pending :=
  of_some fun _ _ agrees => ⟨_, rfl, .ok agrees⟩

theorem of_no_room (run : Exec σ α) (recursion : Nat → Recursion σ α) :
    ComesBack limits sink 0 pending run recursion rest due :=
  fun _ _ agrees => absurd agrees.within (Nat.not_lt_zero _)

theorem of_spends {run : Exec σ α} {recursion : Nat → Recursion σ α}
    (spends : ∀ below < room, ComesBack limits sink (below + 1) pending run recursion below
      pending) :
    ComesBack limits sink room pending run recursion room pending := by
  cases room with
  | zero => exact of_no_room run recursion
  | succ below => exact (spends below (Nat.lt_succ_self below)).mono (Nat.le_succ below) le_rfl

theorem perform {done : Exec σ α} (plain : Plain done) :
    ComesBack limits sink room pending done (fun _ => Recursion.perform done) room pending := by
  refine of_some fun machine observed agrees => ?_
  have blind := plain.blind 0 machine
  have moved := agrees.move (stepsLeft_of_blind fun steps => plain.blind steps machine)
    (plain.sink machine)
  simp only [Recursion.perform, agrees.same, blind]
  cases answered : done machine with
  | ok a after =>
    rw [answered] at moved
    exact ⟨_, rfl, .ok moved⟩
  | error fault after =>
    rw [answered] at moved
    exact ⟨_, rfl, .error (moved.halts
      (Observed.explains_of_not_limit (plain.fault answered) moved.inTime))⟩

theorem count (small : limits.steps + 1 < UInt64.size) :
    ComesBack limits sink (room + 1) pending (step limits) (fun _ => Recursion.count limits) room
      (pending + 1) := by
  apply of_some
  rintro ⟨globals, frames, stepsLeft, now⟩ observed agrees
  have counter : observed.counter.toNat + stepsLeft = limits.steps := agrees.counter
  have counted := agrees.counted
  have paid := agrees.paid
  have next : observed.tick.counter.toNat = observed.counter.toNat + 1 := by
    change (observed.counter + 1).toNat = _
    rw [UInt64.toNat_add]
    exact Nat.mod_eq_of_lt (by change _ + 1 < UInt64.size; omega)
  have late : UInt64.ofNat limits.steps < observed.tick.counter ↔ stepsLeft = 0 := by
    rw [UInt64.lt_iff_toNat_lt, next, UInt64.toNat_ofNat_of_lt' (Nat.lt_of_succ_lt small)]
    omega
  have sound : observed.tick.Sound limits sink := {
    counted := by rw [next, Observed.begun_tick, counted]
    shallow := fun depth inside =>
      agrees.shallow depth ((List.mem_cons.1 inside).resolve_left nofun)
    sunk := agrees.sunk }
  have printed : observed.tick.printed = observed.printed := rfl
  rw [Recursion.count]
  cases stepsLeft with
  | zero =>
    rw [if_pos (late.2 rfl)]
    refine ⟨_, rfl, .error ?_⟩
    exact {
      toSound := sound
      same := agrees.same
      explained := ⟨rfl, by rw [Observed.begun_tick]; omega, rfl⟩
      printed := by rw [printed]; omega }
  | succ stepsLeft =>
    rw [if_neg (mt late.1 (Nat.succ_ne_zero _))]
    refine ⟨_, rfl, .ok ?_⟩
    exact {
      toSound := sound
      same := agrees.same
      counter := by rw [next]; change _ + stepsLeft = _; omega
      within := Nat.lt_of_succ_lt_succ agrees.within
      paid := by rw [printed, Observed.begun_tick]; omega }

theorem print (value : Int64) :
    ComesBack limits sink room (pending + 1) (put value) (fun _ => Recursion.print value) room
      pending := by
  apply of_some
  rintro ⟨globals, frames, stepsLeft, now⟩ observed agrees
  have paid := agrees.paid
  have sunk : now = Sink.putAll sink observed.printed :=
    (congrArg Machine.sink agrees.same).symm.trans agrees.sunk
  have handed (after : σ) (taken : (Sink.put value now).1 = after) :
      Agrees limits sink room pending ⟨globals, frames, stepsLeft, after⟩
        { observed.note (.printed value) with machine := ⟨globals, frames, 0, after⟩ } := {
    counted := agrees.counted.trans (observed.begun_printed value).symm
    shallow := fun depth inside =>
      agrees.shallow depth ((List.mem_cons.1 inside).resolve_left nofun)
    sunk := by
      subst taken
      rw [sunk]
      rfl
    same := rfl
    counter := agrees.counter
    within := agrees.within
    paid := by
      change observed.printed.length + 1 + pending ≤ (observed.note (.printed value)).begun
      rw [observed.begun_printed]
      omega }
  have same : (observed.note (.printed value)).machine = ⟨globals, frames, 0, now⟩ := agrees.same
  simp only [Recursion.print, Recursion.perform, same, put]
  cases taken : Sink.put value now with
  | mk after reason? =>
    have handed := handed after (congrArg Prod.fst taken)
    cases reason? with
    | none => exact ⟨_, rfl, .ok handed⟩
    | some reason => exact ⟨_, rfl, .error (handed.halts handed.inTime)⟩

theorem call {env : Env} {run : Stmt → Exec σ Unit} (callee : String) (args : List Int64)
    (bodies : ∀ stmt, ComesBack env.limits sink room pending (run stmt)
      (fun depth => Recursion.exec env depth stmt) room pending) :
    ComesBack env.limits sink room pending (call env run callee args)
      (fun depth => Recursion.call env depth callee args) room pending := by
  intro machine observed agrees
  cases found : env.table.resolve callee args.length with
  | error fault =>
    rw [call_of_unresolved found]
    exact ⟨_, Recursion.call_of_unresolved found, .error (agrees.halts agrees.inTime)⟩
  | ok declaration =>
    by_cases shallow : machine.frames.length < env.limits.callDepth
    · obtain ⟨⟨outcome, after⟩, done, alike⟩ :=
        bodies declaration.body _ _ (agrees.enter { params := declaration.params.zip args } shallow)
      refine ⟨_, Recursion.call_of_shallow found (agrees.frames ▸ shallow) done, ?_⟩
      rw [call_of_shallow found shallow, within]
      generalize run declaration.body _ = answered at alike
      cases alike with
      | ok agrees =>
        rw [agrees.same]
        exact .ok agrees.leave
      | error halts => exact .error halts.leave
    · rw [call_of_deep found shallow]
      exact ⟨_, Recursion.call_of_deep found (agrees.frames ▸ shallow),
        .error (agrees.halts ⟨rfl, agrees.inTime⟩)⟩

mutual

theorem eval_of {env : Env} {call : String → List Int64 → Exec σ Int64}
    (calls : ∀ callee args, ComesBack limits sink room pending (call callee args)
      (fun depth => Recursion.call env depth callee args) room pending) (expr : Expr) :
    ComesBack limits sink room pending (expr.eval call) (fun depth => Recursion.eval env depth expr)
      room pending := by
  apply of_succ
  match expr with
  | .num digits =>
    simp only [Expr.eval, Recursion.eval]
    exact .pure _
  | .var name =>
    simp only [Expr.eval, Recursion.eval]
    exact .perform (plain_load name)
  | .binary op left right =>
    simp only [Expr.eval, Recursion.eval]
    exact (eval_of calls left).bind fun a =>
      (eval_of calls right).bind fun b => .perform (plain_operate op a b)
  | .call callee args =>
    simp only [Expr.eval, Recursion.eval]
    exact (evalAll_of calls args).bind fun values => calls callee values

theorem evalAll_of {env : Env} {call : String → List Int64 → Exec σ Int64}
    (calls : ∀ callee args, ComesBack limits sink room pending (call callee args)
      (fun depth => Recursion.call env depth callee args) room pending) (args : List Expr) :
    ComesBack limits sink room pending (Expr.evalAll call args)
      (fun depth => Recursion.evalAll env depth args) room pending := by
  apply of_succ
  match args with
  | [] =>
    simp only [Expr.evalAll, Recursion.evalAll]
    exact .pure _
  | arg :: args =>
    simp only [Expr.evalAll, Recursion.evalAll]
    exact (eval_of calls arg).bind fun value =>
      (evalAll_of calls args).bind fun values => .pure _

end

theorem rounds {env : Env} {cond : Expr} {body : Stmt} {evalCond : Exec σ Int64}
    {execBody : Exec σ Unit} {count : Nat}
    (conds : ∀ room ≤ count, ComesBack limits sink room pending evalCond
      (fun depth => Recursion.eval env depth cond) room pending)
    (bodies : ∀ room < count, ComesBack limits sink (room + 1) pending execBody
      (fun depth => Recursion.exec env depth body) room pending) (fits : room ≤ count) :
    ComesBack limits sink room pending (repeatWhile limits evalCond execBody count)
      (fun depth => Recursion.rounds env depth cond body) room pending := by
  induction count generalizing room with
  | zero =>
    cases fits
    exact of_no_room _ _
  | succ count ih =>
    cases room with
    | zero => exact of_no_room _ _
    | succ room =>
      apply of_succ
      simp only [repeatWhile_eq_bind, Recursion.rounds]
      refine (conds (room + 1) fits).bind fun value => ?_
      by_cases zero : value = 0
      · simp only [if_pos zero]
        exact .pure ()
      · simp only [if_neg zero]
        refine (bodies room fits).bind fun _ => mono (ih ?_ ?_ ?_) (Nat.le_succ room) le_rfl
        · exact fun room fits => conds room (Nat.le_succ_of_le fits)
        · exact fun room fits => bodies room (Nat.lt_succ_of_lt fits)
        · exact Nat.le_of_succ_le_succ fits

theorem exec {env : Env} (small : env.limits.steps + 1 < UInt64.size) {bound : Nat} (stmt : Stmt)
    (fits : room ≤ bound) :
    ComesBack env.limits sink (room + 1) pending (stmt.exec env bound)
      (fun depth => Recursion.exec env depth stmt) room pending := by
  have start : ComesBack env.limits sink (room + 1) pending (step env.limits)
      (fun _ => Recursion.count env.limits) room (pending + 1) := count small
  apply of_succ
  induction bound generalizing stmt room pending with
  | zero =>
    cases fits
    intro machine observed agrees
    -- the bound is met only where no step is left, and there the step itself fails
    have spent : machine.stepsLeft = 0 := Nat.lt_one_iff.1 agrees.within
    have stopped : stmt.exec env 0 machine =
        (step env.limits >>= fun _ => (Pure.pure () : Exec σ Unit)) machine := by
      obtain ⟨globals, frames, stepsLeft, now⟩ := machine
      cases spent
      rfl
    simp only [Recursion.exec]
    rw [stopped]
    exact start.bind (fun _ => of_no_room _ _) machine observed agrees
  | succ bound ih =>
    have start' := start.mono le_rfl (Nat.le_succ pending)
    have spends (stmt : Stmt) {below : Nat} (fits : below ≤ bound) {pending : Nat} :
        ComesBack env.limits sink (below + 1) pending (stmt.exec env bound)
          (fun depth => Recursion.exec env depth stmt) below pending :=
      of_succ (ih stmt fits (count small))
    have inner (stmt : Stmt) {room : Nat} (fits : room ≤ bound + 1) {pending : Nat} :
        ComesBack env.limits sink room pending (stmt.exec env bound)
          (fun depth => Recursion.exec env depth stmt) room pending :=
      of_spends fun below inside =>
        spends stmt (Nat.le_of_lt_succ (Nat.lt_of_lt_of_le inside fits))
    have eval (expr : Expr) {room : Nat} (fits : room ≤ bound + 1) {pending : Nat} :
        ComesBack env.limits sink room pending (expr.eval (callAt env bound))
          (fun depth => Recursion.eval env depth expr) room pending :=
      eval_of (fun callee args => call callee args fun stmt => inner stmt fits) expr
    rw [Stmt.exec]
    simp only [Recursion.exec]
    cases stmt with
    | assign target value =>
      exact start'.bind fun _ => (eval value fits).bind fun v =>
        (perform (plain_store target v)).bind fun _ => .perform (plain_record v)
    | print value =>
      exact start.bind fun _ => (eval value fits).bind fun v =>
        (print v).bind fun _ => .perform (plain_record v)
    | ifThen cond body =>
      refine start'.bind fun _ => (eval cond fits).bind fun v => ?_
      split
      · exact .pure ()
      · exact inner body fits
    | ifElse cond body other =>
      refine start'.bind fun _ => (eval cond fits).bind fun v => ?_
      split
      · exact inner other fits
      · exact inner body fits
    | loop cond body =>
      refine start'.bind fun _ => rounds (fun room fits => eval cond fits) ?_ fits
      exact fun room fits => spends body (Nat.le_of_lt_succ fits)
    | function name params body => exact start'.bind fun _ => .pure ()

theorem execAll (env : Env) (small : env.limits.steps + 1 < UInt64.size) {bound : Nat}
    (stmts : List Stmt) (fits : room ≤ bound + 1) :
    ComesBack env.limits sink room pending (Stmt.execAll env bound stmts)
      (fun depth => Recursion.execAll env depth stmts) room pending := by
  induction stmts with
  | nil => exact .pure ()
  | cons stmt stmts ih =>
    simp only [Stmt.execAll, Recursion.execAll]
    refine (of_spends fun below inside => ?_).bind fun _ => ih
    exact exec small stmt (Nat.le_of_lt_succ (Nat.lt_of_lt_of_le inside fits))

end ComesBack

theorem agrees_start (limits : Limits) (sink : σ) :
    Agrees limits sink (limits.steps + 1) 0 { stepsLeft := limits.steps, sink }
      (.start sink) where
  counted := rfl
  shallow _ inside := nomatch inside
  sunk := rfl
  same := rfl
  counter := Nat.zero_add _
  within := Nat.lt_succ_self _
  paid := le_rfl

end

theorem LinkError.isLimit_toRunError (fault : LinkError) : fault.toRunError.isLimit = false := by
  cases fault <;> rfl

/-- What the record of a whole run says next to its answer. The record is sound, so the counter
has not wrapped around and no call was entered beyond the limit. -/
structure Observed.Accounts [Sink σ] (limits : Limits) (sink : σ) (answer : Except RunError Unit)
    (observed : Observed σ) : Prop extends observed.Sound limits sink where
  begun_le : observed.begun ≤ limits.steps + 1
  begun_eq_iff : observed.begun = limits.steps + 1 ↔
    answer = .error (.stepLimitExceeded limits.steps)
  last_begun : observed.begun = limits.steps + 1 → observed.events.head? = some .begun
  printed_le : observed.printed.length ≤ limits.steps
  steps_eq : ∀ steps, answer = .error (.stepLimitExceeded steps) → steps = limits.steps
  depth_eq : ∀ depth, answer = .error (.callDepthExceeded depth) → depth = limits.callDepth

section

variable [Sink σ] {limits : Limits} {sink : σ} {observed : Observed σ}
  {answer : Except RunError Unit}

theorem Observed.Sound.accounts (sound : observed.Sound limits sink)
    (inTime : observed.begun ≤ limits.steps)
    (printed : observed.printed.length ≤ limits.steps)
    (other : ∀ steps, answer ≠ .error (.stepLimitExceeded steps))
    (depth : ∀ depth, answer = .error (.callDepthExceeded depth) → depth = limits.callDepth) :
    observed.Accounts limits sink answer where
  toSound := sound
  begun_le := Nat.le_succ_of_le inTime
  begun_eq_iff := iff_of_false (by omega) (other limits.steps)
  last_begun late := by omega
  printed_le := printed
  steps_eq steps stopped := absurd stopped (other steps)
  depth_eq := depth

theorem Agrees.accounts {room pending : Nat} {machine : Machine σ}
    (agrees : Agrees limits sink room pending machine observed) :
    observed.Accounts limits sink (.ok ()) := by
  have paid := agrees.paid
  have inTime := agrees.inTime
  exact agrees.toSound.accounts inTime (by omega) nofun nofun

theorem Halts.accounts {fault : RunError} {machine : Machine σ}
    (halts : Halts limits sink fault machine observed) :
    observed.Accounts limits sink (.error fault) := by
  have explained := halts.explained
  cases fault with
  | stepLimitExceeded steps =>
    obtain ⟨rfl, begun, last⟩ := explained
    exact {
      toSound := halts.toSound
      begun_le := begun.le
      begun_eq_iff := iff_of_true begun rfl
      last_begun := fun _ => last
      printed_le := halts.printed
      steps_eq := fun steps same => by cases same; rfl
      depth_eq := nofun }
  | callDepthExceeded depth =>
    obtain ⟨rfl, inTime⟩ := explained
    exact halts.toSound.accounts inTime halts.printed nofun fun depth same => by cases same; rfl
  | _ => exact halts.toSound.accounts explained halts.printed nofun nofun

theorem AnswersAlike.outcome {room pending : Nat} {answered : Answer σ Unit}
    (alike : AnswersAlike limits sink room pending answered (answer, observed)) :
    Exec.outcome answered = (answer, observed.machine.sink) ∧
      observed.Accounts limits sink answer := by
  cases alike with
  | ok agrees => exact ⟨by rw [agrees.same]; rfl, agrees.accounts⟩
  | error halts => exact ⟨by rw [halts.same]; rfl, halts.accounts⟩

/-- Every run ends. Whatever the tree, the limits and the sink, if only the limit on the steps is
small enough for the counter: the plain recursion comes back, and with what the bounded execution
gives. On its way at most one statement more is begun than there may be steps, and that one does
nothing but fail; the counter never wraps around; no more values are printed than there may be
steps; no call is entered beyond the limit on the calls; and the faults of both limits name the
limits that were given. -/
theorem Tree.run_ends (tree : Tree) (limits : Limits) (sink : σ)
    (small : limits.steps + 1 < UInt64.size) :
    ∃ answer observed,
      Recursion.Answers (tree.recursion limits) (.start sink) (answer, observed) ∧
      tree.run limits sink = (answer, observed.machine.sink) ∧
      observed.Accounts limits sink answer := by
  have start := agrees_start limits sink
  unfold recursion run
  cases Linked.ofTree tree with
  | error fault =>
    refine ⟨.error fault.toRunError, .start sink, .of_some rfl, rfl, ?_⟩
    exact (start.halts (Observed.explains_of_not_limit fault.isLimit_toRunError
      start.inTime)).accounts
  | ok linked =>
    have comesBack : ComesBack limits sink (limits.steps + 1) 0
        (Stmt.execAll ⟨linked.table, limits⟩ limits.steps linked.program.statements)
        (fun depth => Recursion.execAll ⟨linked.table, limits⟩ depth linked.program.statements)
        (limits.steps + 1) 0 := .execAll ⟨linked.table, limits⟩ small _ le_rfl
    obtain ⟨⟨answer, observed⟩, done, alike⟩ := comesBack _ _ start
    refine ⟨answer, observed, done, ?_⟩
    dsimp only
    rw [Linked.run_eq_outcome]
    exact alike.outcome

end

/-- A loop without end prints in all but one of the steps it may take, and the statement beyond
them is the last one begun. A function that calls itself without end is stopped at the second
call. -/
theorem Tree.run_ends_endless :
    let limits : Limits := { steps := 9, callDepth := 2 }
    let spinning := Program.toTree ⟨[.loop (.num "1") (.print (.num "7"))]⟩
    let nesting := Program.toTree
      ⟨[.function "f" [] (.print (.call "f" [])), .print (.call "f" [])]⟩
    let start : Observed (Array Int64) := .start #[]
    limits.steps + 1 < UInt64.size ∧
    (∃ observed, Recursion.Answers (spinning.recursion limits) start
        (.error (.stepLimitExceeded 9), observed) ∧
      observed.begun = 10 ∧ observed.machine.sink = #[7, 7, 7, 7, 7, 7, 7, 7]) ∧
    ∃ observed, Recursion.Answers (nesting.recursion limits) start
        (.error (.callDepthExceeded 2), observed) ∧
      ∀ depth, .entered depth ∈ observed.events → depth ≤ 2 := by
  intro limits spinning nesting start
  have small : limits.steps + 1 < UInt64.size := by decide
  have spun : spinning.run limits (#[] : Array Int64) =
      (.error (.stepLimitExceeded 9), #[7, 7, 7, 7, 7, 7, 7, 7]) := by rfl
  have nested : nesting.run limits (#[] : Array Int64) = (.error (.callDepthExceeded 2), #[]) := by
    rfl
  refine ⟨small, ?_, ?_⟩
  · obtain ⟨answer, observed, done, same, accounts⟩ :=
      run_ends spinning limits (#[] : Array Int64) small
    obtain ⟨rfl, sunk⟩ := Prod.mk.inj (same.symm.trans spun)
    exact ⟨observed, done, accounts.begun_eq_iff.2 rfl, sunk⟩
  · obtain ⟨answer, observed, done, same, accounts⟩ :=
      run_ends nesting limits (#[] : Array Int64) small
    obtain ⟨rfl, -⟩ := Prod.mk.inj (same.symm.trans nested)
    exact ⟨observed, done, accounts.shallow⟩

end ImpToC
