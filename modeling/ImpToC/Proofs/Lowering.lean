import ImpToC.Proofs.Correspondence

/-! A generated file does what the walk of its program does, part by part: where the walk
gives a value, so does the code it was lowered to, where the walk divides by zero the file
exits, and where the walk runs out of rounds so does the run. With the same number of
rounds the two never part. -/
namespace ImpToC

open C (Value State Stop Flow)
open Exec (callWithin)

mutual

theorem Expr.lower_le (expr : Expr) {next high : Nat} {code : List C.Stmt} {operand : C.Expr}
    (lowered : expr.lower next = (code, operand, high)) : next ≤ high := by
  match expr with
  | .num digits =>
    simp only [Expr.lower, Prod.mk.injEq] at lowered
    omega
  | .var name =>
    simp only [Expr.lower, Prod.mk.injEq] at lowered
    omega
  | .binary op left right =>
    rcases leftLowered : left.lower next with ⟨leftCode, leftOperand, middle⟩
    rcases rightLowered : right.lower middle with ⟨rightCode, rightOperand, last⟩
    have first := Expr.lower_le left leftLowered
    have second := Expr.lower_le right rightLowered
    simp only [Expr.lower, leftLowered, rightLowered, Prod.mk.injEq] at lowered
    omega
  | .call callee args =>
    rcases argsLowered : Expr.lowerAll args next with ⟨argsCode, operands, last⟩
    have first := Expr.lowerAll_le args argsLowered
    simp only [Expr.lower, argsLowered, Prod.mk.injEq] at lowered
    omega

theorem Expr.lowerAll_le (args : List Expr) {next high : Nat} {code : List C.Stmt}
    {operands : List C.Expr} (lowered : Expr.lowerAll args next = (code, operands, high)) :
    next ≤ high := by
  match args with
  | [] =>
    simp only [Expr.lowerAll, Prod.mk.injEq] at lowered
    omega
  | arg :: args =>
    rcases argLowered : arg.lower next with ⟨argCode, operand, middle⟩
    rcases restLowered : Expr.lowerAll args middle with ⟨restCode, rest, last⟩
    have first := Expr.lower_le arg argLowered
    have second := Expr.lowerAll_le args restLowered
    simp only [Expr.lowerAll, argLowered, restLowered, Prod.mk.injEq] at lowered
    omega

end

theorem Stmt.lower_le (keep : Bool) (stmt : Stmt) {next high : Nat} {code : List C.Stmt}
    (lowered : stmt.lower keep next = (code, high)) : next ≤ high := by
  induction stmt generalizing next high code with
  | assign target value =>
    rcases valueLowered : value.lower next with ⟨valueCode, operand, last⟩
    have first := Expr.lower_le value valueLowered
    simp only [Stmt.lower, valueLowered, Prod.mk.injEq] at lowered
    omega
  | print value =>
    rcases valueLowered : value.lower next with ⟨valueCode, operand, last⟩
    have first := Expr.lower_le value valueLowered
    simp only [Stmt.lower, valueLowered, Prod.mk.injEq] at lowered
    omega
  | ifThen cond body ih =>
    rcases condLowered : cond.lower next with ⟨condCode, operand, middle⟩
    rcases bodyLowered : body.lower keep middle with ⟨bodyCode, last⟩
    have first := Expr.lower_le cond condLowered
    have second := ih bodyLowered
    simp only [Stmt.lower, condLowered, bodyLowered, Prod.mk.injEq] at lowered
    omega
  | ifElse cond body other ihBody ihOther =>
    rcases condLowered : cond.lower next with ⟨condCode, operand, middle⟩
    rcases bodyLowered : body.lower keep middle with ⟨bodyCode, second⟩
    rcases otherLowered : other.lower keep second with ⟨otherCode, last⟩
    have condLe := Expr.lower_le cond condLowered
    have bodyLe := ihBody bodyLowered
    have otherLe := ihOther otherLowered
    simp only [Stmt.lower, condLowered, bodyLowered, otherLowered, Prod.mk.injEq] at lowered
    omega
  | loop cond body ih =>
    rcases condLowered : cond.lower next with ⟨condCode, operand, middle⟩
    rcases bodyLowered : body.lower keep middle with ⟨bodyCode, last⟩
    have first := Expr.lower_le cond condLowered
    have second := ih bodyLowered
    simp only [Stmt.lower, condLowered, bodyLowered, Prod.mk.injEq] at lowered
    omega
  | function name params body ih =>
    simp only [Stmt.lower, Prod.mk.injEq] at lowered
    omega

theorem Expr.lowerAll_length (args : List Expr) {next high : Nat} {code : List C.Stmt}
    {operands : List C.Expr} (lowered : Expr.lowerAll args next = (code, operands, high)) :
    operands.length = args.length := by
  induction args generalizing next high code operands with
  | nil =>
    simp only [Expr.lowerAll, Prod.mk.injEq] at lowered
    obtain ⟨-, rfl, -⟩ := lowered
    rfl
  | cons arg args ih =>
    rcases argLowered : arg.lower next with ⟨argCode, operand, middle⟩
    rcases restLowered : Expr.lowerAll args middle with ⟨restCode, rest, last⟩
    simp only [Expr.lowerAll, argLowered, restLowered, Prod.mk.injEq] at lowered
    obtain ⟨-, rfl, -⟩ := lowered
    rw [List.length_cons, List.length_cons, ih restLowered]

namespace Lower

/-- The fault of a walk, and how the file stops for it. -/
inductive Ends : RunError → Stop → Prop where
  | division : Ends .divisionByZero (.exited C.Prelude.divisionByZeroStatus)
  | exhausted : Ends Exec.exhausted .exhausted

variable {α β γ δ : Type}

/-- A walk and a run that started from corresponding states end alike: both go on and
`post` holds of what they give and leave, or both stop, having written the same. -/
def Simulates (post : α → Machine Writer → β → State → Prop) :
    Exec.Answer Writer α → EStateM.Result Stop State β → Prop
  | .ok a machine, .ok b state => post a machine b state
  | .error fault machine, .error stop state =>
    Ends fault stop ∧ machine.sink = { kept := state.out }
  | _, _ => False

namespace Simulates

variable {post : α → Machine Writer → β → State → Prop} {answer : Exec.Answer Writer α}
  {result : EStateM.Result Stop State β} {machine : Machine Writer} {state : State}

theorem mono {goal : α → Machine Writer → β → State → Prop}
    (simulates : Simulates post answer result)
    (implies : ∀ a machine b state, post a machine b state → goal a machine b state) :
    Simulates goal answer result := by
  cases answer <;> cases result
  · exact implies _ _ _ _ simulates
  all_goals exact simulates

theorem run_bind {goal : α → Machine Writer → δ → State → Prop} {run : C.Act β}
    {next : β → C.Act δ} (first : Simulates post answer (run state))
    (goesOn : ∀ a machine b state, post a machine b state →
      Simulates goal (.ok a machine) (next b state)) :
    Simulates goal answer ((run >>= next) state) := by
  cases ran : run state with
  | ok b later =>
    rw [C.Act.bind_of_ok ran]
    rw [ran] at first
    cases answer with
    | ok a after => exact goesOn a after b later first
    | error fault after => exact first.elim
  | error stop later =>
    rw [C.Act.bind_of_error ran]
    rw [ran] at first
    cases answer <;> exact first

theorem walk_bind {goal : γ → Machine Writer → β → State → Prop} {walk : Exec Writer α}
    {next : α → Exec Writer γ} (first : Simulates post (walk machine) result)
    (goesOn : ∀ a machine b state, post a machine b state →
      Simulates goal (next a machine) (.ok b state)) :
    Simulates goal ((walk >>= next) machine) result := by
  cases walked : walk machine with
  | ok a after =>
    rw [Exec.bind_of_ok walked]
    rw [walked] at first
    cases result with
    | ok b later => exact goesOn a after b later first
    | error stop later => exact first.elim
  | error fault after =>
    rw [Exec.bind_of_error walked]
    rw [walked] at first
    cases result <;> exact first

theorem bind {goal : γ → Machine Writer → δ → State → Prop} {walk : Exec Writer α}
    {run : C.Act β} {next : α → Exec Writer γ} {rest : β → C.Act δ}
    (first : Simulates post (walk machine) (run state))
    (goesOn : ∀ a machine b state, post a machine b state →
      Simulates goal (next a machine) (rest b state)) :
    Simulates goal ((walk >>= next) machine) ((run >>= rest) state) := by
  cases walked : walk machine with
  | ok a after =>
    rw [Exec.bind_of_ok walked]
    rw [walked] at first
    cases ran : run state with
    | ok b later =>
      rw [C.Act.bind_of_ok ran]
      rw [ran] at first
      exact goesOn a after b later first
    | error stop later =>
      rw [ran] at first
      exact first.elim
  | error fault after =>
    rw [Exec.bind_of_error walked]
    rw [walked] at first
    cases ran : run state with
    | ok b later =>
      rw [ran] at first
      exact first.elim
    | error stop later =>
      rw [C.Act.bind_of_error ran]
      rw [ran] at first
      exact first

theorem append {calls : C.Calls} {rounds : Nat} {post : α → Machine Writer → Flow → State → Prop}
    {goal : γ → Machine Writer → Flow → State → Prop} {walk : Exec Writer α}
    {next : α → Exec Writer γ} {code others : List C.Stmt}
    (first : Simulates post (walk machine) (C.Stmt.execAll calls rounds code state))
    (goesOn : ∀ a machine flow state, post a machine flow state → flow = .next ∧
      Simulates goal (next a machine) (C.Stmt.execAll calls rounds others state)) :
    Simulates goal ((walk >>= next) machine)
      (C.Stmt.execAll calls rounds (code ++ others) state) := by
  rw [C.Stmt.execAll_append]
  refine first.bind fun a after flow later holds => ?_
  obtain ⟨rfl, second⟩ := goesOn a after flow later holds
  exact second

theorem run_append {calls : C.Calls} {rounds : Nat}
    {post goal : α → Machine Writer → Flow → State → Prop} {code others : List C.Stmt}
    (first : Simulates post answer (C.Stmt.execAll calls rounds code state))
    (goesOn : ∀ a machine flow state, post a machine flow state → flow = .next ∧
      Simulates goal (.ok a machine) (C.Stmt.execAll calls rounds others state)) :
    Simulates goal answer (C.Stmt.execAll calls rounds (code ++ others) state) := by
  rw [C.Stmt.execAll_append]
  refine first.run_bind fun a after flow later holds => ?_
  obtain ⟨rfl, second⟩ := goesOn a after flow later holds
  exact second

end Simulates

/-- The part of a program that is being lowered: it is well spelled, and its calls and
variables are among those of the program. -/
structure Covers (linked : Linked) (valid : Bool) (calls : List CallSite) (vars : List String) :
    Prop where
  valid : valid = true
  calls : calls ⊆ linked.program.calls
  vars : vars ⊆ linked.program.vars

theorem Covers.mono {linked : Linked} {valid part : Bool} {calls someCalls : List CallSite}
    {vars someVars : List String} (covers : Covers linked valid calls vars)
    (spelled : valid = true → part = true) (fewerCalls : someCalls ⊆ calls)
    (fewerVars : someVars ⊆ vars) : Covers linked part someCalls someVars :=
  ⟨spelled covers.valid, List.Subset.trans fewerCalls covers.calls,
    List.Subset.trans fewerVars covers.vars⟩

theorem Covers.left {linked : Linked} {valid other : Bool} {calls otherCalls : List CallSite}
    {vars otherVars : List String}
    (covers : Covers linked (valid && other) (calls ++ otherCalls) (vars ++ otherVars)) :
    Covers linked valid calls vars :=
  covers.mono (fun both => (Bool.and_eq_true_iff.1 both).1) (List.subset_append_left ..)
    (List.subset_append_left ..)

theorem Covers.right {linked : Linked} {valid other : Bool} {calls otherCalls : List CallSite}
    {vars otherVars : List String}
    (covers : Covers linked (valid && other) (calls ++ otherCalls) (vars ++ otherVars)) :
    Covers linked other otherCalls otherVars :=
  covers.mono (fun both => (Bool.and_eq_true_iff.1 both).2) (List.subset_append_right ..)
    (List.subset_append_right ..)

/-- What an expression gives in a statement of its own: the value of the source, with
nothing of the running function changed. -/
structure Gives (vars : List String) (machine : Machine Writer) (state : State) (value : Int64)
    (after : Machine Writer) (result : Value) (later : State) : Prop where
  fits : result.convert? .longLong = some (.longLong value)
  shares : Shares vars after later
  frames : after.frames = machine.frames
  locals : later.locals = state.locals

/-- Calls of the file do what calls of the walk do, and leave the caller as it was. -/
def CallsMatch (linked : Linked) (rounds : Nat) : Prop :=
  ∀ (callee : String) (args : List Int64) (machine : Machine Writer) (state : State),
    ⟨callee, args.length⟩ ∈ linked.program.calls → Shares linked.program.vars machine state →
    Simulates
      (fun value after result? later => ∃ result, result? = some result ∧
        Gives linked.program.vars machine state value after result later)
      (callWithin linked.table rounds callee args machine)
      (linked.lower.call rounds (functionName callee) (args.map .longLong) state)

variable {linked : Linked} {rounds : Nat} {machine : Machine Writer} {state : State}

theorem find?_lower (linked : Linked) (name : String) :
    (linked.lower.functions.find? fun function => function.name == functionName name) =
      (linked.table.get? name).map Declaration.lower := by
  simp only [Linked.lower, List.find?_map, Table.get?_eq_find?]
  congr 2
  funext declaration
  rw [Bool.eq_iff_iff]
  simp only [Function.comp, Declaration.lower, beq_iff_eq, functionName_inj]

theorem call_of_not_functionName (linked : Linked) (rounds : Nat) {callee : String}
    (other : ∀ name, functionName name ≠ callee) (args : List Value) :
    linked.lower.call rounds callee args = linked.lower.preludeCall rounds callee args := by
  have none : (linked.lower.functions.find? fun function => function.name == callee) = none := by
    simp only [Linked.lower, List.find?_eq_none, List.mem_map, beq_iff_eq]
    rintro _ ⟨declaration, -, rfl⟩ same
    exact other declaration.name same
  cases rounds <;> simp only [C.File.call, none]

theorem operate_simulates {next : Nat} {left right : C.Expr} {a b : Int64}
    (leftHolds : Holds next state.locals left a) (rightHolds : Holds next state.locals right b)
    (shares : Shares linked.program.vars machine state) (op : Operator) :
    Simulates (Gives linked.program.vars machine state) (Exec.operate op a b machine)
      ((operation op left right).result (linked.lower.call rounds) state) := by
  have operands := values?_of_holds (.cons leftHolds (.cons rightHolds .nil))
  have prelude (arith : ArithOp) (args : List Value) :=
    call_of_not_functionName linked rounds (fun name => functionName_ne_arithName name arith) args
  cases result : op.result? a b with
  | some value =>
    simp only [Exec.operate, result]
    cases op with
    | arith op =>
      have called : linked.lower.call rounds (arithName op) [.longLong a, .longLong b] state =
          .ok (some (.longLong value)) state := by
        rw [prelude]
        exact C.Prelude.preludeCall_arith rfl result
      rw [operation, C.Expr.result_call operands called]
      exact ⟨Value.convert?_longLong value, shares, rfl, rfl⟩
    | rel op =>
      have compared : (operation (.rel op) left right).value? state =
          some (Value.ofBool (op.holds a b)) := by
        simp only [operation, C.Expr.value?, leftHolds.value?, rightHolds.value?,
          Option.bind_eq_bind, Option.bind_some, Value.operate?_rel]
      cases result
      rw [C.Expr.result_of_value? compared]
      exact ⟨Value.convert?_ofBool _, shares, rfl, rfl⟩
  | none =>
    obtain ⟨rfl, rfl⟩ := Operator.result?_eq_none_iff.1 result
    have called : linked.lower.preludeCall rounds (arithName .div) [.longLong a, .longLong 0]
        state = _ := C.Prelude.preludeCall_div_zero rfl a
    rw [← prelude] at called
    rw [operation, C.Expr.result_call_error operands called]
    exact ⟨.division, shares.sink⟩

/-- What evaluating an expression does: it changes no variable of the running function and
adds temporaries numbered from `low` up to but not including `high`. -/
structure Grows (vars : List String) (low high : Nat) (machine : Machine Writer) (state : State)
    (after : Machine Writer) (later : State) : Prop where
  shares : Shares vars after later
  frames : after.frames = machine.frames
  locals : ∃ added, later.locals = added ++ state.locals ∧ Temps low high (added.map Prod.fst)

namespace Grows

variable {vars : List String} {low middle high : Nat} {after last : Machine Writer}
  {later final : State} {callers? : Option (List Frame)}

theorem refl (shares : Shares vars machine state) :
    Grows vars low high machine state machine state :=
  ⟨shares, rfl, [], rfl, temps_nil⟩

theorem trans (first : Grows vars low middle machine state after later)
    (second : Grows vars middle high after later last final)
    (lower : low ≤ middle) (upper : middle ≤ high) :
    Grows vars low high machine state last final := by
  obtain ⟨added, grown, temps⟩ := first.locals
  obtain ⟨more, grownMore, tempsMore⟩ := second.locals
  refine ⟨second.shares, second.frames.trans first.frames, more ++ added, ?_, ?_⟩
  · rw [grownMore, grown, List.append_assoc]
  · rw [List.map_append]
    exact (tempsMore.mono lower (Nat.le_refl _)).append (temps.mono (Nat.le_refl _) upper)

theorem mirrors (grows : Grows vars low high machine state after later)
    (before : Mirrors callers? machine.frames state.locals) :
    Mirrors callers? after.frames later.locals := by
  obtain ⟨added, grown, temps⟩ := grows.locals
  rw [grows.frames, grown]
  exact before.push temps

theorem holds {operand : C.Expr} {value : Int64}
    (grows : Grows vars low high machine state after later)
    (before : Holds low state.locals operand value) (upper : low ≤ high) :
    Holds high later.locals operand value := by
  obtain ⟨added, grown, temps⟩ := grows.locals
  rw [grown]
  exact before.push temps upper

end Grows

theorem temp_simulates {vars : List String} {calls : C.Calls} {expr : C.Expr}
    {answer : Exec.Answer Writer Int64}
    (simulates : Simulates (Gives vars machine state) answer (expr.result calls state))
    (index : Nat) :
    Simulates
      (fun value after flow later => flow = .next ∧
        Grows vars index (index + 1) machine state after later ∧
        Holds (index + 1) later.locals (.ident (tempName index)) value)
      answer (C.Stmt.execAll calls rounds [temp index expr] state) := by
  rw [C.Stmt.execAll_singleton, temp, C.Stmt.exec]
  refine simulates.run_bind fun value after result later gives => ?_
  have declared : C.Act.update (State.declare? .longLong (tempName index) result) later =
      .ok () { later with locals := (tempName index, .longLong value) :: later.locals } := by
    simp only [C.Act.update, State.declare?, gives.fits]
    rfl
  have added : (tempName index, Value.longLong value) :: later.locals =
      [(tempName index, Value.longLong value)] ++ state.locals := by
    rw [gives.locals, List.singleton_append]
  rw [C.Act.bind_of_ok declared]
  exact ⟨rfl,
    ⟨⟨gives.shares.globals, gives.shares.sink⟩, gives.frames, _, added, temps_singleton index⟩,
    .temp (Nat.lt_succ_self index) (by simp)⟩

theorem call_simulates (callsMatch : CallsMatch linked rounds) {next : Nat} {callee : String}
    {operands : List C.Expr} {args : List Int64}
    (holds : List.Forall₂ (Holds next state.locals) operands args)
    (known : ⟨callee, args.length⟩ ∈ linked.program.calls)
    (shares : Shares linked.program.vars machine state) :
    Simulates (Gives linked.program.vars machine state)
      (callWithin linked.table rounds callee args machine)
      ((C.Expr.call (functionName callee) operands).result (linked.lower.call rounds) state) := by
  have simulates := callsMatch callee args machine state known shares
  rw [C.Expr.result, C.Act.bind_apply, C.Expr.eval_call (values?_of_holds holds),
    ← C.Act.bind_apply]
  refine simulates.run_bind fun value after result? later gives => ?_
  obtain ⟨result, rfl, gives⟩ := gives
  exact gives

theorem load_simulates {calls : C.Calls} {vars : List String} {callers? : Option (List Frame)}
    {name : String} (shares : Shares vars machine state)
    (mirrors : Mirrors callers? machine.frames state.locals) (known : name ∈ vars) :
    Simulates (Gives vars machine state) (Exec.load name machine)
      ((C.Expr.ident (variableName name)).result calls state) := by
  have value : (C.Expr.ident (variableName name)).value? state =
      some (.longLong (machine.load name)) := read?_variableName shares mirrors known
  rw [C.Expr.result_of_value? value]
  exact ⟨Value.convert?_longLong _, shares, rfl, rfl⟩

end Lower

open Lower

variable {linked : Linked} {rounds : Nat}

mutual

theorem Expr.lower_simulates (callsMatch : CallsMatch linked rounds) (expr : Expr)
    (covers : Covers linked expr.isValid expr.calls expr.vars) {next high : Nat}
    {code : List C.Stmt} {operand : C.Expr} (lowered : expr.lower next = (code, operand, high))
    {machine : Machine Writer} {state : State} {callers? : Option (List Frame)}
    (shares : Shares linked.program.vars machine state)
    (mirrors : Mirrors callers? machine.frames state.locals) :
    Simulates
      (fun value after flow later => flow = .next ∧
        Grows linked.program.vars next high machine state after later ∧
        Holds high later.locals operand value)
      (expr.eval (callWithin linked.table rounds) machine)
      (C.Stmt.execAll (linked.lower.call rounds) rounds code state) := by
  match expr with
  | .num digits =>
    simp only [Expr.lower, Prod.mk.injEq] at lowered
    obtain ⟨rfl, rfl, rfl⟩ := lowered
    simp only [Expr.eval, C.Stmt.execAll]
    exact ⟨rfl, .refl shares, .literal covers.valid⟩
  | .var name =>
    simp only [Expr.lower, Prod.mk.injEq] at lowered
    obtain ⟨rfl, rfl, rfl⟩ := lowered
    have known : name ∈ linked.program.vars := covers.vars (by simp [Expr.vars])
    rw [Expr.eval]
    exact temp_simulates (load_simulates shares mirrors known) next
  | .binary op left right =>
    rcases leftLowered : left.lower next with ⟨leftCode, leftOperand, middle⟩
    rcases rightLowered : right.lower middle with ⟨rightCode, rightOperand, last⟩
    have lower := Expr.lower_le left leftLowered
    have upper := Expr.lower_le right rightLowered
    simp only [Expr.lower, leftLowered, rightLowered, Prod.mk.injEq] at lowered
    obtain ⟨rfl, rfl, rfl⟩ := lowered
    simp only [Expr.eval, List.append_assoc]
    refine (Expr.lower_simulates callsMatch left covers.left leftLowered shares mirrors).append ?_
    rintro a leftAfter flow leftLater ⟨rfl, leftGrows, leftHolds⟩
    refine ⟨rfl, ?_⟩
    refine (Expr.lower_simulates callsMatch right covers.right rightLowered leftGrows.shares
      (leftGrows.mirrors mirrors)).append ?_
    rintro b rightAfter flow rightLater ⟨rfl, rightGrows, rightHolds⟩
    refine ⟨rfl, ?_⟩
    have both := leftGrows.trans rightGrows lower upper
    refine (temp_simulates (operate_simulates (rightGrows.holds leftHolds upper) rightHolds
      rightGrows.shares op) last).mono ?_
    rintro value after flow later ⟨rfl, grows, holds⟩
    exact ⟨rfl, both.trans grows (by omega) (by omega), holds⟩
  | .call callee args =>
    rcases argsLowered : Expr.lowerAll args next with ⟨argsCode, operands, last⟩
    have lower := Expr.lowerAll_le args argsLowered
    simp only [Expr.lower, argsLowered, Prod.mk.injEq] at lowered
    obtain ⟨rfl, rfl, rfl⟩ := lowered
    simp only [Expr.eval]
    refine (Expr.lowerAll_simulates callsMatch args
      (covers.mono (fun both => (Bool.and_eq_true_iff.1 both).2) (List.subset_cons_self ..)
        (List.Subset.refl _)) argsLowered shares mirrors).append ?_
    rintro values argsAfter flow argsLater ⟨rfl, argsGrow, argsHold⟩
    refine ⟨rfl, ?_⟩
    have known : ⟨callee, values.length⟩ ∈ linked.program.calls := by
      rw [← argsHold.length_eq, Expr.lowerAll_length args argsLowered]
      exact covers.calls (by simp [Expr.calls])
    refine (temp_simulates (call_simulates callsMatch argsHold known argsGrow.shares) last).mono ?_
    rintro value after flow later ⟨rfl, grows, holds⟩
    exact ⟨rfl, argsGrow.trans grows lower (by omega), holds⟩

theorem Expr.lowerAll_simulates (callsMatch : CallsMatch linked rounds) (args : List Expr)
    (covers : Covers linked (Expr.allValid args) (Expr.callsList args) (Expr.varsList args))
    {next high : Nat} {code : List C.Stmt} {operands : List C.Expr}
    (lowered : Expr.lowerAll args next = (code, operands, high))
    {machine : Machine Writer} {state : State} {callers? : Option (List Frame)}
    (shares : Shares linked.program.vars machine state)
    (mirrors : Mirrors callers? machine.frames state.locals) :
    Simulates
      (fun values after flow later => flow = .next ∧
        Grows linked.program.vars next high machine state after later ∧
        List.Forall₂ (Holds high later.locals) operands values)
      (Expr.evalAll (callWithin linked.table rounds) args machine)
      (C.Stmt.execAll (linked.lower.call rounds) rounds code state) := by
  match args with
  | [] =>
    simp only [Expr.lowerAll, Prod.mk.injEq] at lowered
    obtain ⟨rfl, rfl, rfl⟩ := lowered
    simp only [Expr.evalAll, C.Stmt.execAll]
    exact ⟨rfl, .refl shares, .nil⟩
  | arg :: args =>
    rcases argLowered : arg.lower next with ⟨argCode, operand, middle⟩
    rcases restLowered : Expr.lowerAll args middle with ⟨restCode, rest, last⟩
    have lower := Expr.lower_le arg argLowered
    have upper := Expr.lowerAll_le args restLowered
    simp only [Expr.lowerAll, argLowered, restLowered, Prod.mk.injEq] at lowered
    obtain ⟨rfl, rfl, rfl⟩ := lowered
    simp only [Expr.evalAll]
    refine (Expr.lower_simulates callsMatch arg covers.left argLowered shares mirrors).append ?_
    rintro value argAfter flow argLater ⟨rfl, argGrows, argHolds⟩
    refine ⟨rfl, ?_⟩
    refine (Expr.lowerAll_simulates callsMatch args covers.right restLowered argGrows.shares
      (argGrows.mirrors mirrors)).walk_bind ?_
    rintro values after flow later ⟨rfl, grows, holds⟩
    exact ⟨rfl, argGrows.trans grows lower upper, .cons (grows.holds argHolds upper) holds⟩

end

namespace Lower

/-- What executing a statement does: the variables of the running function may change
their values, and temporaries come on top of them. -/
structure Executes (vars : List String) (callers? : Option (List Frame)) (low high : Nat)
    (state : State) (after : Machine Writer) (later : State) : Prop where
  shares : Shares vars after later
  mirrors : Mirrors callers? after.frames later.locals
  names : ∃ added, later.locals.map Prod.fst = added ++ state.locals.map Prod.fst ∧
    Temps low high added

variable {vars : List String} {callers? : Option (List Frame)} {low middle high : Nat}
  {machine after last : Machine Writer} {state later final : State}

theorem Grows.executes (grows : Grows vars low high machine state after later)
    (mirrors : Mirrors callers? machine.frames state.locals) :
    Executes vars callers? low high state after later := by
  obtain ⟨added, grown, temps⟩ := grows.locals
  exact ⟨grows.shares, grows.mirrors mirrors, _, by rw [grown, List.map_append], temps⟩

namespace Executes

theorem of_names (shares : Shares vars after later)
    (mirrors : Mirrors callers? after.frames later.locals)
    (names : later.locals.map Prod.fst = state.locals.map Prod.fst) :
    Executes vars callers? low high state after later :=
  ⟨shares, mirrors, [], names, temps_nil⟩

theorem mono {least most : Nat} (executes : Executes vars callers? low high state after later)
    (lower : least ≤ low) (upper : high ≤ most) :
    Executes vars callers? least most state after later := by
  obtain ⟨added, grown, temps⟩ := executes.names
  exact ⟨executes.shares, executes.mirrors, added, grown, temps.mono lower upper⟩

theorem again (first : Executes vars callers? low high state after later)
    (second : Executes vars callers? low high later last final) :
    Executes vars callers? low high state last final := by
  obtain ⟨added, grown, temps⟩ := first.names
  obtain ⟨more, grownMore, tempsMore⟩ := second.names
  refine ⟨second.shares, second.mirrors, more ++ added, ?_, tempsMore.append temps⟩
  rw [grownMore, grown, List.append_assoc]

theorem trans (first : Executes vars callers? low middle state after later)
    (second : Executes vars callers? middle high later last final)
    (lower : low ≤ middle) (upper : middle ≤ high) :
    Executes vars callers? low high state last final :=
  (first.mono (Nat.le_refl _) upper).again (second.mono lower (Nat.le_refl _))

theorem leaveBlock (executes : Executes vars callers? low high state after later) :
    Executes vars callers? low high state after (later.leaveBlock state.locals.length) := by
  obtain ⟨added, grown, temps⟩ := executes.names
  have count : later.locals.length - state.locals.length = added.length := by
    have lengths := congrArg List.length grown
    simp only [List.length_map, List.length_append] at lengths
    omega
  have front : (later.locals.take added.length).map Prod.fst = added := by
    rw [List.map_take, grown, List.take_left]
  have back : (later.locals.drop added.length).map Prod.fst = state.locals.map Prod.fst := by
    rw [List.map_drop, grown, List.drop_left]
  have mirrors := executes.mirrors
  rw [← List.take_append_drop added.length later.locals] at mirrors
  rw [State.leaveBlock, count]
  exact of_names ⟨executes.shares.globals, executes.shares.sink⟩
    (mirrors.pop (front.symm ▸ temps)) back

end Executes

theorem Simulates.block {α : Type} {answer : Exec.Answer Writer α} {shown : α → Flow → Prop}
    {body : C.Act Flow}
    (simulates : Simulates (fun a after flow later => shown a flow ∧
      Executes vars callers? low high state after later) answer (body state)) :
    Simulates (fun a after flow later => shown a flow ∧
      Executes vars callers? low high state after later) answer (C.Act.block body state) := by
  cases answer with
  | ok a after =>
    cases ran : body state with
    | error stop later => simp only [ran, Simulates] at simulates
    | ok flow later =>
      simp only [ran, Simulates] at simulates
      rw [C.Act.block_of_ok ran]
      exact ⟨simulates.1, simulates.2.leaveBlock⟩
  | error fault after =>
    cases ran : body state with
    | ok flow later => simp only [ran, Simulates] at simulates
    | error stop later =>
      simp only [ran, Simulates] at simulates
      rw [C.Act.block_of_error ran]
      exact simulates

theorem test_of_holds {calls : C.Calls} {next : Nat} {operand : C.Expr} {value : Int64}
    (holds : Holds next state.locals operand value) :
    operand.test calls state = .ok (value != 0) state :=
  C.Expr.test_of_value? holds.value? (Value.isTrue?_longLong value)

def round (cond : Exec Writer Int64) (body : Exec Writer Unit) : Exec Writer Bool := do
  let value ← cond
  if value = 0 then return false
  body
  return true

theorem repeatWhile_succ (limits : Limits) (cond : Exec Writer Int64) (body : Exec Writer Unit)
    (times : Nat) :
    Exec.repeatWhile limits cond body (times + 1) = do
      if ← round cond body then Exec.repeatWhile limits cond body times else return () := by
  rw [Exec.repeatWhile_eq_bind, round, bind_assoc]
  congr 1
  funext value
  split <;> simp

section

variable {calls : C.Calls} {rounds : Nat} {cond : Exec Writer Int64} {body : Exec Writer Unit}
  {condCode bodyCode : List C.Stmt} {operand : C.Expr}
  (conds : ∀ machine state, Shares vars machine state →
    Mirrors callers? machine.frames state.locals →
    Simulates
      (fun value after flow later => flow = .next ∧
        Grows vars low middle machine state after later ∧ Holds middle later.locals operand value)
      (cond machine) (C.Stmt.execAll calls rounds condCode state))
  (bodies : ∀ machine state, Shares vars machine state →
    Mirrors callers? machine.frames state.locals →
    Simulates
      (fun _ after flow later => flow = .next ∧
        Executes vars callers? middle high state after later)
      (body machine) (C.Stmt.execAll calls rounds bodyCode state))
  (lower : low ≤ middle) (upper : middle ≤ high)

include conds bodies lower upper

theorem round_simulates (shares : Shares vars machine state)
    (mirrors : Mirrors callers? machine.frames state.locals) :
    Simulates
      (fun goesOn after flow later => flow = (if goesOn then .next else .broken) ∧
        Executes vars callers? low high state after later)
      (round cond body machine)
      (C.Stmt.execAll calls rounds (condCode ++ [.breakUnless operand] ++ bodyCode) state) := by
  rw [List.append_assoc, round]
  refine (conds machine state shares mirrors).append ?_
  rintro value after flow later ⟨rfl, grows, holds⟩
  have tested : (C.Stmt.breakUnless operand).exec calls rounds later = _ :=
    C.Stmt.exec_breakUnless (test_of_holds holds)
  refine ⟨rfl, ?_⟩
  by_cases zero : value = 0
  · rw [zero, bne_self_eq_false, if_neg Bool.false_ne_true] at tested
    rw [if_pos zero, List.singleton_append, C.Stmt.execAll_cons_of_flow tested nofun]
    exact ⟨rfl, (grows.executes mirrors).trans (.of_names grows.shares (grows.mirrors mirrors) rfl)
      lower upper⟩
  · rw [bne_iff_ne.2 zero, if_pos rfl] at tested
    rw [if_neg zero, List.singleton_append, C.Stmt.execAll_cons_of_next tested]
    refine (bodies after later grows.shares (grows.mirrors mirrors)).walk_bind ?_
    rintro ⟨⟩ last flow final ⟨rfl, executes⟩
    exact ⟨rfl, (grows.executes mirrors).trans executes lower upper⟩

theorem loop_simulates (times : Nat) (shares : Shares vars machine state)
    (mirrors : Mirrors callers? machine.frames state.locals) :
    Simulates
      (fun _ after flow later => flow = .next ∧ Executes vars callers? low high state after later)
      (Exec.repeatWhile { steps := 0 } cond body times machine)
      (C.Act.forever (C.Act.block (C.Stmt.execAll calls rounds
        (condCode ++ [.breakUnless operand] ++ bodyCode))) times state) := by
  induction times generalizing machine state with
  | zero => exact ⟨.exhausted, shares.sink⟩
  | succ times ih =>
    have once := (round_simulates conds bodies lower upper shares mirrors).block
    rw [repeatWhile_succ, C.Act.forever]
    refine once.bind ?_
    rintro goesOn after flow later ⟨rfl, executes⟩
    cases goesOn with
    | false => exact ⟨rfl, executes⟩
    | true =>
      refine (ih executes.shares executes.mirrors).mono ?_
      rintro ⟨⟩ last flow final ⟨rfl, rest⟩
      exact ⟨rfl, executes.again rest⟩

end

section

variable {calls : C.Calls} {rounds : Nat} {operand : C.Expr} {value : Int64}

theorem assign_simulates {target : String} (holds : Holds high state.locals operand value)
    (known : target ∈ vars) (shares : Shares vars machine state)
    (mirrors : Mirrors callers? machine.frames state.locals) :
    Simulates
      (fun _ after flow later => flow = .next ∧ Executes vars callers? high high state after later)
      ((do Exec.store target value; Exec.record value : Exec Writer Unit) machine)
      (C.Stmt.execAll calls rounds ([.assign (variableName target) operand] ++
        if callers?.isSome then [.assign resultName (.ident (variableName target))] else [])
        state) := by
  obtain ⟨middle, written, middleShares, middleMirrors, names⟩ :=
    write?_variableName value shares mirrors known
  have assigned : (C.Stmt.assign (variableName target) operand).exec calls rounds state = _ :=
    C.Stmt.exec_assign (C.Expr.result_of_value? holds.value?) written
  rw [List.singleton_append, C.Stmt.execAll_cons_of_next assigned]
  change Simulates _ (.ok () ((machine.store target value).record value)) _
  cases callers? with
  | none =>
    rw [record_of_mirrors_none value middleMirrors]
    exact ⟨rfl, .of_names middleShares middleMirrors names⟩
  | some callers =>
    have read : (C.Expr.ident (variableName target)).value? middle = some (.longLong value) := by
      rw [C.Expr.value?, read?_variableName middleShares middleMirrors known, load_store_self]
    obtain ⟨later, kept, laterShares, laterMirrors, laterNames⟩ :=
      write?_resultName value middleShares middleMirrors
    rw [Option.isSome_some, if_pos rfl, C.Stmt.execAll_singleton,
      C.Stmt.exec_assign (C.Expr.result_of_value? read) kept]
    exact ⟨rfl, .of_names laterShares laterMirrors (laterNames.trans names)⟩

theorem shares_put (shares : Shares vars machine state) (value : Int64) :
    ∃ printed, Exec.put value machine = .ok () printed ∧ printed.frames = machine.frames ∧
      Shares vars printed (state.print .out (Writer.line value)) := by
  obtain ⟨globals, frames, stepsLeft, sink⟩ := machine
  have empty : sink = { kept := state.out } := shares.sink
  subst empty
  exact ⟨_, rfl, rfl, shares.globals, rfl⟩

theorem print_simulates (holds : Holds high state.locals operand value)
    (shares : Shares vars machine state) (mirrors : Mirrors callers? machine.frames state.locals) :
    Simulates
      (fun _ after flow later => flow = .next ∧ Executes vars callers? high high state after later)
      ((do Exec.put value; Exec.record value : Exec Writer Unit) machine)
      (C.Stmt.execAll (linked.lower.call rounds) rounds
        [if callers?.isSome then .assign resultName (.call "rt_print" [operand])
          else .expr (.call "rt_print" [operand])] state) := by
  have operands := values?_of_holds (.cons holds .nil)
  have called : linked.lower.call rounds "rt_print" [.longLong value] state = _ :=
    (congrFun (call_of_not_functionName linked rounds functionName_ne_print _) state).trans
      (C.Prelude.preludeCall_print rfl value)
  obtain ⟨printed, put, frames, printedShares⟩ := shares_put shares value
  have printedMirrors : Mirrors callers? printed.frames
      (state.print .out (Writer.line value)).locals := frames ▸ mirrors
  rw [C.Stmt.execAll_singleton, Exec.bind_of_ok put]
  change Simulates _ (.ok () (printed.record value)) _
  cases callers? with
  | none =>
    rw [Option.isSome_none, if_neg Bool.false_ne_true,
      C.Stmt.exec_expr ((C.Expr.eval_call operands).trans called),
      record_of_mirrors_none value printedMirrors]
    exact ⟨rfl, .of_names printedShares printedMirrors rfl⟩
  | some callers =>
    obtain ⟨later, kept, laterShares, laterMirrors, names⟩ :=
      write?_resultName value printedShares printedMirrors
    rw [Option.isSome_some, if_pos rfl,
      C.Stmt.exec_assign (C.Expr.result_call operands called) kept]
    exact ⟨rfl, .of_names laterShares laterMirrors names⟩

end

end Lower

theorem Expr.lower_simulates_then (callsMatch : CallsMatch linked rounds) (expr : Expr)
    (covers : Covers linked expr.isValid expr.calls expr.vars) {callers? : Option (List Frame)}
    {next middle high : Nat} {code others : List C.Stmt} {operand : C.Expr}
    (lowered : expr.lower next = (code, operand, middle)) (upper : middle ≤ high)
    {machine : Machine Writer} {state : State} (shares : Shares linked.program.vars machine state)
    (mirrors : Mirrors callers? machine.frames state.locals) {walk : Int64 → Exec Writer Unit}
    (goesOn : ∀ value machine state, Holds middle state.locals operand value →
      Shares linked.program.vars machine state →
      Mirrors callers? machine.frames state.locals →
      Simulates
        (fun _ after flow later => flow = .next ∧
          Executes linked.program.vars callers? middle high state after later)
        (walk value machine) (C.Stmt.execAll (linked.lower.call rounds) rounds others state)) :
    Simulates
      (fun _ after flow later => flow = .next ∧
        Executes linked.program.vars callers? next high state after later)
      ((expr.eval (callWithin linked.table rounds) >>= walk) machine)
      (C.Stmt.execAll (linked.lower.call rounds) rounds (code ++ others) state) := by
  have lower := Expr.lower_le expr lowered
  refine (Expr.lower_simulates callsMatch expr covers lowered shares mirrors).append ?_
  rintro value after flow between ⟨rfl, grows, holds⟩
  refine ⟨rfl, (goesOn value after between holds grows.shares (grows.mirrors mirrors)).mono ?_⟩
  rintro ⟨⟩ last flow later ⟨rfl, executes⟩
  exact ⟨rfl, (grows.executes mirrors).trans executes lower upper⟩

theorem Stmt.lower_simulates (callsMatch : CallsMatch linked rounds) (stmt : Stmt)
    (covers : Covers linked stmt.isValid stmt.calls stmt.vars) {callers? : Option (List Frame)}
    {next high : Nat} {code : List C.Stmt}
    (lowered : stmt.lower callers?.isSome next = (code, high))
    {machine : Machine Writer} {state : State} (shares : Shares linked.program.vars machine state)
    (mirrors : Mirrors callers? machine.frames state.locals) :
    Simulates
      (fun _ after flow later => flow = .next ∧
        Executes linked.program.vars callers? next high state after later)
      (stmt.walk (callWithin linked.table rounds) rounds machine)
      (C.Stmt.execAll (linked.lower.call rounds) rounds code state) := by
  induction stmt generalizing next high code machine state with
  | assign target value =>
    rcases valueLowered : value.lower next with ⟨valueCode, operand, last⟩
    simp only [Stmt.lower, valueLowered, Prod.mk.injEq] at lowered
    obtain ⟨rfl, rfl⟩ := lowered
    have known : target ∈ linked.program.vars := covers.vars (by simp [Stmt.vars])
    have inner : Covers linked value.isValid value.calls value.vars :=
      covers.mono (fun both => (Bool.and_eq_true_iff.1 both).2) (List.Subset.refl _)
        (List.subset_cons_self ..)
    rw [Stmt.walk, List.append_assoc]
    refine Expr.lower_simulates_then callsMatch value inner valueLowered (Nat.le_refl _) shares
      mirrors fun a machine state holds shares mirrors => ?_
    exact assign_simulates holds known shares mirrors
  | print value =>
    rcases valueLowered : value.lower next with ⟨valueCode, operand, last⟩
    simp only [Stmt.lower, valueLowered, Prod.mk.injEq] at lowered
    obtain ⟨rfl, rfl⟩ := lowered
    rw [Stmt.walk]
    refine Expr.lower_simulates_then callsMatch value covers valueLowered (Nat.le_refl _) shares
      mirrors fun a machine state holds shares mirrors => ?_
    exact print_simulates holds shares mirrors
  | ifThen cond body ih =>
    rcases condLowered : cond.lower next with ⟨condCode, operand, middle⟩
    rcases bodyLowered : body.lower callers?.isSome middle with ⟨bodyCode, last⟩
    have upper := Stmt.lower_le _ body bodyLowered
    simp only [Stmt.lower, condLowered, bodyLowered, Prod.mk.injEq] at lowered
    obtain ⟨rfl, rfl⟩ := lowered
    rw [Stmt.walk]
    refine Expr.lower_simulates_then callsMatch cond covers.left condLowered upper shares
      mirrors fun a machine state holds shares mirrors => ?_
    have tested : operand.test (linked.lower.call rounds) state = _ := test_of_holds holds
    rw [C.Stmt.execAll_singleton]
    by_cases zero : a = 0
    · rw [zero, bne_self_eq_false] at tested
      rw [if_pos zero, C.Stmt.exec_ifThen_of_false tested]
      exact ⟨rfl, .of_names shares mirrors rfl⟩
    · rw [bne_iff_ne.2 zero] at tested
      rw [if_neg zero, C.Stmt.exec_ifThen_of_true tested]
      exact (ih covers.right bodyLowered shares mirrors).block
  | ifElse cond body other ihBody ihOther =>
    rcases condLowered : cond.lower next with ⟨condCode, operand, middle⟩
    rcases bodyLowered : body.lower callers?.isSome middle with ⟨bodyCode, second⟩
    rcases otherLowered : other.lower callers?.isSome second with ⟨otherCode, last⟩
    have inner := Stmt.lower_le _ body bodyLowered
    have upper := Stmt.lower_le _ other otherLowered
    have parts : Covers linked (cond.isValid && (body.isValid && other.isValid))
        (cond.calls ++ (body.calls ++ other.calls)) (cond.vars ++ (body.vars ++ other.vars)) :=
      covers.mono (by simp only [Stmt.isValid, Bool.and_assoc, imp_self]) (List.Subset.refl _)
        (List.Subset.refl _)
    simp only [Stmt.lower, condLowered, bodyLowered, otherLowered, Prod.mk.injEq] at lowered
    obtain ⟨rfl, rfl⟩ := lowered
    rw [Stmt.walk]
    refine Expr.lower_simulates_then callsMatch cond parts.left condLowered
      (Nat.le_trans inner upper) shares mirrors fun a machine state holds shares mirrors => ?_
    have tested : operand.test (linked.lower.call rounds) state = _ := test_of_holds holds
    rw [C.Stmt.execAll_singleton]
    -- the temporaries of the branch that is not taken are numbered but never declared
    by_cases zero : a = 0
    · rw [zero, bne_self_eq_false] at tested
      rw [if_pos zero, C.Stmt.exec_ifElse_of_false tested]
      refine (ihOther parts.right.right otherLowered shares mirrors).block.mono ?_
      rintro ⟨⟩ after flow later ⟨rfl, executes⟩
      exact ⟨rfl, executes.mono inner (Nat.le_refl _)⟩
    · rw [bne_iff_ne.2 zero] at tested
      rw [if_neg zero, C.Stmt.exec_ifElse_of_true tested]
      refine (ihBody parts.right.left bodyLowered shares mirrors).block.mono ?_
      rintro ⟨⟩ after flow later ⟨rfl, executes⟩
      exact ⟨rfl, executes.mono (Nat.le_refl _) upper⟩
  | loop cond body ih =>
    rcases condLowered : cond.lower next with ⟨condCode, operand, middle⟩
    rcases bodyLowered : body.lower callers?.isSome middle with ⟨bodyCode, last⟩
    have lower := Expr.lower_le cond condLowered
    have upper := Stmt.lower_le _ body bodyLowered
    simp only [Stmt.lower, condLowered, bodyLowered, Prod.mk.injEq] at lowered
    obtain ⟨rfl, rfl⟩ := lowered
    rw [Stmt.walk, C.Stmt.execAll_singleton, C.Stmt.exec]
    exact loop_simulates
      (fun _ _ shares mirrors =>
        Expr.lower_simulates callsMatch cond covers.left condLowered shares mirrors)
      (fun _ _ shares mirrors => ih covers.right bodyLowered shares mirrors)
      lower upper rounds shares mirrors
  | function name params body ih =>
    simp only [Stmt.lower, Prod.mk.injEq] at lowered
    obtain ⟨rfl, rfl⟩ := lowered
    exact ⟨rfl, .of_names shares mirrors rfl⟩

end ImpToC
