import Mathlib.Data.List.Forall2
import ImpToC.Proofs.Linking
import ImpToC.Proofs.Prelude
import ImpToC.Proofs.Unbounded

/-! How the state of a running file corresponds to the machine of a walk. The global
variables have the same values and what was written is the same. In a function the
variables of the function are the parameters of the innermost call, and the one named
`rt_last` is its result so far; the main function has no variables but temporaries.
Temporaries come on top of these and hide none of them. -/
namespace ImpToC.Lower

open C (Value State Stop)

section

variable {α : Type} {name other : String}

theorem lookup_replace_self {value : α} {entries : List (String × α)}
    (present : (entries.lookup name).isSome) :
    (C.replace name value entries).lookup name = some value := by
  induction entries with
  | nil => cases present
  | cons entry entries ih =>
    obtain ⟨first, old⟩ := entry
    by_cases same : first = name
    · simp [C.replace, same]
    · have differ : (name == first) = false := beq_false_of_ne (Ne.symm same)
      simp only [List.lookup_cons, differ] at present
      simp only [C.replace, if_neg same, List.lookup_cons, differ, ih present]

theorem lookup_replace_of_ne (differ : other ≠ name) (value : α) (entries : List (String × α)) :
    (C.replace name value entries).lookup other = entries.lookup other := by
  induction entries with
  | nil => rfl
  | cons entry entries ih =>
    obtain ⟨first, old⟩ := entry
    by_cases same : first = name
    · have apart : (other == first) = false := beq_false_of_ne (same ▸ differ)
      simp only [C.replace, if_pos same, List.lookup_cons, apart]
    · simp only [C.replace, if_neg same, List.lookup_cons, ih]

theorem replace_names (value : α) (entries : List (String × α)) :
    (C.replace name value entries).map Prod.fst = entries.map Prod.fst := by
  induction entries with
  | nil => rfl
  | cons entry entries ih =>
    obtain ⟨first, old⟩ := entry
    by_cases same : first = name
    · simp only [C.replace, if_pos same, List.map_cons]
    · simp only [C.replace, if_neg same, List.map_cons, ih]

theorem lookup_append_of_not_mem {front : List (String × α)} (absent : name ∉ front.map Prod.fst)
    (back : List (String × α)) : (front ++ back).lookup name = back.lookup name := by
  induction front with
  | nil => rfl
  | cons entry front ih =>
    obtain ⟨first, value⟩ := entry
    simp only [List.map_cons, List.mem_cons, not_or] at absent
    have differ : (name == first) = false := beq_false_of_ne absent.1
    simp only [List.cons_append, List.lookup_cons, differ, ih absent.2]

theorem assign_eq_replace (value : Int64) (params : List (String × Int64)) :
    Frame.assign name value params = C.replace name value params := by
  induction params with
  | nil => rfl
  | cons entry params ih => rw [Frame.assign, C.replace, ih]

end

theorem lookup_params (params : List String) (args : List Int64) (name : String) :
    ((params.map variableName).zip (args.map Value.longLong)).lookup (variableName name) =
      ((params.zip args).lookup name).map .longLong := by
  induction params generalizing args with
  | nil => rfl
  | cons param params ih =>
    cases args with
    | nil => rfl
    | cons arg args =>
      by_cases same : name = param
      · simp [same]
      · have differ : (variableName name == variableName param) = false :=
          beq_false_of_ne (fun equal => same (variableName_inj.1 equal))
        have apart : (name == param) = false := beq_false_of_ne same
        simp only [List.map_cons, List.zip_cons_cons, List.lookup_cons, differ, apart, ih]

/-- The global variables and the output are the same. -/
structure Shares (vars : List String) (machine : Machine Writer) (state : State) : Prop where
  globals : ∀ name ∈ vars,
    state.globals.lookup (variableName name) = some (.longLong (machine.globals.getD name 0))
  sink : machine.sink = { kept := state.out }

/-- The variables of the running function are those of the innermost call. `callers?` are
the other calls in progress; without any call the main function is running. -/
def Mirrors (callers? : Option (List Frame)) (frames : List Frame)
    (locals : List (String × Value)) : Prop :=
  match callers? with
  | none => frames = [] ∧ ∀ name, locals.lookup (variableName name) = none
  | some callers => ∃ frame, frames = frame :: callers ∧
      (∀ name, locals.lookup (variableName name) = (frame.params.lookup name).map .longLong) ∧
      locals.lookup resultName = some (.longLong frame.result)

variable {vars : List String} {machine : Machine Writer} {state : State}
  {callers? : Option (List Frame)} {frames : List Frame} {locals : List (String × Value)}

theorem Mirrors.congr {others : List (String × Value)} (mirrors : Mirrors callers? frames locals)
    (variables_same : ∀ name, others.lookup (variableName name) = locals.lookup (variableName name))
    (result_same : others.lookup resultName = locals.lookup resultName) :
    Mirrors callers? frames others := by
  cases callers? with
  | none => exact ⟨mirrors.1, fun name => (variables_same name).trans (mirrors.2 name)⟩
  | some callers =>
    obtain ⟨frame, top, params, result⟩ := mirrors
    exact ⟨frame, top, fun name => (variables_same name).trans (params name),
      result_same.trans result⟩

theorem read?_variableName {name : String} (shares : Shares vars machine state)
    (mirrors : Mirrors callers? machine.frames state.locals) (known : name ∈ vars) :
    state.read? (variableName name) = some (.longLong (machine.load name)) := by
  have global := shares.globals name known
  cases callers? with
  | none =>
    obtain ⟨top, none⟩ := mirrors
    simp only [State.read?, constant?_variableName, none name, global, Machine.load, top]
  | some callers =>
    obtain ⟨frame, top, params, result⟩ := mirrors
    simp only [State.read?, constant?_variableName, params name, Machine.load, top]
    cases frame.params.lookup name with
    | none => exact global
    | some value => rfl

theorem shares_insert {name : String} {value : Int64} {frames : List Frame}
    (shares : Shares vars machine state) (known : name ∈ vars) :
    Shares vars
      { globals := machine.globals.insert name value, frames := frames,
        stepsLeft := machine.stepsLeft, sink := machine.sink }
      { state with globals := C.replace (variableName name) (.longLong value) state.globals } := by
  refine ⟨?_, shares.sink⟩
  intro other member
  by_cases same : other = name
  · subst same
    have present : (state.globals.lookup (variableName other)).isSome := by
      rw [shares.globals other known]
      rfl
    rw [lookup_replace_self present, Std.HashMap.getD_insert_self]
  · rw [lookup_replace_of_ne (fun equal => same (variableName_inj.1 equal)),
      shares.globals other member, Std.HashMap.getD_insert]
    simp [Ne.symm same]

theorem write?_variableName {name : String} (value : Int64) (shares : Shares vars machine state)
    (mirrors : Mirrors callers? machine.frames state.locals) (known : name ∈ vars) :
    ∃ after, state.write? (variableName name) (.longLong value) = some after ∧
      Shares vars (machine.store name value) after ∧
      Mirrors callers? (machine.store name value).frames after.locals ∧
      after.locals.map Prod.fst = state.locals.map Prod.fst := by
  have free := constant?_variableName name
  have global := shares.globals name known
  obtain ⟨globals, frames, stepsLeft, sink⟩ := machine
  cases callers? with
  | none =>
    obtain ⟨rfl, none⟩ := mirrors
    exact ⟨_, State.write?_global value free (none name) global, shares_insert shares known,
      ⟨rfl, none⟩, rfl⟩
  | some callers =>
    obtain ⟨frame, rfl, params, result⟩ := mirrors
    cases found : frame.params.lookup name with
    | none =>
      have unshadowed := params name
      rw [found] at unshadowed
      simp only [Machine.store, found, Option.isSome_none, Bool.false_eq_true, if_false]
      exact ⟨_, State.write?_global value free unshadowed global, shares_insert shares known,
        ⟨frame, rfl, params, result⟩, rfl⟩
    | some old =>
      have present := params name
      rw [found] at present
      simp only [Machine.store, found, Option.isSome_some, if_true]
      refine ⟨_, State.write?_local value free present, ⟨shares.globals, shares.sink⟩,
        ⟨_, rfl, ?_, ?_⟩, replace_names _ _⟩
      · intro other
        rw [assign_eq_replace]
        by_cases same : other = name
        · subst same
          rw [lookup_replace_self (by rw [present]; rfl), lookup_replace_self (by rw [found]; rfl)]
          rfl
        · rw [lookup_replace_of_ne (fun equal => same (variableName_inj.1 equal)), params other,
            lookup_replace_of_ne same]
      · rw [lookup_replace_of_ne (resultName_ne_variableName name), result]

theorem write?_resultName {callers : List Frame} (value : Int64)
    (shares : Shares vars machine state)
    (mirrors : Mirrors (some callers) machine.frames state.locals) :
    ∃ after, state.write? resultName (.longLong value) = some after ∧
      Shares vars (machine.record value) after ∧
      Mirrors (some callers) (machine.record value).frames after.locals ∧
      after.locals.map Prod.fst = state.locals.map Prod.fst := by
  obtain ⟨globals, frames, stepsLeft, sink⟩ := machine
  obtain ⟨frame, rfl, params, result⟩ := mirrors
  refine ⟨_, State.write?_local value constant?_resultName result,
    ⟨shares.globals, shares.sink⟩, ⟨_, rfl, ?_, ?_⟩, replace_names _ _⟩
  · intro name
    rw [lookup_replace_of_ne (resultName_ne_variableName name).symm]
    exact params name
  · exact lookup_replace_self (by rw [result]; rfl)

theorem record_of_mirrors_none (value : Int64)
    (mirrors : Mirrors none machine.frames state.locals) : machine.record value = machine := by
  obtain ⟨globals, frames, stepsLeft, sink⟩ := machine
  obtain ⟨rfl, -⟩ := mirrors
  rfl

theorem load_store_self (machine : Machine Writer) (name : String) (value : Int64) :
    (machine.store name value).load name = value := by
  obtain ⟨globals, frames, stepsLeft, sink⟩ := machine
  cases frames with
  | nil => simp [Machine.store, Machine.load]
  | cons frame frames =>
    cases found : frame.params.lookup name with
    | none => simp [Machine.store, Machine.load, found]
    | some old =>
      have present : (frame.params.lookup name).isSome := by rw [found]; rfl
      simp [Machine.store, Machine.load, assign_eq_replace, lookup_replace_self present, present]

/-- All names are those of temporaries numbered from `low` up to but not including `high`. -/
def Temps (low high : Nat) (names : List String) : Prop :=
  ∀ name ∈ names, ∃ index, low ≤ index ∧ index < high ∧ name = tempName index

section

variable {low high : Nat} {names others : List String}

theorem temps_nil : Temps low high [] := by simp [Temps]

theorem temps_singleton (index : Nat) : Temps index (index + 1) [tempName index] := by
  simp only [Temps, List.mem_singleton, forall_eq]
  exact ⟨index, Nat.le_refl _, Nat.lt_succ_self _, rfl⟩

theorem Temps.mono {least most : Nat} (temps : Temps low high names) (lower : least ≤ low)
    (upper : high ≤ most) : Temps least most names := by
  intro name member
  obtain ⟨index, above, below, rfl⟩ := temps name member
  exact ⟨index, by omega, by omega, rfl⟩

theorem Temps.append (first : Temps low high names) (second : Temps low high others) :
    Temps low high (names ++ others) := by
  intro name member
  rcases List.mem_append.1 member with member | member
  · exact first name member
  · exact second name member

theorem Temps.variableName_not_mem (temps : Temps low high names) (name : String) :
    variableName name ∉ names := by
  intro member
  obtain ⟨index, -, -, same⟩ := temps _ member
  exact variableName_ne_tempName name index same

theorem Temps.resultName_not_mem (temps : Temps low high names) : resultName ∉ names := by
  intro member
  obtain ⟨index, -, -, same⟩ := temps _ member
  exact resultName_ne_tempName index same

theorem Temps.tempName_not_mem (temps : Temps low high names) {index : Nat} (below : index < low) :
    tempName index ∉ names := by
  intro member
  obtain ⟨other, least, -, same⟩ := temps _ member
  have equal := tempName_inj.1 same
  omega

end

section

variable {low high : Nat} {added : List (String × Value)}

theorem Mirrors.push (mirrors : Mirrors callers? frames locals)
    (temps : Temps low high (added.map Prod.fst)) : Mirrors callers? frames (added ++ locals) :=
  mirrors.congr (fun name => lookup_append_of_not_mem (temps.variableName_not_mem name) locals)
    (lookup_append_of_not_mem temps.resultName_not_mem locals)

theorem Mirrors.pop (mirrors : Mirrors callers? frames (added ++ locals))
    (temps : Temps low high (added.map Prod.fst)) : Mirrors callers? frames locals :=
  mirrors.congr
    (fun name => (lookup_append_of_not_mem (temps.variableName_not_mem name) locals).symm)
    (lookup_append_of_not_mem temps.resultName_not_mem locals).symm

end

/-- The operand stands for this value, and it is a numeral or a temporary below `next`. -/
inductive Holds (next : Nat) (locals : List (String × Value)) : C.Expr → Int64 → Prop where
  | literal {digits : String} (spelled : Decimal.isCanonical digits) :
    Holds next locals (.literal digits) (Int64.ofNat (Decimal.value digits.toList))
  | temp {index : Nat} {value : Int64} (below : index < next)
    (found : locals.lookup (tempName index) = some (.longLong value)) :
    Holds next locals (.ident (tempName index)) value

namespace Holds

variable {next high : Nat} {operand : C.Expr} {value : Int64}

theorem value? (holds : Holds next state.locals operand value) :
    operand.value? state = some (.longLong value) := by
  cases holds with
  | literal spelled => simp only [C.Expr.value?, spelled, if_true]
  | temp below found => simp only [C.Expr.value?, State.read?, constant?_tempName, found]

theorem push {added : List (String × Value)} (holds : Holds next locals operand value)
    (temps : Temps next high (added.map Prod.fst)) (upper : next ≤ high) :
    Holds high (added ++ locals) operand value := by
  cases holds with
  | literal spelled => exact .literal spelled
  | temp below found =>
    refine .temp (by omega) ?_
    rw [lookup_append_of_not_mem (temps.tempName_not_mem below), found]

end Holds

theorem values?_of_holds {next : Nat} {operands : List C.Expr} {values : List Int64}
    (holds : List.Forall₂ (Holds next state.locals) operands values) :
    C.Expr.values? state operands = some (values.map .longLong) := by
  induction holds with
  | nil => rfl
  | cons first rest ih =>
    simp only [C.Expr.values?, first.value?, ih, Option.bind_eq_bind, Option.bind_some,
      Option.pure_def, List.map_cons]

end ImpToC.Lower
