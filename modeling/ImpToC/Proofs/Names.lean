import Std.Data.String.ToNat
import ImpToC.Lower
import ImpToC.Proofs.Meaning

/-! The names in a generated file. Each class of names is told by how it begins, so names
of different classes never coincide, and within a class different source names, or
numbers of temporaries, give different names. No name of a variable or temporary is one
that the library defines. -/
namespace ImpToC.Lower

theorem variableName_toList (name : String) :
    (variableName name).toList = 'v' :: '_' :: name.toList := by
  simp [variableName]

theorem functionName_toList (name : String) :
    (functionName name).toList = 'f' :: '_' :: name.toList := by
  simp [functionName]

theorem tempName_toList (index : Nat) :
    (tempName index).toList = 't' :: (toString index).toList := by
  simp [tempName]

theorem variableName_inj {a b : String} : variableName a = variableName b ↔ a = b :=
  String.append_right_inj _

theorem functionName_inj {a b : String} : functionName a = functionName b ↔ a = b :=
  String.append_right_inj _

theorem tempName_inj {i j : Nat} : tempName i = tempName j ↔ i = j :=
  (String.append_right_inj _).trans Nat.repr_inj

theorem ne_of_head {a b : String} (heads : a.toList.head? ≠ b.toList.head?) : a ≠ b :=
  fun same => heads (same ▸ rfl)

theorem variableName_ne_tempName (name : String) (index : Nat) :
    variableName name ≠ tempName index :=
  ne_of_head (by simp [variableName_toList, tempName_toList])

theorem resultName_ne_variableName (name : String) : resultName ≠ variableName name :=
  ne_of_head (by simp [variableName_toList, resultName])

theorem resultName_ne_tempName (index : Nat) : resultName ≠ tempName index :=
  ne_of_head (by simp [tempName_toList, resultName])

theorem functionName_ne_arithName (name : String) (op : ArithOp) :
    functionName name ≠ arithName op :=
  ne_of_head (by cases op <;> simp [functionName_toList, arithName])

theorem functionName_ne_print (name : String) : functionName name ≠ "rt_print" :=
  ne_of_head (by simp [functionName_toList])

/-- The classes of names in a generated file. -/
inductive NameClass where
  | ofVariable | ofFunction | ofTemp | ofRuntime | ofMain
  deriving DecidableEq, Repr

namespace NameClass

def Has : NameClass → String → Prop
  | ofVariable, text => ∃ name, text = variableName name
  | ofFunction, text => ∃ name, text = functionName name
  | ofTemp, text => ∃ index, text = tempName index
  | ofRuntime, text => ∃ name, text = "rt_" ++ name
  | ofMain, text => text = "main"

/-- The character that the names of a class begin with. -/
def initial : NameClass → Char
  | ofVariable => 'v'
  | ofFunction => 'f'
  | ofTemp => 't'
  | ofRuntime => 'r'
  | ofMain => 'm'

theorem initial_inj {a b : NameClass} (same : a.initial = b.initial) : a = b := by
  cases a <;> cases b <;> simp_all [initial]

theorem Has.head {a : NameClass} {text : String} (has : a.Has text) :
    text.toList.head? = some a.initial := by
  cases a with
  | ofVariable =>
    obtain ⟨name, rfl⟩ := has
    rw [variableName_toList]
    rfl
  | ofFunction =>
    obtain ⟨name, rfl⟩ := has
    rw [functionName_toList]
    rfl
  | ofTemp =>
    obtain ⟨index, rfl⟩ := has
    rw [tempName_toList]
    rfl
  | ofRuntime =>
    obtain ⟨name, rfl⟩ := has
    simp [initial]
  | ofMain =>
    cases has
    rfl

theorem eq_of_has {a b : NameClass} {text : String} (first : a.Has text) (second : b.Has text) :
    a = b :=
  initial_inj (Option.some.inj (first.head.symm.trans second.head))

end NameClass

theorem constant?_eq_none {name : String} (upper : name.toList.head? ≠ some 'L')
    (stream : ∀ rest, name.toList ≠ 's' :: rest) : C.Library.constant? name = none := by
  unfold C.Library.constant?
  split
  · simp at upper
  · simp at stream
  · simp at stream
  · rfl

@[simp] theorem constant?_variableName (name : String) :
    C.Library.constant? (variableName name) = none :=
  constant?_eq_none (by simp [variableName_toList]) (by simp [variableName_toList])

@[simp] theorem constant?_tempName (index : Nat) : C.Library.constant? (tempName index) = none :=
  constant?_eq_none (by simp [tempName_toList]) (by simp [tempName_toList])

@[simp] theorem constant?_resultName : C.Library.constant? resultName = none := rfl

end ImpToC.Lower
