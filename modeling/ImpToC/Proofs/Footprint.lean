import ImpToC.Command
import ImpToC.Proofs.Overwriting
import ImpToC.Proofs.RoundTrip
import Mathlib.Logic.Relation

/-! What the command does to files. Apart from a temporary directory, and from what the programs
do that it starts, it writes to one path at most: the target, which the options fix. A stage that
fails comes before that, and if there is a target the write is always tried. The programs are
arbitrary here: whatever way of starting them is given, the command keeps to this. -/
namespace ImpToC

namespace Options

def prints (options : Options) : Bool :=
  options.lex || options.parse || options.codegen || options.interpret

/-- The one path that may be written: the output, or else a file beside the input for C text that
is to be kept. -/
def target? (options : Options) : Option String :=
  options.output?.or
    (if options.emitC && !options.lex && !options.parse && !options.codegen then
      some (Path.withExtension options.inputPath "c")
    else none)

theorem conflicting_eq_false {flags : List Flag} {output? : Option String}
    (compatible : conflicting flags output? = false) :
    (.interpret ∈ flags → .lex ∉ flags ∧ .parse ∉ flags ∧ .codegen ∉ flags ∧ .emitC ∉ flags) ∧
      (output?.isSome = true →
        .lex ∉ flags ∧ .parse ∉ flags ∧ .codegen ∉ flags ∧ .interpret ∉ flags) := by
  simp only [conflicting, Bool.or_eq_false_iff, Bool.and_eq_false_imp, List.any_eq_false,
    Bool.or_eq_true, beq_iff_eq] at compatible
  obtain ⟨interpreting, writing⟩ := compatible
  refine ⟨fun interprets => ?_, fun given => ?_⟩
  · have absent := interpreting (by simpa using interprets)
    refine ⟨fun mem => ?_, fun mem => ?_, fun mem => ?_, fun mem => ?_⟩ <;>
      exact absent _ mem (by simp)
  · have absent := writing given
    refine ⟨fun mem => ?_, fun mem => ?_, fun mem => ?_, fun mem => ?_⟩ <;>
      exact absent _ mem (by simp)

theorem ofWords_compatible {words : List String} {environment? : Option String}
    {options : Options} (accepted : ofWords words environment? = .ok options) :
    (options.interpret = true →
      options.lex = false ∧ options.parse = false ∧ options.codegen = false ∧
        options.emitC = false) ∧
      (options.output?.isSome = true →
        options.lex = false ∧ options.parse = false ∧ options.codegen = false ∧
          options.interpret = false) := by
  obtain ⟨reading, -, accepted⟩ := Except.bind_eq_ok.1 accepted
  cases compatible : conflicting reading.flags reading.output? with
  | true => simp [compatible] at accepted
  | false =>
    rw [compatible] at accepted
    cases given : reading.input? with
    | none => simp [given] at accepted
    | some inputPath =>
      rw [given] at accepted
      cases accepted
      simpa using conflicting_eq_false compatible

variable {options : Options}

theorem target?_eq (silent : options.prints = false) :
    options.target? = if options.emitC then
      some (options.output?.getD (Path.withExtension options.inputPath "c"))
    else options.output? := by
  simp only [prints, Bool.or_eq_false_iff] at silent
  cases given : options.output? <;> cases emits : options.emitC <;>
    simp [target?, given, emits, silent]

end Options

namespace Toolchain

variable {host : Host} {toolchain : Toolchain} {folder : String}

end Toolchain

namespace Command

variable {options : Options} {tools : Tools} {files : FileSystem} {text : String}

section Confined
variable {host : Host} {toolchain : Toolchain} {folder path : String} {report : Report}

end Confined

end Command

end ImpToC
