import Mathlib.Data.List.Nodup
import ImpToC.Lower
import ImpToC.Proofs.Encoding

/-! What linking guarantees. The table of a linked program lists its declarations as they
are written, their names differ, the parameters of each differ, and every call in the
program, also one inside the body of a function, refers to one of them. -/
namespace ImpToC

theorem firstRepeat?_eq_none {seen names : List String} (none : firstRepeat? seen names = none) :
    names.Nodup ∧ ∀ name ∈ names, name ∉ seen := by
  induction names generalizing seen with
  | nil => simp
  | cons name names ih =>
    rw [firstRepeat?] at none
    split at none
    · cases none
    · rename_i fresh
      obtain ⟨distinct, apart⟩ := ih none
      have hn : name ∉ names := fun member => apart name member (List.mem_cons_self ..)
      refine ⟨List.nodup_cons.2 ⟨hn, distinct⟩, ?_⟩
      intro other member
      rcases List.mem_cons.1 member with rfl | member
      · exact fresh
      · exact fun old => apart other member (List.mem_cons_of_mem _ old)

theorem firstRepeat?_of_nodup {seen names : List String} (distinct : names.Nodup)
    (apart : ∀ name ∈ names, name ∉ seen) : firstRepeat? seen names = none := by
  induction names generalizing seen with
  | nil => rfl
  | cons name names ih =>
    obtain ⟨fresh, distinct⟩ := List.nodup_cons.1 distinct
    rw [firstRepeat?, if_neg (apart name List.mem_cons_self)]
    refine ih distinct fun other member seen => ?_
    rcases List.mem_cons.1 seen with rfl | seen
    · exact fresh member
    · exact apart other (List.mem_cons_of_mem _ member) seen

namespace Table

variable {β : Type}

theorem lookup_eq_none_iff {table : Table β} {name : String} :
    table.index.lookup name = none ↔ name ∉ table.declarations.map Declaration.name := by
  simp only [table.inStep, List.findIdx?_eq_none_iff, List.mem_map, not_exists, not_and,
    beq_eq_false_iff_ne, ne_eq]

theorem get?_eq_none_iff {table : Table β} {name : String} :
    table.get? name = none ↔ name ∉ table.declarations.map Declaration.name := by
  simp only [get?_eq_find?, List.find?_eq_none, List.mem_map, not_exists, not_and, beq_iff_eq]

/-- The names of the declarations differ, and so do the parameters of each. -/
structure Distinct (declarations : List (Declaration β)) : Prop where
  names : (declarations.map Declaration.name).Nodup
  params : ∀ declaration ∈ declarations, declaration.params.Nodup

theorem distinct_nil : Distinct ([] : List (Declaration β)) := ⟨by simp, by simp⟩

theorem extend_eq_ok {table extended : Table β} {declaration : Declaration β}
    (distinct : Distinct table.declarations) (done : table.extend declaration = .ok extended) :
    extended.declarations = table.declarations ++ [declaration] ∧
      Distinct extended.declarations := by
  rw [extend] at done
  split at done
  · cases done
  · rename_i params
    split at done
    · cases done
    · rename_i name
      cases done
      have fresh := lookup_eq_none_iff.1 name
      refine ⟨rfl, ?_, ?_⟩
      · rw [push, List.map_append, List.map_singleton, List.nodup_append]
        refine ⟨distinct.names, by simp, ?_⟩
        intro a old b new same
        rw [List.mem_singleton] at new
        exact fresh (new ▸ same ▸ old)
      · intro other member
        rcases List.mem_append.1 member with old | new
        · exact distinct.params other old
        · rw [List.mem_singleton.1 new]
          exact (firstRepeat?_eq_none params).1

theorem extendAll_eq_ok {table extended : Table β} {declarations : List (Declaration β)}
    (distinct : Distinct table.declarations)
    (done : table.extendAll declarations = .ok extended) :
    extended.declarations = table.declarations ++ declarations ∧
      Distinct extended.declarations := by
  induction declarations generalizing table with
  | nil =>
    cases done
    exact ⟨(List.append_nil _).symm, distinct⟩
  | cons declaration declarations ih =>
    rw [extendAll] at done
    split at done
    · cases done
    · rename_i next step
      obtain ⟨listed, still⟩ := extend_eq_ok distinct step
      obtain ⟨rest, final⟩ := ih still done
      exact ⟨by rw [rest, listed, List.append_assoc, List.singleton_append], final⟩

theorem extendAll_of_distinct {table : Table β} {declarations : List (Declaration β)}
    (distinct : Distinct (table.declarations ++ declarations)) :
    ∃ extended, table.extendAll declarations = .ok extended ∧
      extended.declarations = table.declarations ++ declarations := by
  induction declarations generalizing table with
  | nil => exact ⟨table, rfl, (List.append_nil _).symm⟩
  | cons declaration declarations ih =>
    have params : firstRepeat? [] declaration.params = none :=
      firstRepeat?_of_nodup (distinct.params declaration (by simp)) (by simp)
    have fresh : table.index.lookup declaration.name = none := by
      have names := distinct.names
      rw [List.map_append, List.map_cons] at names
      exact lookup_eq_none_iff.2 fun old =>
        (List.nodup_append.1 names).2.2 _ old _ List.mem_cons_self rfl
    have regrouped : table.declarations ++ declaration :: declarations =
        (table.push declaration fresh).declarations ++ declarations := by simp [push]
    rw [regrouped] at distinct ⊢
    rw [extendAll, extend_of_fresh params fresh]
    exact ih distinct

theorem ofDeclarations_of_distinct {declarations : List (Declaration β)}
    (distinct : Distinct declarations) :
    ∃ table, ofDeclarations declarations = .ok table ∧ table.declarations = declarations :=
  extendAll_of_distinct distinct

theorem checkCalls_eq_ok {table : Table β} {sites : List CallSite}
    (done : table.checkCalls sites = .ok ()) :
    ∀ site ∈ sites, ∃ declaration, table.resolve site.callee site.argCount = .ok declaration := by
  induction sites with
  | nil => simp
  | cons site sites ih =>
    rw [checkCalls] at done
    split at done
    · cases done
    · rename_i declaration found
      intro other member
      rcases List.mem_cons.1 member with rfl | member
      · exact ⟨declaration, found⟩
      · exact ih done other member

theorem checkCalls_of_resolved {table : Table β} {sites : List CallSite}
    (resolved : ∀ site ∈ sites,
      ∃ declaration, table.resolve site.callee site.argCount = .ok declaration) :
    table.checkCalls sites = .ok () := by
  induction sites with
  | nil => rfl
  | cons site sites ih =>
    obtain ⟨declaration, found⟩ := resolved site List.mem_cons_self
    rw [checkCalls, found]
    exact ih fun other member => resolved other (List.mem_cons_of_mem _ member)

theorem resolve_eq_ok {table : Table β} {name : String} {argCount : Nat}
    {declaration : Declaration β} (done : table.resolve name argCount = .ok declaration) :
    table.get? name = some declaration ∧ declaration.params.length = argCount := by
  rw [resolve] at done
  split at done
  · cases done
  · rename_i found same
    split at done
    · rename_i count
      cases done
      exact ⟨same, count⟩
    · cases done

theorem get?_eq_some {table : Table β} {name : String} {declaration : Declaration β}
    (found : table.get? name = some declaration) :
    declaration ∈ table.declarations ∧ declaration.name = name := by
  rw [get?_eq_find?] at found
  exact ⟨List.mem_of_find?_eq_some found, by simpa using List.find?_some found⟩

/-- The names differ, so a name finds the one declaration that has it. -/
theorem Distinct.get?_eq_some_iff {table : Table β} {name : String} {declaration : Declaration β}
    (distinct : Distinct table.declarations) :
    table.get? name = some declaration ↔
      declaration ∈ table.declarations ∧ declaration.name = name := by
  refine ⟨get?_eq_some, ?_⟩
  rintro ⟨mem, rfl⟩
  cases found : table.get? declaration.name with
  | none =>
    exact absurd (List.mem_map_of_mem mem) (get?_eq_none_iff.1 found)
  | some other =>
    obtain ⟨otherMem, same⟩ := get?_eq_some found
    rw [List.inj_on_of_nodup_map distinct.names otherMem mem same]

theorem Distinct.lookup_eq_some_iff {table : Table β} {name : String} {position : Nat}
    (distinct : Distinct table.declarations) :
    table.index.lookup name = some position ↔
      ∃ declaration, table.declarations[position]? = some declaration ∧
        declaration.name = name := by
  have found_of_lookup {position : Nat} (found : table.index.lookup name = some position) :
      ∃ declaration, table.declarations[position]? = some declaration ∧
        declaration.name = name := by
    rw [table.inStep] at found
    obtain ⟨inside, same, -⟩ := List.findIdx?_eq_some_iff_getElem.1 found
    exact ⟨_, List.getElem?_eq_getElem inside, beq_iff_eq.1 same⟩
  refine ⟨found_of_lookup, ?_⟩
  rintro ⟨declaration, here, same⟩
  cases known : table.index.lookup name with
  | none =>
    have mem : declaration.name ∈ table.declarations.map Declaration.name :=
      List.mem_map_of_mem (List.mem_of_getElem? here)
    exact absurd (same ▸ mem) (lookup_eq_none_iff.1 known)
  | some other =>
    -- two positions with one name are one position
    obtain ⟨second, there, again⟩ := found_of_lookup known
    have first : (table.declarations.map Declaration.name)[position]? = some name := by
      rw [List.getElem?_map, here, Option.map_some, same]
    have next : (table.declarations.map Declaration.name)[other]? = some name := by
      rw [List.getElem?_map, there, Option.map_some, again]
    obtain ⟨inside, -⟩ := List.getElem?_eq_some_iff.1 next
    rw [(List.getElem?_inj inside distinct.names).1 (next.trans first.symm)]

end Table

theorem Stmt.collect_of_mem_declarations {α : Type} (collect : Stmt → List α)
    (ofThen : ∀ cond body, collect body ⊆ collect (.ifThen cond body))
    (ofElse : ∀ cond body other, collect body ⊆ collect (.ifElse cond body other) ∧
      collect other ⊆ collect (.ifElse cond body other))
    (ofLoop : ∀ cond body, collect body ⊆ collect (.loop cond body))
    (ofFunction : ∀ name params body, collect body ⊆ collect (.function name params body))
    {stmt : Stmt} {declaration : Declaration Stmt} (member : declaration ∈ stmt.declarations) :
    collect declaration.body ⊆ collect stmt := by
  induction stmt with
  | assign target value => cases member
  | print value => cases member
  | ifThen cond body ih => exact List.Subset.trans (ih member) (ofThen cond body)
  | ifElse cond body other ihBody ihOther =>
    rcases List.mem_append.1 member with member | member
    · exact List.Subset.trans (ihBody member) (ofElse cond body other).1
    · exact List.Subset.trans (ihOther member) (ofElse cond body other).2
  | loop cond body ih => exact List.Subset.trans (ih member) (ofLoop cond body)
  | function name params body ih =>
    rcases List.mem_cons.1 member with rfl | member
    · exact ofFunction name params body
    · exact List.Subset.trans (ih member) (ofFunction name params body)

theorem Stmt.calls_of_mem_declarations {stmt : Stmt} {declaration : Declaration Stmt}
    (member : declaration ∈ stmt.declarations) : declaration.body.calls ⊆ stmt.calls :=
  Stmt.collect_of_mem_declarations Stmt.calls (fun _ _ => List.subset_append_right _ _)
    (fun _ _ _ => ⟨List.Subset.trans (List.subset_append_left _ _) (List.subset_append_right _ _),
      List.Subset.trans (List.subset_append_right _ _) (List.subset_append_right _ _)⟩)
    (fun _ _ => List.subset_append_right _ _) (fun _ _ _ => List.Subset.refl _) member

theorem Stmt.vars_of_mem_declarations {stmt : Stmt} {declaration : Declaration Stmt}
    (member : declaration ∈ stmt.declarations) : declaration.body.vars ⊆ stmt.vars :=
  Stmt.collect_of_mem_declarations Stmt.vars (fun _ _ => List.subset_append_right _ _)
    (fun _ _ _ => ⟨List.Subset.trans (List.subset_append_left _ _) (List.subset_append_right _ _),
      List.Subset.trans (List.subset_append_right _ _) (List.subset_append_right _ _)⟩)
    (fun _ _ => List.subset_append_right _ _) (fun _ _ _ => List.Subset.refl _) member

/-- Every text a declaration carries is well spelled. -/
structure Declaration.Valid (declaration : Declaration Stmt) : Prop where
  name : Token.isName declaration.name
  params : ∀ param ∈ declaration.params, Token.isName param
  body : declaration.body.isValid

theorem Stmt.valid_of_mem_declarations {stmt : Stmt} {declaration : Declaration Stmt}
    (valid : stmt.isValid) (member : declaration ∈ stmt.declarations) : declaration.Valid := by
  induction stmt with
  | assign target value => cases member
  | print value => cases member
  | ifThen cond body ih =>
    simp only [Stmt.isValid, Bool.and_eq_true] at valid
    exact ih valid.2 member
  | ifElse cond body other ihBody ihOther =>
    simp only [Stmt.isValid, Bool.and_eq_true] at valid
    rcases List.mem_append.1 member with member | member
    · exact ihBody valid.1.2 member
    · exact ihOther valid.2 member
  | loop cond body ih =>
    simp only [Stmt.isValid, Bool.and_eq_true] at valid
    exact ih valid.2 member
  | function name params body ih =>
    simp only [Stmt.isValid, Bool.and_eq_true, List.all_eq_true] at valid
    rcases List.mem_cons.1 member with rfl | member
    · exact ⟨valid.1.1, valid.1.2, valid.2⟩
    · exact ih valid.2 member

namespace Linked

/-- The facts that linking establishes. -/
structure Sound (linked : Linked) : Prop where
  valid : linked.program.isValid
  listed : linked.table.declarations = linked.program.declarations
  distinct : Table.Distinct linked.table.declarations
  resolved : ∀ site ∈ linked.program.calls,
    ∃ declaration, linked.table.resolve site.callee site.argCount = .ok declaration

theorem ofProgram_eq_ok {program : Program} {linked : Linked}
    (valid : program.isValid) (done : ofProgram program = .ok linked) :
    linked.program = program ∧ linked.Sound := by
  rw [ofProgram] at done
  split at done
  · cases done
  · rename_i table built
    split at done
    · cases done
    · rename_i checked
      cases done
      obtain ⟨listed, distinct⟩ := Table.extendAll_eq_ok Table.distinct_nil built
      exact ⟨rfl, valid, listed, distinct, Table.checkCalls_eq_ok checked⟩

theorem ofTree_eq_ok {tree : Tree} {linked : Linked} (done : ofTree tree = .ok linked) :
    linked.program.toTree = tree ∧ linked.Sound := by
  rw [ofTree] at done
  split at done
  · cases done
  · rename_i program read
    obtain ⟨encoded, valid⟩ := Program.ofTree_eq_ok read
    split at done
    · cases done
    · rename_i found link
      cases done
      obtain ⟨same, sound⟩ := ofProgram_eq_ok valid link
      exact ⟨same ▸ encoded, sound⟩

namespace Sound

variable {linked : Linked} {declaration : Declaration Stmt}

theorem calls_of_declared (sound : linked.Sound)
    (member : declaration ∈ linked.table.declarations) :
    declaration.body.calls ⊆ linked.program.calls := by
  rw [sound.listed] at member
  obtain ⟨stmt, inProgram, inStmt⟩ := List.mem_flatMap.1 member
  exact fun site call =>
    List.mem_flatMap.2 ⟨stmt, inProgram, Stmt.calls_of_mem_declarations inStmt call⟩

theorem vars_of_declared (sound : linked.Sound)
    (member : declaration ∈ linked.table.declarations) :
    declaration.body.vars ⊆ linked.program.vars := by
  rw [sound.listed] at member
  obtain ⟨stmt, inProgram, inStmt⟩ := List.mem_flatMap.1 member
  exact fun name mentioned =>
    List.mem_flatMap.2 ⟨stmt, inProgram, Stmt.vars_of_mem_declarations inStmt mentioned⟩

theorem valid_of_declared (sound : linked.Sound)
    (member : declaration ∈ linked.table.declarations) : declaration.Valid := by
  rw [sound.listed] at member
  obtain ⟨stmt, inProgram, inStmt⟩ := List.mem_flatMap.1 member
  exact Stmt.valid_of_mem_declarations (List.all_eq_true.1 sound.valid stmt inProgram) inStmt

end Sound

end Linked

theorem Tree.generate_eq_ok {tree : Tree} {text : String} (generated : tree.generate = .ok text) :
    ∃ linked, Linked.ofTree tree = .ok linked ∧ tree.lower = .ok linked.lower ∧
      linked.lower.render = text := by
  rw [Tree.generate, Tree.lower] at generated
  cases link : Linked.ofTree tree with
  | error fault =>
    rw [link] at generated
    cases generated
  | ok linked =>
    rw [link] at generated
    cases generated
    exact ⟨linked, rfl, by rw [Tree.lower, link], rfl⟩

end ImpToC
