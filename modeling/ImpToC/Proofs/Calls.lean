import ImpToC.Proofs.Declarations

/-! The calls of a tree. They are checked in one walk with a stack: a node is looked at, and its
children are put in front of the trees that are left. The stack always holds what the recursive
walk has still to visit, so a tree fails for the first call, place by place, whose function the
table does not have with so many parameters. Neither the tree with the calls nor the one with
the functions has to encode a program. -/
namespace ImpToC

namespace Tree

def ownCall? (tree : Tree) : Option CallSite :=
  if tree.kind = .call then some tree.callSite else none

def callsList (trees : List Tree) : List CallSite := (preorderList trees).filterMap ownCall?

theorem callsList_cons (kind : Kind) (value? : Option Value) (children pending : List Tree) :
    callsList (node kind value? children :: pending) =
      (node kind value? children).ownCall?.toList ++ callsList (children ++ pending) := by
  rw [callsList, callsList, preorderList, preorder, preorderList_append, List.cons_append,
    List.filterMap_cons]
  cases (node kind value? children).ownCall? <;> rfl

theorem calls_eq_filterMap (tree : Tree) : tree.calls = tree.preorder.filterMap ownCall? := by
  rw [calls]
  induction tree.preorder with
  | nil => rfl
  | cons node nodes ih =>
    by_cases isCall : node.kind = .call <;> simp [ownCall?, isCall, ih]

end Tree

namespace Table

variable {β : Type} {table : Table β} {fault : FunctionError}

theorem checkCalls_append (front back : List CallSite) :
    table.checkCalls (front ++ back) =
      table.checkCalls front >>= fun _ => table.checkCalls back := by
  induction front with
  | nil => rfl
  | cons site sites ih =>
    rw [List.cons_append, checkCalls, checkCalls, ih]
    cases table.resolve site.callee site.argCount <;> rfl

theorem checkNode_eq_checkCalls (tree : Tree) :
    table.checkNode tree = table.checkCalls tree.ownCall?.toList := by
  rw [checkNode, Tree.ownCall?]
  by_cases isCall : tree.kind = .call
  · rw [if_pos isCall, if_pos isCall, Option.toList_some, checkCalls]
    cases table.resolve tree.callSite.callee tree.callSite.argCount <;> rfl
  · rw [if_neg isCall, if_neg isCall]
    rfl

theorem checkPending_eq_checkCalls (table : Table β) (pending : List Tree) :
    table.checkPending pending = table.checkCalls (Tree.callsList pending) := by
  fun_induction checkPending table pending with
  | case1 => rfl
  | case2 kind value? children pending reason refused =>
    rw [Tree.callsList_cons, checkCalls_append, ← checkNode_eq_checkCalls, refused]
    rfl
  | case3 kind value? children pending passed ih =>
    rw [Tree.callsList_cons, checkCalls_append, ← checkNode_eq_checkCalls, passed, ih]
    rfl

theorem checkTree_eq_checkCalls (table : Table β) (tree : Tree) :
    table.checkTree tree = table.checkCalls tree.calls := by
  rw [checkTree, checkPending_eq_checkCalls, Tree.calls_eq_filterMap, Tree.callsList,
    Tree.preorderList, Tree.preorderList, List.append_nil]

theorem checkCalls_eq_error_iff {sites : List CallSite} :
    table.checkCalls sites = .error fault ↔
      ∃ front site back, sites = front ++ site :: back ∧
        table.checkCalls front = .ok () ∧
        table.resolve site.callee site.argCount = .error fault := by
  constructor
  · intro failed
    induction sites with
    | nil => cases failed
    | cons first sites ih =>
      rw [checkCalls] at failed
      cases found : table.resolve first.callee first.argCount with
      | error reason =>
        rw [found] at failed
        cases failed
        exact ⟨[], first, sites, rfl, rfl, found⟩
      | ok declaration =>
        rw [found] at failed
        obtain ⟨front, site, back, rfl, passed, refused⟩ := ih failed
        refine ⟨first :: front, site, back, rfl, ?_, refused⟩
        rw [checkCalls, found]
        exact passed
  · rintro ⟨front, site, back, rfl, passed, refused⟩
    rw [checkCalls_append, passed]
    change table.checkCalls (site :: back) = .error fault
    rw [checkCalls, refused]

theorem checkCalls_eq_ok_iff {sites : List CallSite} :
    table.checkCalls sites = .ok () ↔ ∀ site ∈ sites, ∃ declaration,
      table.resolve site.callee site.argCount = .ok declaration :=
  ⟨checkCalls_eq_ok, checkCalls_of_resolved⟩

theorem checkCalls_map_eq_error_iff {α : Type} {placed : List (α × CallSite)} :
    table.checkCalls (placed.map Prod.snd) = .error fault ↔
      ∃ front place site back, placed = front ++ (place, site) :: back ∧
        table.checkCalls (front.map Prod.snd) = .ok () ∧
        table.resolve site.callee site.argCount = .error fault := by
  rw [checkCalls_eq_error_iff]
  constructor
  · rintro ⟨front, site, back, split, passed, refused⟩
    obtain ⟨front, rest, rfl, rfl, tail⟩ := List.map_eq_append_iff.1 split
    obtain ⟨⟨place, site⟩, back, rfl, rfl, -⟩ := List.map_eq_cons_iff.1 tail
    exact ⟨front, place, site, back, rfl, passed, refused⟩
  · rintro ⟨front, place, site, back, rfl, passed, refused⟩
    exact ⟨front.map Prod.snd, site, back.map Prod.snd, by simp, passed, refused⟩

end Table

namespace Tree

/-- What a call node with these children asks for. The first child gives the name, and the others
are the arguments; without any child the name is empty and there are no arguments. -/
inductive Asks : List Tree → CallSite → Prop where
  | bare : Asks [] ⟨"", 0⟩
  | full (callee : Tree) (args : List Tree) :
    Asks (callee :: args) ⟨callee.nameOrEmpty, args.length⟩

theorem callSite_eq_iff {tree : Tree} {site : CallSite} :
    tree.callSite = site ↔ Asks tree.children site := by
  obtain ⟨kind, value?, children⟩ := tree
  constructor
  · rintro rfl
    cases children with
    | nil => exact .bare
    | cons callee args => exact .full callee args
  · intro asks
    change Asks children site at asks
    cases asks with
    | bare => rfl
    | full callee args => rfl

def CallsAt (tree : Tree) (path : List Nat) (site : CallSite) : Prop :=
  ∃ node, tree.at? path = some node ∧ node.kind = .call ∧ Asks node.children site

def called (tree : Tree) : List (List Nat × CallSite) := gather ownCall? tree

theorem map_snd_called (tree : Tree) : tree.called.map Prod.snd = tree.calls := by
  rw [called, map_snd_gather, calls_eq_filterMap]

theorem mem_called {tree : Tree} {path : List Nat} {site : CallSite} :
    (path, site) ∈ tree.called ↔ tree.CallsAt path site := by
  simp only [called, mem_gather, ownCall?, Option.ite_none_right_eq_some, Option.some.injEq,
    callSite_eq_iff, CallsAt]

theorem pairwise_called (tree : Tree) :
    tree.called.Pairwise fun first second => Precedes first.1 second.1 :=
  pairwise_gather ownCall? tree

def Supplies (tree : Tree) (site : CallSite) : Prop :=
  ∃ path declaration, tree.DeclaresAt path declaration ∧ declaration.name = site.callee ∧
    declaration.params.length = site.argCount

/-- What a call asks for and the tree does not declare: a function of this name at all, or one
with so many parameters. -/
inductive Lacks (tree : Tree) (site : CallSite) : FunctionError → Prop where
  | unknown (nowhere : ∀ path declaration, tree.DeclaresAt path declaration →
      declaration.name ≠ site.callee) : Lacks tree site (.unknown site.callee)
  | arity {path : List Nat} {declaration : Declaration Tree}
    (declares : tree.DeclaresAt path declaration) (named : declaration.name = site.callee)
    (differ : declaration.params.length ≠ site.argCount) :
    Lacks tree site
      (.arityMismatch site.callee declaration.params.length site.argCount)

end Tree

namespace Table

variable {declaring : Tree} {table : Table Tree} {site : CallSite}

theorem children_ne_nil_of_extendNodes {start : Table Tree} {nodes : List Tree}
    (done : start.extendNodes nodes = .ok table) : ∀ node ∈ nodes, node.children ≠ [] := by
  induction nodes generalizing start with
  | nil => exact List.forall_mem_nil _
  | cons node nodes ih =>
    cases declared : node.declaration? with
    | none =>
      simp only [extendNodes, declared] at done
      cases done
    | some declaration =>
      cases extended : start.extend declaration with
      | error fault =>
        simp only [extendNodes, declared, extended] at done
        cases done
      | ok next =>
        simp only [extendNodes, declared, extended] at done
        refine List.forall_mem_cons.2 ⟨fun empty => ?_, ih done⟩
        rw [Tree.declaration?, empty] at declared
        cases declared

theorem namesFunctions_of_ofTree (built : ofTree declaring = .ok table) :
    declaring.NamesFunctions := by
  intro path node found isFunction
  have listed : node ∈ declaring.functions := by
    rw [Tree.functions_eq, ← Tree.map_snd_places, List.mem_filter]
    exact ⟨List.mem_map_of_mem ((Tree.mem_places declaring).2 found), by simp [isFunction]⟩
  exact children_ne_nil_of_extendNodes built node listed

theorem Tabulates.get?_eq_some_iff (tabulates : table.Tabulates declaring) {name : String}
    {declaration : Declaration Tree} :
    table.get? name = some declaration ↔
      ∃ path, declaring.DeclaresAt path declaration ∧ declaration.name = name := by
  constructor
  · intro found
    by_contra nowhere
    have absent : table.get? name = none := tabulates.absent name fun path other declares same => by
      have foundOther := tabulates.found path other declares
      rw [same, found] at foundOther
      cases foundOther
      exact nowhere ⟨path, declares, same⟩
    rw [found] at absent
    cases absent
  · rintro ⟨path, declares, rfl⟩
    exact tabulates.found path declaration declares

theorem Tabulates.get?_eq_none_iff (tabulates : table.Tabulates declaring) {name : String} :
    table.get? name = none ↔
      ∀ path declaration, declaring.DeclaresAt path declaration → declaration.name ≠ name := by
  refine ⟨fun none path declaration declares same => ?_, tabulates.absent name⟩
  have found := tabulates.found path declaration declares
  rw [same, none] at found
  cases found

theorem Tabulates.resolve_eq_ok_iff (tabulates : table.Tabulates declaring) :
    (∃ declaration, table.resolve site.callee site.argCount = .ok declaration) ↔
      declaring.Supplies site := by
  constructor
  · rintro ⟨declaration, resolved⟩
    obtain ⟨found, count⟩ := resolve_eq_ok resolved
    obtain ⟨path, declares, named⟩ := tabulates.get?_eq_some_iff.1 found
    exact ⟨path, declaration, declares, named, count⟩
  · rintro ⟨path, declaration, declares, named, count⟩
    have found := tabulates.get?_eq_some_iff.2 ⟨path, declares, named⟩
    refine ⟨declaration, ?_⟩
    simp only [resolve, found, if_pos count]

theorem Tabulates.resolve_eq_error_iff (tabulates : table.Tabulates declaring)
    {fault : FunctionError} :
    table.resolve site.callee site.argCount = .error fault ↔ declaring.Lacks site fault := by
  cases found : table.get? site.callee with
  | none =>
    have nowhere := tabulates.get?_eq_none_iff.1 found
    simp only [resolve, found]
    constructor
    · rintro ⟨⟩
      exact .unknown nowhere
    · intro lacks
      cases lacks with
      | unknown => rfl
      | arity declares named => exact absurd named (nowhere _ _ declares)
  | some declaration =>
    obtain ⟨path, declares, named⟩ := tabulates.get?_eq_some_iff.1 found
    simp only [resolve, found]
    constructor
    · intro refused
      split at refused
      · cases refused
      · rename_i differ
        cases refused
        exact .arity declares named differ
    · intro lacks
      cases lacks with
      | unknown nowhere => exact absurd named (nowhere path declaration declares)
      | @arity otherPath other declaresOther namedOther differ =>
        rw [tabulates.get?_eq_some_iff.2 ⟨otherPath, declaresOther, namedOther⟩] at found
        cases found
        rw [if_neg differ]

/-- The check of a tree meets every call in it. It passes if and only if each of them, wherever it
stands, asks for a function that is declared with so many parameters. Otherwise its answer is that
of the first call for which this is not so, with a node before those below it and the children
from the left; and what a call is refused for is what it cannot be resolved for. -/
theorem checkTree_visits_calls (built : ofTree declaring = .ok table) (tree : Tree) :
    (table.checkTree tree = .ok () ↔
        ∀ path site, tree.CallsAt path site → declaring.Supplies site) ∧
      (∀ fault, table.checkTree tree = .error fault ↔
        ∃ path site, tree.CallsAt path site ∧
          table.resolve site.callee site.argCount = .error fault ∧
          ∀ earlier other, Tree.Precedes earlier path → tree.CallsAt earlier other →
            declaring.Supplies other) ∧
      ∀ (site : CallSite) (fault : FunctionError),
        table.resolve site.callee site.argCount = .error fault ↔ declaring.Lacks site fault := by
  have tabulates := tabulates_of_ofTree (namesFunctions_of_ofTree built) built
  have passes {placed : List (List Nat × CallSite)} :
      table.checkCalls (placed.map Prod.snd) = .ok () ↔
        ∀ place ∈ placed, declaring.Supplies place.2 := by
    simp only [checkCalls_eq_ok_iff, tabulates.resolve_eq_ok_iff, List.forall_mem_map]
  refine ⟨?_, fun fault => ?_, fun site fault => tabulates.resolve_eq_error_iff⟩
  · rw [checkTree_eq_checkCalls, ← Tree.map_snd_called, passes]
    simp only [Prod.forall, Tree.mem_called]
  · rw [checkTree_eq_checkCalls, ← Tree.map_snd_called, checkCalls_map_eq_error_iff]
    have sorted := Tree.pairwise_called tree
    constructor
    · rintro ⟨front, path, site, back, split, passed, refused⟩
      have mem : (path, site) ∈ tree.called := split ▸ List.mem_append_right _ List.mem_cons_self
      refine ⟨path, site, Tree.mem_called.1 mem, refused, fun earlier other before calls => ?_⟩
      have listed := split ▸ Tree.mem_called.2 calls
      have sorted := split ▸ sorted
      exact passes.1 passed (earlier, other) ((Tree.precedes_iff_mem sorted listed).1 before)
    · rintro ⟨path, site, calls, refused, first⟩
      obtain ⟨front, back, split⟩ := List.append_of_mem (Tree.mem_called.2 calls)
      refine ⟨front, path, site, back, split, passes.2 fun place inFront => ?_, refused⟩
      have listed : place ∈ front ++ (path, site) :: back := List.mem_append_left _ inFront
      have sorted := split ▸ sorted
      refine first place.1 place.2 ((Tree.precedes_iff_mem sorted listed).2 inFront) ?_
      exact Tree.mem_called.1 (split ▸ listed)

/-- A call inside the argument of another, in a branch that is never taken, is met: it passes if
its function is declared, and is refused before a later call that has no children. -/
theorem checkTree_visits_calls_nested :
    let leaf (kind : Tree.Kind) (text : String) : Tree := .node kind (some (.name text)) []
    let call (callee : String) (arg : Tree) : Tree := .node .call none [leaf .ident callee, arg]
    let branch (callee : String) : Tree := .node .ifElse none
      [.num "0", .node .print none [call "f" (call callee (.num "1"))]]
    let declaring : Tree := .node .program none
      [.node .function none [leaf .ident "f", leaf .param "a", leaf .ident "a"]]
    ∃ table, ofTree declaring = .ok table ∧
      (∀ path site, (branch "f").CallsAt path site → declaring.Supplies site) ∧
      let tree : Tree := .node .program none [branch "g", .node .call none []]
      table.checkTree tree = .error (.unknown "g") ∧
        ∃ path site, tree.CallsAt path site ∧ declaring.Lacks site (.unknown "g") ∧
          ∀ earlier other, Tree.Precedes earlier path → tree.CallsAt earlier other →
            declaring.Supplies other := by
  intro leaf call branch declaring
  let table : Table Tree := Table.empty.push ⟨"f", ["a"], leaf .ident "a"⟩ rfl
  have built : ofTree declaring = .ok table := by
    rw [ofTree, Tree.functions_eq]
    rfl
  refine ⟨table, built, ?_, ?_⟩
  · have passed : table.checkTree (branch "f") = .ok () := by
      rw [checkTree_eq_checkCalls]
      rfl
    exact (checkTree_visits_calls built (branch "f")).1.1 passed
  · intro tree
    have failed : table.checkTree tree = .error (.unknown "g") := by
      rw [checkTree_eq_checkCalls]
      rfl
    obtain ⟨-, refused, lacks⟩ := checkTree_visits_calls built tree
    obtain ⟨path, site, calls, unresolved, first⟩ := (refused _).1 failed
    exact ⟨failed, path, site, calls, (lacks site _).1 unresolved, first⟩

end Table

end ImpToC
