import Mathlib.Data.List.Forall2
import ImpToC.Proofs.Linking
import ImpToC.Proofs.Places

/-! The functions of a tree and their table. The table lists what the tree declares, place by
place, as long as no name of a function and no parameter of one comes twice; otherwise it is
refused for what stands at the first place where one does. A tree need not encode a program for
this: any node may stand where a name is expected, and a function node may have one child only,
which is then its name and its body. -/
namespace ImpToC

def IsFirstRepeat (names : List String) (name : String) : Prop :=
  ∃ front back, names = front ++ name :: back ∧ front.Nodup ∧ name ∈ front

theorem IsFirstRepeat.not_nodup {names : List String} {name : String}
    (repeated : IsFirstRepeat names name) : ¬names.Nodup := by
  obtain ⟨front, back, rfl, -, before⟩ := repeated
  intro distinct
  exact (List.nodup_append.1 distinct).2.2 name before name List.mem_cons_self rfl

theorem firstRepeat?_eq_some_iff {seen names : List String} {name : String} :
    firstRepeat? seen names = some name ↔
      ∃ front back, names = front ++ name :: back ∧ front.Nodup ∧
        (∀ other ∈ front, other ∉ seen) ∧ (name ∈ seen ∨ name ∈ front) := by
  induction names generalizing seen with
  | nil => simp [firstRepeat?]
  | cons first names ih =>
    rw [firstRepeat?]
    by_cases known : first ∈ seen
    · rw [if_pos known]
      constructor
      · rintro ⟨⟩
        exact ⟨[], names, rfl, .nil, List.forall_mem_nil _, .inl known⟩
      · rintro ⟨front, back, split, -, apart, -⟩
        cases front with
        | nil =>
          cases split
          rfl
        | cons other front =>
          cases split
          exact absurd known (apart first List.mem_cons_self)
    · rw [if_neg known, ih]
      constructor
      · rintro ⟨front, back, rfl, distinct, apart, before⟩
        have fresh : first ∉ front := fun mem => apart first mem List.mem_cons_self
        refine ⟨first :: front, back, rfl, distinct.cons fresh, ?_, ?_⟩
        · refine List.forall_mem_cons.2 ⟨known, fun other mem old => ?_⟩
          exact apart other mem (List.mem_cons_of_mem _ old)
        · simp only [List.mem_cons] at before ⊢
          tauto
      · rintro ⟨front, back, split, distinct, apart, before⟩
        cases front with
        | nil =>
          cases split
          simp [known] at before
        | cons other front =>
          cases split
          obtain ⟨fresh, distinct⟩ := List.nodup_cons.1 distinct
          refine ⟨front, back, rfl, distinct, fun other mem old => ?_, ?_⟩
          · rcases List.mem_cons.1 old with rfl | old
            · exact fresh mem
            · exact apart other (List.mem_cons_of_mem _ mem) old
          · simp only [List.mem_cons] at before ⊢
            tauto

theorem firstRepeat?_nil_eq_some_iff {names : List String} {name : String} :
    firstRepeat? [] names = some name ↔ IsFirstRepeat names name := by
  simp [firstRepeat?_eq_some_iff, IsFirstRepeat]

namespace Table

variable {β : Type} {table : Table β} {declaration : Declaration β} {fault : FunctionError}
  {before : List (Declaration β)}

/-- Why a declaration may not follow those before it: one of its parameters comes twice, or
failing that its name has been taken. -/
inductive Refuses (before : List (Declaration β)) (declaration : Declaration β) :
    FunctionError → Prop where
  | param {param : String} (repeated : IsFirstRepeat declaration.params param) :
    Refuses before declaration (.duplicateParameter declaration.name param)
  | name (distinct : declaration.params.Nodup)
    (taken : declaration.name ∈ before.map Declaration.name) :
    Refuses before declaration (.duplicate declaration.name)

theorem Refuses.not_distinct (refuses : Refuses before declaration fault)
    (rest : List (Declaration β)) : ¬Distinct (before ++ declaration :: rest) := by
  intro distinct
  cases refuses with
  | param repeated => exact repeated.not_nodup (distinct.params declaration (by simp))
  | name _ taken =>
    have names := distinct.names
    rw [List.map_append, List.map_cons] at names
    exact (List.nodup_append.1 names).2.2 _ taken _ List.mem_cons_self rfl

theorem extend_eq_error_iff :
    table.extend declaration = .error fault ↔ Refuses table.declarations declaration fault := by
  cases found : firstRepeat? [] declaration.params with
  | some param =>
    have repeated := firstRepeat?_nil_eq_some_iff.1 found
    rw [extend_of_repeat found]
    constructor
    · rintro ⟨⟩
      exact .param repeated
    · intro refuses
      cases refuses with
      | param other =>
        rw [firstRepeat?_nil_eq_some_iff.2 other] at found
        cases found
        rfl
      | name distinct => exact absurd distinct repeated.not_nodup
  | none =>
    have distinct := (firstRepeat?_eq_none found).1
    cases known : table.index.lookup declaration.name with
    | some position =>
      have taken : declaration.name ∈ table.declarations.map Declaration.name := by
        by_contra fresh
        rw [lookup_eq_none_iff.2 fresh] at known
        cases known
      rw [extend_of_known found known]
      constructor
      · rintro ⟨⟩
        exact .name distinct taken
      · intro refuses
        cases refuses with
        | param repeated => exact absurd distinct repeated.not_nodup
        | name => rfl
    | none =>
      rw [extend_of_fresh found known]
      constructor
      · intro refused
        cases refused
      · intro refuses
        cases refuses with
        | param repeated => exact absurd distinct repeated.not_nodup
        | name _ taken => exact absurd taken (lookup_eq_none_iff.1 known)

theorem extendAll_eq_error_iff {declarations : List (Declaration β)}
    (distinct : Distinct table.declarations) :
    table.extendAll declarations = .error fault ↔
      ∃ front declaration back, declarations = front ++ declaration :: back ∧
        Distinct (table.declarations ++ front) ∧
        Refuses (table.declarations ++ front) declaration fault := by
  induction declarations generalizing table with
  | nil => simp [extendAll]
  | cons first declarations ih =>
    rw [extendAll]
    cases step : table.extend first with
    | error reason =>
      have refused := extend_eq_error_iff.1 step
      constructor
      · rintro ⟨⟩
        refine ⟨[], first, declarations, rfl, ?_, ?_⟩
        · rwa [List.append_nil]
        · rwa [List.append_nil]
      · rintro ⟨front, other, back, split, still, refuses⟩
        cases front with
        | nil =>
          cases split
          rw [List.append_nil] at refuses
          have again := extend_eq_error_iff.2 refuses
          rw [step] at again
          cases again
          rfl
        | cons other front =>
          -- a split further on would have the refused one among the distinct
          cases split
          exact absurd still (refused.not_distinct front)
    | ok next =>
      obtain ⟨listed, still⟩ := extend_eq_ok distinct step
      have regrouped (front : List (Declaration β)) :
          table.declarations ++ first :: front = next.declarations ++ front := by simp [listed]
      rw [ih still]
      constructor
      · rintro ⟨front, other, back, rfl, apart, refuses⟩
        refine ⟨first :: front, other, back, rfl, ?_, ?_⟩
        · rwa [regrouped]
        · rwa [regrouped]
      · rintro ⟨front, other, back, split, apart, refuses⟩
        cases front with
        | nil =>
          cases split
          rw [List.append_nil] at refuses
          rw [extend_eq_error_iff.2 refuses] at step
          cases step
        | cons other front =>
          cases split
          rw [regrouped] at apart refuses
          exact ⟨front, _, back, rfl, apart, refuses⟩

theorem ofDeclarations_eq_error_iff {declarations : List (Declaration β)} :
    ofDeclarations declarations = .error fault ↔
      ∃ front declaration back, declarations = front ++ declaration :: back ∧ Distinct front ∧
        Refuses front declaration fault :=
  extendAll_eq_error_iff distinct_nil

theorem ofDeclarations_map_eq_error_iff {α : Type} {placed : List (α × Declaration β)} :
    ofDeclarations (placed.map Prod.snd) = .error fault ↔
      ∃ front place declaration back, placed = front ++ (place, declaration) :: back ∧
        Distinct (front.map Prod.snd) ∧ Refuses (front.map Prod.snd) declaration fault := by
  rw [ofDeclarations_eq_error_iff]
  constructor
  · rintro ⟨front, declaration, back, split, distinct, refuses⟩
    obtain ⟨front, rest, rfl, rfl, tail⟩ := List.map_eq_append_iff.1 split
    obtain ⟨⟨place, declaration⟩, back, rfl, rfl, -⟩ := List.map_eq_cons_iff.1 tail
    exact ⟨front, place, declaration, back, rfl, distinct, refuses⟩
  · rintro ⟨front, place, declaration, back, rfl, distinct, refuses⟩
    exact ⟨front.map Prod.snd, declaration, back.map Prod.snd, by simp, distinct, refuses⟩

theorem ofDeclarations_eq_ok {declarations : List (Declaration β)}
    (done : ofDeclarations declarations = .ok table) :
    table.declarations = declarations ∧ Distinct declarations := by
  obtain ⟨listed, distinct⟩ := extendAll_eq_ok distinct_nil done
  have same : table.declarations = declarations := listed
  exact ⟨same, same ▸ distinct⟩

theorem exists_ofDeclarations_iff {declarations : List (Declaration β)} :
    (∃ table, ofDeclarations declarations = .ok table) ↔ Distinct declarations := by
  constructor
  · rintro ⟨table, done⟩
    exact (ofDeclarations_eq_ok done).2
  · intro distinct
    obtain ⟨table, done, -⟩ := ofDeclarations_of_distinct distinct
    exact ⟨table, done⟩

end Table

namespace Tree

/-- What a function node with these children declares. The first child gives the name, those
between the first and the last the parameters, and the last is the body. -/
inductive Declares : List Tree → Declaration Tree → Prop where
  | alone (only : Tree) : Declares [only] ⟨only.nameOrEmpty, [], only⟩
  | full (first : Tree) (params : List Tree) (body : Tree) :
    Declares (first :: (params ++ [body]))
      ⟨first.nameOrEmpty, params.map nameOrEmpty, body⟩

theorem declaration?_full (kind : Kind) (value? : Option Value) (first : Tree) (params : List Tree)
    (body : Tree) :
    (node kind value? (first :: (params ++ [body]))).declaration? =
      some ⟨first.nameOrEmpty, params.map nameOrEmpty, body⟩ := by
  have last : (first :: (params ++ [body])).getLast? = some body := by
    rw [← List.cons_append, List.getLast?_concat]
  simp only [declaration?, children, List.head?_cons, last, Tree.params, List.tail_cons,
    List.dropLast_concat]

theorem declaration?_eq_some_iff {tree : Tree} {declaration : Declaration Tree} :
    tree.declaration? = some declaration ↔ Declares tree.children declaration := by
  obtain ⟨kind, value?, children⟩ := tree
  constructor
  · intro declares
    cases children with
    | nil => cases declares
    | cons first others =>
      rcases List.eq_nil_or_concat others with rfl | ⟨params, body, rfl⟩
      · cases declares
        exact .alone first
      · rw [List.concat_eq_append] at declares ⊢
        rw [declaration?_full] at declares
        cases declares
        exact .full first params body
  · intro declares
    change Declares children declaration at declares
    cases declares with
    | alone only => rfl
    | full first params body => exact declaration?_full kind value? first params body

def DeclaresAt (tree : Tree) (path : List Nat) (declaration : Declaration Tree) : Prop :=
  ∃ node, tree.at? path = some node ∧ node.kind = .function ∧ Declares node.children declaration

def NamesFunctions (tree : Tree) : Prop :=
  ∀ path node, tree.at? path = some node → node.kind = .function → node.children ≠ []

theorem namesFunctions_iff {tree : Tree} :
    tree.NamesFunctions ↔
      ∀ place ∈ tree.places, place.2.kind = .function → place.2.children ≠ [] := by
  constructor
  · exact fun named place mem => named place.1 place.2 ((mem_places tree).1 mem)
  · exact fun named path node found => named (path, node) ((mem_places tree).2 found)

instance (tree : Tree) : Decidable tree.NamesFunctions := decidable_of_iff' _ namesFunctions_iff

def declared? (place : List Nat × Tree) : Option (List Nat × Declaration Tree) :=
  if place.2.kind = .function then place.2.declaration?.map fun found => (place.1, found) else none

def declared (tree : Tree) : List (List Nat × Declaration Tree) := tree.places.filterMap declared?

theorem declared?_eq_some_iff {place : List Nat × Tree} {path : List Nat}
    {declaration : Declaration Tree} :
    declared? place = some (path, declaration) ↔
      place.1 = path ∧ place.2.kind = .function ∧ Declares place.2.children declaration := by
  rw [declared?]
  by_cases isFunction : place.2.kind = .function
  · simp [isFunction, ← declaration?_eq_some_iff, and_comm]
  · simp [isFunction]

theorem declared_eq_gather (tree : Tree) :
    tree.declared =
      gather (fun node => if node.kind = .function then node.declaration? else none) tree := by
  rw [declared, gather]
  congr 1
  funext place
  rw [declared?]
  split <;> rfl

theorem mem_declared {tree : Tree} {path : List Nat} {declaration : Declaration Tree} :
    (path, declaration) ∈ tree.declared ↔ tree.DeclaresAt path declaration := by
  simp only [declared_eq_gather, mem_gather, Option.ite_none_right_eq_some,
    declaration?_eq_some_iff, DeclaresAt]

theorem pairwise_declared (tree : Tree) :
    tree.declared.Pairwise fun first second => Precedes first.1 second.1 := by
  rw [declared_eq_gather]
  exact pairwise_gather _ tree

theorem DeclaresAt.unique {tree : Tree} {path : List Nat} {first second : Declaration Tree}
    (declares : tree.DeclaresAt path first) (again : tree.DeclaresAt path second) :
    first = second := by
  obtain ⟨node, found, -, isFirst⟩ := declares
  obtain ⟨other, foundOther, -, isSecond⟩ := again
  rw [found] at foundOther
  cases foundOther
  rw [← declaration?_eq_some_iff] at isFirst isSecond
  rw [isFirst] at isSecond
  exact Option.some.inj isSecond

theorem exists_declaration? {tree : Tree} (nonempty : tree.children ≠ []) :
    ∃ declaration, tree.declaration? = some declaration := by
  obtain ⟨first, others, same⟩ := List.exists_cons_of_ne_nil nonempty
  rcases List.eq_nil_or_concat others with rfl | ⟨params, body, rfl⟩
  · have declares := Declares.alone first
    rw [← same] at declares
    exact ⟨_, declaration?_eq_some_iff.2 declares⟩
  · have declares := Declares.full first params body
    rw [← List.concat_eq_append, ← same] at declares
    exact ⟨_, declaration?_eq_some_iff.2 declares⟩

theorem map_declaration?_filter {places : List (List Nat × Tree)}
    (named : ∀ place ∈ places, place.2.kind = .function → place.2.children ≠ []) :
    ((places.map Prod.snd).filter fun node => node.kind == .function).map declaration? =
      (places.filterMap declared?).map fun place => some place.2 := by
  induction places with
  | nil => rfl
  | cons place places ih =>
    obtain ⟨first, others⟩ := List.forall_mem_cons.1 named
    by_cases isFunction : place.2.kind = .function
    · obtain ⟨declaration, found⟩ := exists_declaration? (first isFunction)
      have here : declared? place = some (place.1, declaration) :=
        declared?_eq_some_iff.2 ⟨rfl, isFunction, declaration?_eq_some_iff.1 found⟩
      rw [List.filterMap_cons_some here, List.map_cons, List.map_cons,
        List.filter_cons_of_pos (by simp [isFunction]), List.map_cons, ih others, found]
    · have here : declared? place = none := if_neg isFunction
      rw [List.filterMap_cons_none here, List.map_cons,
        List.filter_cons_of_neg (by simp [isFunction]), ih others]

theorem map_declaration?_functions {tree : Tree} (named : tree.NamesFunctions) :
    tree.functions.map declaration? = tree.declared.map fun place => some place.2 := by
  rw [functions_eq, ← map_snd_places]
  exact map_declaration?_filter (namesFunctions_iff.1 named)

structure Unambiguous (tree : Tree) : Prop where
  names : ∀ path other first second, tree.DeclaresAt path first → tree.DeclaresAt other second →
    path ≠ other → first.name ≠ second.name
  params : ∀ path declaration, tree.DeclaresAt path declaration → declaration.params.Nodup

theorem distinct_iff_unambiguous {tree : Tree} :
    Table.Distinct (tree.declared.map Prod.snd) ↔ tree.Unambiguous := by
  constructor
  · intro distinct
    refine ⟨fun path other first second declares again apart same => ?_,
      fun path declaration declares => ?_⟩
    · have names := distinct.names
      rw [List.map_map] at names
      have equal := List.inj_on_of_nodup_map names (mem_declared.2 declares)
        (mem_declared.2 again) same
      exact apart (congrArg Prod.fst equal)
    · exact distinct.params declaration (List.mem_map_of_mem (mem_declared.2 declares))
  · intro clear
    have distinct : tree.declared.Nodup := (pairwise_declared tree).imp fun before => by
      rintro rfl
      exact before.asymm before
    refine ⟨?_, fun declaration mem => ?_⟩
    · rw [List.map_map]
      refine distinct.map_on ?_
      rintro ⟨path, first⟩ declares ⟨other, second⟩ again same
      rw [mem_declared] at declares again
      -- one name at one place is one declaration; at two places there are two names
      by_cases here : path = other
      · subst here
        rw [declares.unique again]
      · exact absurd same (clear.names path other first second declares again here)
    · obtain ⟨⟨path, declaration⟩, declares, rfl⟩ := List.mem_map.1 mem
      exact clear.params path declaration (mem_declared.1 declares)

/-- What is wrong with the function at this place: one of its parameters comes twice, or failing
that its name is the name of a function at a place before. -/
inductive Offends (tree : Tree) (path : List Nat) : FunctionError → Prop where
  | param {declaration : Declaration Tree} {param : String}
    (declares : tree.DeclaresAt path declaration)
    (repeated : IsFirstRepeat declaration.params param) :
    Offends tree path (.duplicateParameter declaration.name param)
  | name {declaration other : Declaration Tree} {earlier : List Nat}
    (declares : tree.DeclaresAt path declaration) (distinct : declaration.params.Nodup)
    (before : Precedes earlier path) (taken : tree.DeclaresAt earlier other)
    (same : other.name = declaration.name) :
    Offends tree path (.duplicate declaration.name)

theorem Offends.exists_declares {tree : Tree} {path : List Nat} {fault : FunctionError}
    (offends : tree.Offends path fault) : ∃ declaration, tree.DeclaresAt path declaration := by
  cases offends with
  | param declares => exact ⟨_, declares⟩
  | name declares => exact ⟨_, declares⟩

theorem offends_iff_refuses {tree : Tree} {front back : List (List Nat × Declaration Tree)}
    {path : List Nat} {declaration : Declaration Tree} {fault : FunctionError}
    (split : tree.declared = front ++ (path, declaration) :: back) :
    tree.Offends path fault ↔ Table.Refuses (front.map Prod.snd) declaration fault := by
  have sorted := split ▸ pairwise_declared tree
  have declares : tree.DeclaresAt path declaration := by
    rw [← mem_declared, split]
    exact List.mem_append_right _ List.mem_cons_self
  constructor
  · intro offends
    cases offends with
    | param again repeated =>
      cases declares.unique again
      exact .param repeated
    | @name _ other earlier again distinct before taken same =>
      cases declares.unique again
      have mem := split ▸ mem_declared.2 taken
      have inFront := (precedes_iff_mem sorted mem).1 before
      refine .name distinct (same ▸ ?_)
      exact List.mem_map_of_mem (List.mem_map_of_mem inFront)
  · intro refuses
    cases refuses with
    | param repeated => exact .param declares repeated
    | name distinct taken =>
      obtain ⟨other, listed, same⟩ := List.mem_map.1 taken
      obtain ⟨⟨earlier, other⟩, inFront, rfl⟩ := List.mem_map.1 listed
      have mem : (earlier, other) ∈ front ++ (path, declaration) :: back :=
        List.mem_append_left _ inFront
      refine .name declares distinct ((precedes_iff_mem sorted mem).2 inFront) ?_ same
      rw [← mem_declared, split]
      exact mem

theorem distinct_iff_not_offends {tree : Tree} {front back : List (List Nat × Declaration Tree)}
    {path : List Nat} {declaration : Declaration Tree}
    (split : tree.declared = front ++ (path, declaration) :: back) :
    Table.Distinct (front.map Prod.snd) ↔
      ∀ earlier, Precedes earlier path → ∀ fault, ¬tree.Offends earlier fault := by
  have sorted := split ▸ pairwise_declared tree
  constructor
  · intro distinct earlier before fault offends
    obtain ⟨other, declares⟩ := offends.exists_declares
    have inFront := (precedes_iff_mem sorted (split ▸ mem_declared.2 declares)).1 before
    obtain ⟨start, others, rfl⟩ := List.append_of_mem inFront
    rw [List.append_assoc, List.cons_append] at split
    have refuses := (offends_iff_refuses split).1 offends
    rw [List.map_append, List.map_cons] at distinct
    exact refuses.not_distinct (others.map Prod.snd) distinct
  · intro none
    -- if they are not distinct, their own table is refused, and for one of them
    cases built : Table.ofDeclarations (front.map Prod.snd) with
    | ok table =>
      exact (Table.ofDeclarations_eq_ok built).2
    | error fault =>
      obtain ⟨start, earlier, other, others, rfl, -, refuses⟩ :=
        Table.ofDeclarations_map_eq_error_iff.1 built
      have inFront : (earlier, other) ∈ start ++ (earlier, other) :: others :=
        List.mem_append_right _ List.mem_cons_self
      have before := (precedes_iff_mem sorted (List.mem_append_left _ inFront)).2 inFront
      rw [List.append_assoc, List.cons_append] at split
      exact absurd ((offends_iff_refuses split).2 refuses) (none earlier before fault)

end Tree

namespace Table

theorem extendNodes_eq {table : Table Tree} {nodes : List Tree}
    {declarations : List (Declaration Tree)}
    (same : nodes.map Tree.declaration? = declarations.map some) :
    table.extendNodes nodes = (table.extendAll declarations).mapError .function := by
  induction nodes generalizing table declarations with
  | nil =>
    cases declarations with
    | nil => rfl
    | cons declaration declarations => cases same
  | cons node nodes ih =>
    cases declarations with
    | nil => cases same
    | cons declaration declarations =>
      obtain ⟨first, others⟩ := List.cons.inj same
      simp only [extendNodes, extendAll, first]
      cases table.extend declaration with
      | error fault => rfl
      | ok next => exact ih others

theorem ofTree_eq {tree : Tree} (named : tree.NamesFunctions) :
    ofTree tree = (ofDeclarations (tree.declared.map Prod.snd)).mapError .function := by
  refine extendNodes_eq ?_
  rw [Tree.map_declaration?_functions named, List.map_map]
  rfl

/-- The table has one entry for each function of the tree, in the order of their places, which is
that of the walk; the index gives a name the position of the function that has it, and so the name
leads to its entry. -/
structure Tabulates (table : Table Tree) (tree : Tree) : Prop where
  listed : ∃ paths : List (List Nat), paths.Pairwise Tree.Precedes ∧
    (∀ path, path ∈ paths ↔ ∃ declaration, tree.DeclaresAt path declaration) ∧
    List.Forall₂ tree.DeclaresAt paths table.declarations
  walked : table.declarations.map some = tree.functions.map Tree.declaration?
  indexed : ∀ name position, table.index.lookup name = some position ↔
    ∃ path declaration, tree.DeclaresAt path declaration ∧ declaration.name = name ∧
      table.declarations[position]? = some declaration
  found : ∀ path declaration, tree.DeclaresAt path declaration →
    table.get? declaration.name = some declaration
  absent : ∀ name, (∀ path declaration, tree.DeclaresAt path declaration →
    declaration.name ≠ name) → table.get? name = none

theorem ofTree_eq_ok {tree : Tree} (named : tree.NamesFunctions) {table : Table Tree}
    (built : ofTree tree = .ok table) :
    table.declarations = tree.declared.map Prod.snd ∧ Distinct table.declarations := by
  rw [ofTree_eq named] at built
  cases done : ofDeclarations (tree.declared.map Prod.snd) with
  | error fault =>
    rw [done] at built
    cases built
  | ok found =>
    rw [done] at built
    cases built
    obtain ⟨listed, distinct⟩ := ofDeclarations_eq_ok done
    exact ⟨listed, listed ▸ distinct⟩

theorem tabulates_of_ofTree {tree : Tree} (named : tree.NamesFunctions) {table : Table Tree}
    (built : ofTree tree = .ok table) : table.Tabulates tree := by
  obtain ⟨declared, distinct⟩ := ofTree_eq_ok named built
  have declares_iff (declaration : Declaration Tree) :
      declaration ∈ table.declarations ↔ ∃ path, tree.DeclaresAt path declaration := by
    simp only [declared, List.mem_map, Prod.exists, exists_eq_right, Tree.mem_declared]
  refine ⟨?_, ?_, fun name position => ?_, fun path declaration declares => ?_, fun name none => ?_⟩
  · refine ⟨tree.declared.map Prod.fst, List.pairwise_map.2 (Tree.pairwise_declared tree),
      fun path => ?_, ?_⟩
    · simp only [List.mem_map, Prod.exists, exists_and_right, exists_eq_right, Tree.mem_declared]
    · rw [declared, List.forall₂_map_left_iff, List.forall₂_map_right_iff, List.forall₂_same]
      exact fun place mem => Tree.mem_declared.1 mem
  · rw [Tree.map_declaration?_functions named, declared, List.map_map]
    rfl
  · rw [distinct.lookup_eq_some_iff]
    constructor
    · rintro ⟨declaration, here, same⟩
      obtain ⟨path, declares⟩ := (declares_iff declaration).1 (List.mem_of_getElem? here)
      exact ⟨path, declaration, declares, same, here⟩
    · rintro ⟨path, declaration, -, same, here⟩
      exact ⟨declaration, here, same⟩
  · exact distinct.get?_eq_some_iff.2 ⟨(declares_iff declaration).2 ⟨path, declares⟩, rfl⟩
  · rw [get?_eq_none_iff, List.mem_map]
    rintro ⟨declaration, listed, same⟩
    obtain ⟨path, declares⟩ := (declares_iff declaration).1 listed
    exact none path declaration declares same

theorem exists_ofTree_iff {tree : Tree} (named : tree.NamesFunctions) :
    (∃ table, ofTree tree = .ok table) ↔ tree.Unambiguous := by
  rw [← Tree.distinct_iff_unambiguous, ← exists_ofDeclarations_iff, ofTree_eq named]
  cases ofDeclarations (tree.declared.map Prod.snd) <;> simp [Except.mapError]

theorem ofTree_eq_error_iff {tree : Tree} (named : tree.NamesFunctions) {error : TableError} :
    ofTree tree = .error error ↔
      ∃ path fault, error = .function fault ∧ tree.Offends path fault ∧
        ∀ earlier, Tree.Precedes earlier path → ∀ other, ¬tree.Offends earlier other := by
  have built : ofTree tree = .error error ↔
      ∃ fault, error = .function fault ∧
        ofDeclarations (tree.declared.map Prod.snd) = .error fault := by
    rw [ofTree_eq named]
    cases ofDeclarations (tree.declared.map Prod.snd) <;> simp [Except.mapError, eq_comm]
  rw [built]
  constructor
  · rintro ⟨fault, rfl, failed⟩
    obtain ⟨front, path, declaration, back, split, distinct, refuses⟩ :=
      ofDeclarations_map_eq_error_iff.1 failed
    exact ⟨path, fault, rfl, (Tree.offends_iff_refuses split).2 refuses,
      (Tree.distinct_iff_not_offends split).1 distinct⟩
  · rintro ⟨path, fault, rfl, offends, first⟩
    obtain ⟨declaration, declares⟩ := offends.exists_declares
    obtain ⟨front, back, split⟩ := List.append_of_mem (Tree.mem_declared.2 declares)
    exact ⟨fault, rfl, ofDeclarations_map_eq_error_iff.2 ⟨front, path, declaration, back, split,
      (Tree.distinct_iff_not_offends split).2 first, (Tree.offends_iff_refuses split).1 offends⟩⟩

/-- The function table of a tree is exactly its declarations. There is one if and only if the
functions have different names and each has different parameters; then it lists them as they
stand in the tree and finds them by name. Otherwise it is refused for the first function that
offends, wherever that stands. -/
theorem ofTree_tabulates {tree : Tree} (named : tree.NamesFunctions) :
    ((∃ table, ofTree tree = .ok table) ↔ tree.Unambiguous) ∧
      (∀ table, ofTree tree = .ok table → table.Tabulates tree) ∧
      ∀ error, ofTree tree = .error error ↔
        ∃ path fault, error = .function fault ∧ tree.Offends path fault ∧
          ∀ earlier, Tree.Precedes earlier path → ∀ other, ¬tree.Offends earlier other := by
  refine ⟨exists_ofTree_iff named, fun table built => ?_, fun error => ?_⟩
  · exact tabulates_of_ofTree named built
  · exact ofTree_eq_error_iff named

/-- A function that is the body of another is found by its name. If it takes both the name of the
other and one parameter twice, it is refused for the parameter. -/
theorem ofTree_tabulates_nested :
    let leaf (kind : Tree.Kind) (text : String) : Tree := .node kind (some (.name text)) []
    let inner (name param : String) : Tree := .node .function none
      [leaf .ident name, leaf .param "b", leaf .param param, leaf .ident "b"]
    let outer (name param : String) : Tree := .node .program none
      [.node .function none [leaf .ident "f", leaf .param "a", inner name param]]
    ((outer "g" "c").Unambiguous ∧
        ∃ table, ofTree (outer "g" "c") = .ok table ∧
          table.get? "g" = some ⟨"g", ["b", "c"], leaf .ident "b"⟩) ∧
      ¬(outer "f" "b").Unambiguous ∧
        ofTree (outer "f" "b") = .error (.function (.duplicateParameter "f" "b")) ∧
        ∃ path, (outer "f" "b").Offends path (.duplicateParameter "f" "b") := by
  intro leaf inner outer
  have named : (outer "g" "c").NamesFunctions := by decide
  have named' : (outer "f" "b").NamesFunctions := by decide
  obtain ⟨table, built⟩ : ∃ table, ofTree (outer "g" "c") = .ok table := by
    rw [ofTree, Tree.functions_eq]
    exact ⟨_, rfl⟩
  have failed : ofTree (outer "f" "b") = .error (.function (.duplicateParameter "f" "b")) := by
    rw [ofTree, Tree.functions_eq]
    rfl
  have declares : (outer "g" "c").DeclaresAt [0, 2] ⟨"g", ["b", "c"], leaf .ident "b"⟩ :=
    ⟨inner "g" "c", rfl, rfl,
      .full (leaf .ident "g") [leaf .param "b", leaf .param "c"] (leaf .ident "b")⟩
  obtain ⟨clear, tabulates, -⟩ := ofTree_tabulates named
  obtain ⟨clear', -, refused⟩ := ofTree_tabulates named'
  refine ⟨⟨clear.1 ⟨_, built⟩, _, built, (tabulates _ built).found _ _ declares⟩, ?_, failed, ?_⟩
  · intro unambiguous
    obtain ⟨table, again⟩ := clear'.2 unambiguous
    rw [failed] at again
    cases again
  · obtain ⟨path, fault, same, offends, -⟩ := (refused _).1 failed
    cases same
    exact ⟨path, offends⟩

end Table

end ImpToC
