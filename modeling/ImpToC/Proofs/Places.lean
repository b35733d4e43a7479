import ImpToC.Tree

/-! Places in a tree. A place is a way down from the root, told by the numbers of the children it
goes through. A node comes before all that is below it, and all that is below one child comes
before what is below a later one. The walk over a tree meets its nodes in this order, each at its
place and no other. -/
namespace ImpToC.Tree

def at? : Tree → List Nat → Option Tree
  | tree, [] => some tree
  | tree, i :: path => tree.children[i]?.bind fun child => child.at? path

/-- The order of places: a node before those below it, and the children from left to right. -/
inductive Precedes : List Nat → List Nat → Prop where
  | above {i : Nat} {path : List Nat} : Precedes [] (i :: path)
  | left {i j : Nat} {path other : List Nat} (less : i < j) : Precedes (i :: path) (j :: other)
  | inside {i : Nat} {path other : List Nat} (before : Precedes path other) :
    Precedes (i :: path) (i :: other)

theorem Precedes.asymm {path other : List Nat} (before : Precedes path other) :
    ¬Precedes other path := by
  induction before with
  | above => exact nofun
  | left less =>
    intro back
    cases back with
    | left more => omega
    | inside => omega
  | inside _ ih =>
    intro back
    cases back with
    | left less => omega
    | inside before => exact ih before

theorem precedes_iff_mem {α : Type} {front back : List (List Nat × α)} {path other : List Nat}
    {a b : α}
    (sorted : (front ++ (path, a) :: back).Pairwise fun first second => Precedes first.1 second.1)
    (mem : (other, b) ∈ front ++ (path, a) :: back) :
    Precedes other path ↔ (other, b) ∈ front := by
  obtain ⟨-, inBack, across⟩ := List.pairwise_append.1 sorted
  constructor
  · intro before
    rcases List.mem_append.1 mem with inFront | later
    · exact inFront
    · rcases List.mem_cons.1 later with same | later
      · cases same
        exact absurd before before.asymm
      · exact absurd before ((List.pairwise_cons.1 inBack).1 (other, b) later).asymm
  · exact fun inFront => across (other, b) inFront (path, a) List.mem_cons_self

mutual

def places : Tree → List (List Nat × Tree)
  | node kind value? children => ([], node kind value? children) :: placesFrom 0 children

/-- The same for some children, of which the first has this number. -/
def placesFrom (i : Nat) : List Tree → List (List Nat × Tree)
  | [] => []
  | tree :: trees =>
    tree.places.map (fun place => (i :: place.1, place.2)) ++ placesFrom (i + 1) trees

end

mutual

theorem map_snd_places (tree : Tree) : tree.places.map Prod.snd = tree.preorder := by
  match tree with
  | .node kind value? children =>
    rw [places, preorder, List.map_cons, map_snd_placesFrom 0 children]

theorem map_snd_placesFrom (i : Nat) (trees : List Tree) :
    (placesFrom i trees).map Prod.snd = preorderList trees := by
  match trees with
  | [] => rfl
  | tree :: trees =>
    rw [placesFrom, preorderList, List.map_append, List.map_map,
      map_snd_placesFrom (i + 1) trees, ← map_snd_places tree]
    rfl

end

mutual

theorem mem_places {path : List Nat} {found : Tree} (tree : Tree) :
    (path, found) ∈ tree.places ↔ tree.at? path = some found := by
  match tree, path with
  | .node kind value? children, [] =>
    have deeper : ([], found) ∉ placesFrom 0 children := fun mem => by
      obtain ⟨j, rest, same, -⟩ := (mem_placesFrom 0 children).1 mem
      cases same
    simp only [places, List.mem_cons, Prod.mk.injEq, true_and, deeper, or_false, at?,
      Option.some.injEq]
    exact eq_comm
  | .node kind value? children, i :: path =>
    rw [places, List.mem_cons, mem_placesFrom 0 children]
    constructor
    · rintro (same | ⟨j, rest, same, below⟩)
      · cases same
      · rw [Nat.zero_add] at same
        cases same
        exact below
    · exact fun below => .inr ⟨i, path, by rw [Nat.zero_add], below⟩

theorem mem_placesFrom {path : List Nat} {found : Tree} (i : Nat) (trees : List Tree) :
    (path, found) ∈ placesFrom i trees ↔
      ∃ j rest, path = (i + j) :: rest ∧
        (trees[j]?.bind fun tree => tree.at? rest) = some found := by
  match trees with
  | [] => simp [placesFrom]
  | tree :: trees =>
    rw [placesFrom, List.mem_append, mem_placesFrom (i + 1) trees, List.mem_map]
    constructor
    · rintro (⟨⟨rest, node⟩, mem, same⟩ | ⟨j, rest, rfl, below⟩)
      · cases same
        exact ⟨0, rest, rfl, (mem_places tree).1 mem⟩
      · exact ⟨j + 1, rest, by rw [Nat.add_assoc, Nat.add_comm 1 j], below⟩
    · rintro ⟨j, rest, rfl, below⟩
      cases j with
      | zero => exact .inl ⟨(rest, found), (mem_places tree).2 below, rfl⟩
      | succ j => exact .inr ⟨j, rest, by rw [Nat.add_assoc, Nat.add_comm 1 j], below⟩

end

mutual

theorem pairwise_places (tree : Tree) :
    tree.places.Pairwise fun first second => Precedes first.1 second.1 := by
  match tree with
  | .node kind value? children =>
    rw [places, List.pairwise_cons]
    refine ⟨fun ⟨path, found⟩ mem => ?_, pairwise_placesFrom 0 children⟩
    obtain ⟨j, rest, rfl, -⟩ := (mem_placesFrom 0 children).1 mem
    exact .above

theorem pairwise_placesFrom (i : Nat) (trees : List Tree) :
    (placesFrom i trees).Pairwise fun first second => Precedes first.1 second.1 := by
  match trees with
  | [] => exact .nil
  | tree :: trees =>
    rw [placesFrom, List.pairwise_append]
    refine ⟨?_, pairwise_placesFrom (i + 1) trees, ?_⟩
    · exact List.pairwise_map.2 ((pairwise_places tree).imp .inside)
    · rintro first inFirst ⟨path, found⟩ later
      obtain ⟨place, -, rfl⟩ := List.mem_map.1 inFirst
      obtain ⟨j, rest, rfl, -⟩ := (mem_placesFrom (i + 1) trees).1 later
      exact .left (by omega)

end

variable {α : Type} {pick : Tree → Option α}

def gather (pick : Tree → Option α) (tree : Tree) : List (List Nat × α) :=
  tree.places.filterMap fun place => (pick place.2).map fun found => (place.1, found)

theorem mem_gather {tree : Tree} {path : List Nat} {a : α} :
    (path, a) ∈ gather pick tree ↔ ∃ node, tree.at? path = some node ∧ pick node = some a := by
  simp only [gather, List.mem_filterMap, Option.map_eq_some_iff, Prod.exists, Prod.mk.injEq,
    mem_places]
  constructor
  · rintro ⟨place, node, found, b, picked, rfl, rfl⟩
    exact ⟨node, found, picked⟩
  · rintro ⟨node, found, picked⟩
    exact ⟨path, node, found, a, picked, rfl, rfl⟩

theorem pairwise_gather (pick : Tree → Option α) (tree : Tree) :
    (gather pick tree).Pairwise fun first second => Precedes first.1 second.1 := by
  refine List.pairwise_filterMap.2 ((pairwise_places tree).imp fun before => ?_)
  intro found picked other pickedOther
  obtain ⟨a, -, rfl⟩ := Option.map_eq_some_iff.1 picked
  obtain ⟨b, -, rfl⟩ := Option.map_eq_some_iff.1 pickedOther
  exact before

theorem map_snd_gather (pick : Tree → Option α) (tree : Tree) :
    (gather pick tree).map Prod.snd = tree.preorder.filterMap pick := by
  rw [gather, List.map_filterMap, ← map_snd_places, List.filterMap_map]
  congr 1
  funext place
  rw [Function.comp_apply]
  cases pick place.2 <;> rfl

end ImpToC.Tree
