import Mathlib.Data.Set.Card
import Mathlib.Logic.Relation

/-!
# Depth-first order

`DepthFirst children seen siblings order` says in which order a depth-first search enters the
nodes below `siblings` that it has not seen before: a node comes before everything that is
entered from it, and the siblings are taken from left to right. Nothing is said about how the
search is carried out; a program is related to it by induction over the derivation.

Over finitely many nodes every search has an order, and a search that starts with nothing
seen enters exactly what can be reached.
-/

namespace CoBridge.Library

variable {Node : Type}

inductive DepthFirst (children : Node → List Node) : Set Node → List Node → List Node → Prop where
  | done {seen} : DepthFirst children seen [] []
  | skip {seen node rest order} (known : node ∈ seen)
      (after : DepthFirst children seen rest order) :
      DepthFirst children seen (node :: rest) order
  | enter {seen node rest inner later} (new : node ∉ seen)
      (below : DepthFirst children (insert node seen) (children node) inner)
      (after : DepthFirst children (insert node seen ∪ {other | other ∈ inner}) rest later) :
      DepthFirst children seen (node :: rest) (node :: (inner ++ later))

namespace DepthFirst

variable {children : Node → List Node} {seen : Set Node} {siblings order : List Node}
variable {nodes : Finset Node}

theorem not_seen (search : DepthFirst children seen siblings order) :
    ∀ node ∈ order, node ∉ seen := by
  induction search with
  | done => exact fun _ member => absurd member List.not_mem_nil
  | skip known after ih => exact ih
  | enter new below after belowNew afterNew =>
    refine List.forall_mem_cons.mpr ⟨new, List.forall_mem_append.mpr ⟨?_, ?_⟩⟩
    · exact fun node member known => belowNew node member (Set.mem_insert_of_mem _ known)
    · exact fun node member known =>
        afterNew node member (Set.mem_union_left _ (Set.mem_insert_of_mem _ known))

/-- No node is entered twice. -/
theorem nodup (search : DepthFirst children seen siblings order) : order.Nodup := by
  induction search with
  | done => exact List.nodup_nil
  | skip known after ih => exact ih
  | @enter seen node rest inner later new below after belowNodup afterNodup =>
    refine List.nodup_cons.mpr ⟨?_, List.nodup_append.mpr ⟨belowNodup, afterNodup, ?_⟩⟩
    · rw [List.mem_append, not_or]
      exact ⟨fun member => below.not_seen node member (Set.mem_insert _ _),
        fun member => after.not_seen node member
          (Set.mem_union_left _ (Set.mem_insert _ _))⟩
    · rintro first firstMember second secondMember rfl
      exact after.not_seen first secondMember (Set.mem_union_right _ firstMember)

/-- A search has one order. -/
theorem unique (search : DepthFirst children seen siblings order) {other : List Node}
    (again : DepthFirst children seen siblings other) : order = other := by
  induction search generalizing other with
  | done =>
    cases again
    rfl
  | skip known after ih =>
    cases again with
    | skip _ after => exact ih after
    | enter new below after => exact absurd known new
  | enter new below after belowUnique afterUnique =>
    cases again with
    | skip known _ => exact absurd known new
    | enter _ below after =>
      obtain rfl := belowUnique below
      rw [afterUnique after]

/-- Everything that is entered can be reached. -/
theorem reachable (search : DepthFirst children seen siblings order) :
    ∀ node ∈ order, ∃ sibling ∈ siblings,
      Relation.ReflTransGen (fun parent child => child ∈ children parent) sibling node := by
  induction search with
  | done => exact fun _ member => absurd member List.not_mem_nil
  | skip known after ih =>
    intro node member
    obtain ⟨sibling, listed, path⟩ := ih node member
    exact ⟨sibling, List.mem_cons_of_mem _ listed, path⟩
  | @enter seen first rest inner later new below after belowReach afterReach =>
    refine List.forall_mem_cons.mpr ⟨⟨first, List.mem_cons_self, .refl⟩,
      List.forall_mem_append.mpr ⟨?_, ?_⟩⟩
    · intro node member
      obtain ⟨child, listed, path⟩ := belowReach node member
      exact ⟨first, List.mem_cons_self, path.head listed⟩
    · intro node member
      obtain ⟨sibling, listed, path⟩ := afterReach node member
      exact ⟨sibling, List.mem_cons_of_mem _ listed, path⟩

/-- The siblings, and the children of what is entered, have been seen or are entered. -/
theorem covers (search : DepthFirst children seen siblings order) :
    (∀ sibling ∈ siblings, sibling ∈ seen ∨ sibling ∈ order) ∧
      ∀ node ∈ order, ∀ child ∈ children node, child ∈ seen ∨ child ∈ order := by
  induction search with
  | done =>
    exact ⟨fun _ member => absurd member List.not_mem_nil,
      fun _ member => absurd member List.not_mem_nil⟩
  | skip known after ih =>
    exact ⟨List.forall_mem_cons.mpr ⟨.inl known, ih.1⟩, ih.2⟩
  | @enter seen first rest inner later new below after belowCovers afterCovers =>
    -- what one part of the search has seen is seen before, the node itself, or entered
    have ofBelow {node : Node} (found : node ∈ insert first seen ∨ node ∈ inner) :
        node ∈ seen ∨ node ∈ first :: (inner ++ later) := by
      simp only [Set.mem_insert_iff, List.mem_cons, List.mem_append] at found ⊢
      tauto
    have ofAfter {node : Node}
        (found : node ∈ insert first seen ∪ {other | other ∈ inner} ∨ node ∈ later) :
        node ∈ seen ∨ node ∈ first :: (inner ++ later) := by
      simp only [Set.mem_union, Set.mem_insert_iff, Set.mem_ofPred_eq, List.mem_cons,
        List.mem_append] at found ⊢
      tauto
    constructor
    · refine List.forall_mem_cons.mpr ⟨.inr List.mem_cons_self, fun sibling listed => ?_⟩
      exact ofAfter (afterCovers.1 sibling listed)
    · refine List.forall_mem_cons.mpr ⟨fun child listed => ofBelow (belowCovers.1 child listed),
        List.forall_mem_append.mpr ⟨?_, ?_⟩⟩
      · exact fun node member child listed => ofBelow (belowCovers.2 node member child listed)
      · exact fun node member child listed => ofAfter (afterCovers.2 node member child listed)

/-- With nothing seen before, exactly what can be reached is entered. -/
theorem mem_iff (search : DepthFirst children ∅ siblings order) (node : Node) :
    node ∈ order ↔ ∃ sibling ∈ siblings,
      Relation.ReflTransGen (fun parent child => child ∈ children parent) sibling node := by
  refine ⟨search.reachable node, ?_⟩
  rintro ⟨sibling, listed, path⟩
  obtain ⟨siblingsEntered, childrenEntered⟩ := search.covers
  induction path with
  | refl => exact (siblingsEntered sibling listed).resolve_left (Set.notMem_empty _)
  | tail path step entered =>
    exact (childrenEntered _ entered _ step).resolve_left (Set.notMem_empty _)

/-- How many of the nodes have not been seen. -/
noncomputable def unseenCount (nodes : Finset Node) (seen : Set Node) : Nat :=
  (↑nodes \ seen : Set Node).ncard

theorem unseenCount_mono {before after : Set Node} (grown : before ⊆ after) :
    unseenCount nodes after ≤ unseenCount nodes before :=
  Set.ncard_le_ncard (Set.sdiff_subset_sdiff_right grown) (nodes.finite_toSet.sdiff)

theorem unseenCount_insert_lt {node : Node} (listed : node ∈ nodes) (new : node ∉ seen) :
    unseenCount nodes (insert node seen) < unseenCount nodes seen := by
  refine Set.ncard_lt_ncard (Set.ssubset_iff_of_subset ?_ |>.mpr ?_) nodes.finite_toSet.sdiff
  · exact Set.sdiff_subset_sdiff_right (Set.subset_insert node seen)
  · exact ⟨node, ⟨listed, new⟩, fun unseen => unseen.2 (Set.mem_insert _ _)⟩

/-- Over finitely many nodes a search has an order. -/
theorem exists_order (closed : ∀ node ∈ nodes, ∀ child ∈ children node, child ∈ nodes)
    (seen : Set Node) {siblings : List Node} (listed : ∀ sibling ∈ siblings, sibling ∈ nodes) :
    ∃ order, DepthFirst children seen siblings order := by
  -- by the number of nodes that have not been seen, then along the siblings
  suffices bounded : ∀ left, ∀ seen : Set Node, unseenCount nodes seen < left →
      ∀ siblings : List Node, (∀ sibling ∈ siblings, sibling ∈ nodes) →
        ∃ order, DepthFirst children seen siblings order from
    bounded _ seen (Nat.lt_succ_self _) siblings listed
  intro left
  induction left with
  | zero => exact fun _ bound => absurd bound (Nat.not_lt_zero _)
  | succ left deeper =>
    intro seen bound siblings listed
    induction siblings generalizing seen with
    | nil => exact ⟨[], .done⟩
    | cons node rest further =>
      obtain ⟨nodeListed, restListed⟩ := List.forall_mem_cons.mp listed
      by_cases known : node ∈ seen
      · obtain ⟨order, after⟩ := further seen bound restListed
        exact ⟨order, .skip known after⟩
      · have fewer := unseenCount_insert_lt nodeListed known
        obtain ⟨inner, below⟩ := deeper (insert node seen) (by omega) (children node)
          (closed node nodeListed)
        have smaller : unseenCount nodes (insert node seen ∪ {other | other ∈ inner}) ≤
            unseenCount nodes (insert node seen) :=
          unseenCount_mono Set.subset_union_left
        obtain ⟨later, after⟩ := further (insert node seen ∪ {other | other ∈ inner})
          (by omega) restListed
        exact ⟨node :: (inner ++ later), .enter known below after⟩

end DepthFirst

end CoBridge.Library
