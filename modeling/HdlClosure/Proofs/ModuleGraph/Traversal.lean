import HdlClosure.Proofs.ModuleGraph.Closure

/-! The steps of a search: what it takes from its stack until nothing is left, and which nodes it
visits on the way. The roots share what has been seen, so that no node is visited twice, and each
step is paid for by an edge or by a root. -/
namespace HdlClosure.ModuleGraph

/-- A search empties its stack, whatever number of steps that takes. The first list holds the nodes
that it takes from the stack, in order, the second one those that it had not seen before. -/
inductive Search.Empties (graph : ModuleGraph) :
    Search → List Nat → List Nat → Search → Prop where
  | done {search : Search} (drained : search.stack = []) : Empties graph search [] [] search
  | drop {search after : Search} {number : Nat} {rest taken visited : List Nat}
      (waiting : search.stack = number :: rest) (seen : number ∈ search.seen)
      (later : Empties graph (search.pop graph) taken visited after) :
      Empties graph search (number :: taken) visited after
  | visit {search after : Search} {number : Nat} {rest taken visited : List Nat}
      (waiting : search.stack = number :: rest) (unseen : number ∉ search.seen)
      (later : Empties graph (search.pop graph) taken visited after) :
      Empties graph search (number :: taken) (number :: visited) after

/-- A search goes through its roots one after the other. It begins at the node of a root and empties
its stack before the next root; a root without a node is collected only. -/
inductive Search.Traverses (graph : ModuleGraph) :
    Search → List String → List Nat → List Nat → Search → Prop where
  | done (search : Search) : Traverses graph search [] [] [] search
  | collect {search after : Search} {root : String} {roots : List String}
      {taken visited : List Nat} (unknown : graph.nodeNumber? root = none)
      (later : Traverses graph { search with names := search.names.insert root } roots
        taken visited after) :
      Traverses graph search (root :: roots) taken visited after
  | expand {search between after : Search} {root : String} {number : Nat} {roots : List String}
      {taken visited others fresh : List Nat} (known : graph.nodeNumber? root = some number)
      (empties : Empties graph { search with stack := [number] } taken visited between)
      (later : Traverses graph between roots others fresh after) :
      Traverses graph search (root :: roots) (taken ++ others) (visited ++ fresh) after

theorem contains_eq_isSome (graph : ModuleGraph) (name : String) :
    graph.contains name = (graph.nodeNumber? name).isSome :=
  Std.TreeMap.contains_eq_isSome_getElem?

namespace Search

variable {graph : ModuleGraph} {search after : Search} {taken visited : List Nat}

section Stack

theorem exists_empties (graph : ModuleGraph) (search : Search) :
    ∃ taken visited after, Empties graph search taken visited after := by
  cases waiting : search.stack with
  | nil => exact ⟨[], [], search, .done waiting⟩
  | cons number rest =>
    obtain ⟨taken, visited, after, later⟩ := exists_empties graph (search.pop graph)
    by_cases seen : number ∈ search.seen
    · exact ⟨number :: taken, visited, after, .drop waiting seen later⟩
    · exact ⟨number :: taken, number :: visited, after, .visit waiting seen later⟩
termination_by budget graph search
decreasing_by
  apply budget_pop_lt
  rw [waiting]
  exact List.cons_ne_nil number rest

theorem Empties.drained (empties : Empties graph search taken visited after) :
    after.stack = [] := by
  induction empties with
  | done drained => exact drained
  | drop _ _ _ ih => exact ih
  | visit _ _ _ ih => exact ih

/-- What is taken comes out of the budget. -/
theorem Empties.length_taken_le
    (empties : Empties graph search taken visited after) :
    taken.length + unseenEdges graph after.seen ≤ budget graph search := by
  have pays {search : Search} {number : Nat} {rest taken : List Nat} {left : Nat}
      (waiting : search.stack = number :: rest)
      (paid : taken.length + left ≤ budget graph (search.pop graph)) :
      (number :: taken).length + left ≤ budget graph search := by
    have less : budget graph (search.pop graph) < budget graph search :=
      budget_pop_lt graph (waiting ▸ List.cons_ne_nil number rest)
    rw [List.length_cons]
    omega
  induction empties with
  | done drained => simp [budget, drained]
  | drop waiting _ _ ih => exact pays waiting ih
  | visit waiting _ _ ih => exact pays waiting ih

/-- A round that begins with one node on the stack is paid for by this and by edges. -/
theorem Empties.length_round_le {number : Nat}
    (empties : Empties graph { search with stack := [number] } taken visited after) :
    taken.length + unseenEdges graph after.seen ≤ unseenEdges graph search.seen + 1 := by
  simpa [budget, Nat.add_comm 1] using empties.length_taken_le

theorem run_of_waiting {number steps : Nat} {rest : List Nat}
    (waiting : search.stack = number :: rest) :
    run graph (steps + 1) search = run graph steps (search.pop graph) := by
  rw [run, if_neg (waiting ▸ List.cons_ne_nil number rest)]

/-- With enough steps a run is the search that empties its stack. -/
theorem Empties.run_eq (empties : Empties graph search taken visited after) {steps : Nat}
    (enough : taken.length ≤ steps) : run graph steps search = after := by
  induction empties generalizing steps with
  | done drained =>
    cases steps with
    | zero => rfl
    | succ steps => rw [run, if_pos drained]
  | drop waiting _ _ ih =>
    obtain ⟨steps, rfl⟩ := Nat.exists_eq_add_one_of_ne_zero (Nat.ne_zero_of_lt enough)
    rw [run_of_waiting waiting, ih (Nat.le_of_succ_le_succ enough)]
  | visit waiting _ _ ih =>
    obtain ⟨steps, rfl⟩ := Nat.exists_eq_add_one_of_ne_zero (Nat.ne_zero_of_lt enough)
    rw [run_of_waiting waiting, ih (Nat.le_of_succ_le_succ enough)]

end Stack

section Visits

theorem seen_pop_of_seen {number : Nat} {rest : List Nat} (waiting : search.stack = number :: rest)
    (seen : number ∈ search.seen) : (search.pop graph).seen = search.seen := by
  rw [pop_seen waiting seen]

theorem seen_pop_of_unseen {number : Nat} {rest : List Nat}
    (waiting : search.stack = number :: rest) (unseen : number ∉ search.seen) :
    (search.pop graph).seen = search.seen.insert number := by
  simp [pop, waiting, unseen]

theorem Empties.mem_seen_iff (empties : Empties graph search taken visited after) {number : Nat} :
    number ∈ after.seen ↔ number ∈ search.seen ∨ number ∈ visited := by
  induction empties with
  | done => simp
  | drop waiting seen _ ih => rw [ih, seen_pop_of_seen waiting seen]
  | visit waiting unseen _ ih =>
    rw [ih, seen_pop_of_unseen waiting unseen, mem_seen_insert, List.mem_cons, or_assoc,
      or_left_comm, eq_comm]

/-- No node is visited twice, nor any that was seen before. -/
theorem Empties.nodup_visited (empties : Empties graph search taken visited after) :
    visited.Nodup ∧ ∀ number ∈ visited, number ∉ search.seen := by
  induction empties with
  | done => exact ⟨List.nodup_nil, fun _ member => nomatch member⟩
  | drop waiting seen _ ih => rwa [seen_pop_of_seen waiting seen] at ih
  | @visit search _ number _ _ visited waiting unseen _ ih =>
    obtain ⟨distinct, fresh⟩ := ih
    rw [seen_pop_of_unseen waiting unseen] at fresh
    have other : number ∉ visited := fun member =>
      fresh number member (mem_seen_insert.mpr (.inl rfl))
    refine ⟨List.nodup_cons.mpr ⟨other, distinct⟩, List.forall_mem_cons.mpr ⟨unseen, ?_⟩⟩
    exact fun later member seen => fresh later member (mem_seen_insert.mpr (.inr seen))

end Visits

section Roots

variable {roots : List String}

theorem exists_traverses (graph : ModuleGraph) (search : Search) (roots : List String) :
    ∃ taken visited after, Traverses graph search roots taken visited after := by
  induction roots generalizing search with
  | nil => exact ⟨[], [], search, .done search⟩
  | cons root roots ih =>
    cases known : graph.nodeNumber? root with
    | none =>
      obtain ⟨taken, visited, after, later⟩ :=
        ih { search with names := search.names.insert root }
      exact ⟨taken, visited, after, .collect known later⟩
    | some number =>
      obtain ⟨taken, visited, between, empties⟩ :=
        exists_empties graph { search with stack := [number] }
      obtain ⟨others, fresh, after, later⟩ := ih between
      exact ⟨taken ++ others, visited ++ fresh, after, .expand known empties later⟩

/-- The edges from unseen nodes and the roots with a node pay for what is taken. -/
theorem Traverses.length_taken_le
    (traverses : Traverses graph search roots taken visited after) :
    taken.length + unseenEdges graph after.seen ≤
      unseenEdges graph search.seen + roots.countP graph.contains := by
  induction traverses with
  | done => simp
  | collect unknown _ ih => simpa [contains_eq_isSome, unknown] using ih
  | @expand _ _ _ root _ roots _ _ _ _ known empties _ ih =>
    have round := empties.length_round_le
    have counted : (root :: roots).countP graph.contains = roots.countP graph.contains + 1 :=
      List.countP_cons_of_pos (by rw [contains_eq_isSome, known, Option.isSome_some])
    rw [List.length_append, counted]
    omega

theorem Traverses.nodup_visited (traverses : Traverses graph search roots taken visited after) :
    visited.Nodup ∧ ∀ number ∈ visited, number ∉ search.seen := by
  induction traverses with
  | done => exact ⟨List.nodup_nil, fun _ member => nomatch member⟩
  | collect _ _ ih => exact ih
  | expand _ empties _ ih =>
    obtain ⟨distinct, fresh⟩ := empties.nodup_visited
    obtain ⟨distinctLater, freshLater⟩ := ih
    have apart := fun number member => mt empties.mem_seen_iff.mpr (freshLater number member)
    refine ⟨List.nodup_append.mpr ⟨distinct, distinctLater, ?_⟩, fun number member => ?_⟩
    · rintro number member _ later rfl
      exact apart number later (.inr member)
    · rcases List.mem_append.mp member with now | later
      · exact fresh number now
      · exact fun seen => apart number later (.inl seen)

theorem addRoot_of_known {root : String} {number : Nat}
    (known : graph.nodeNumber? root = some number) :
    search.addRoot graph root =
      run graph (graph.edges.size + 1) { search with stack := [number] } := by
  rw [addRoot, known]

theorem addRoot_of_unknown {root : String} (unknown : graph.nodeNumber? root = none) :
    search.addRoot graph root = { search with names := search.names.insert root } := by
  rw [addRoot, unknown]

/-- The bound on the steps of a round is never met. -/
theorem Traverses.eq_foldl
    (traverses : Traverses graph search roots taken visited after) :
    after = roots.foldl (addRoot graph) search := by
  induction traverses with
  | done => rfl
  | collect unknown _ ih => rw [ih, List.foldl_cons, addRoot_of_unknown unknown]
  | @expand search _ _ _ _ _ taken _ _ _ known empties _ ih =>
    have round := empties.length_round_le
    have bound := unseenEdges_le graph search.seen
    have enough : taken.length ≤ graph.edges.size + 1 := by omega
    rw [ih, List.foldl_cons, addRoot_of_known known, empties.run_eq enough]

end Roots

end Search

/-- The search for what the roots need ends, in any graph made from declarations. It visits no node
twice, with all the roots together; it takes no more nodes from its stack than there are edges, and
roots with a node; and its stack is empty when a root is done with. -/
theorem search_ends (declarations : List Declaration) (roots : List String) :
    let graph := ofDeclarations declarations
    (∃ taken visited search, Search.Traverses graph {} roots taken visited search) ∧
      (∀ taken visited search, Search.Traverses graph {} roots taken visited search →
        search.names = graph.reach roots ∧ visited.Nodup ∧
          taken.length ≤ graph.edges.size + roots.countP graph.contains) ∧
      ∀ count, ((roots.take count).foldl (Search.addRoot graph) {}).stack = [] := by
  intro graph
  have complete := complete_ofDeclarations declarations
  refine ⟨Search.exists_traverses graph {} roots, ?_, fun count => ?_⟩
  · intro taken visited search traverses
    have paid := traverses.length_taken_le
    have bound := Search.unseenEdges_le graph {}
    refine ⟨?_, traverses.nodup_visited.1, ?_⟩
    · rw [traverses.eq_foldl, reach]
    · exact Nat.le_trans (Nat.le_trans (Nat.le_add_right _ _) paid) (Nat.add_le_add_right bound _)
  · exact (Search.valid_roots complete (roots.take count)).2

end HdlClosure.ModuleGraph
