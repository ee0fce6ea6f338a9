import PageGraft.Syntax.Node

/-!
# Document order

The document order of a tree is described by addresses. The address of a node lists the indices of the
children that lead from the root to it, so a tree has one node for each of its addresses, and the
lexical order of addresses puts a node in front of what is below it and behind what is below earlier
siblings. `isDocumentOrder_preorder` says that `Node.preorder` goes through the addresses in this order.

A tree can be visited with a stack, on which the children of a visited node go last child first.
`walk_eq_foldl` says that the visits are then those of the document order.
-/

namespace PageGraft.Syntax

namespace Node

/-! ## Addresses -/

/-- The node at an address, with the nodes around it, nearest first. -/
def at? (ancestors : List Node) (node : Node) : List Nat → Option (Node × List Node)
  | [] => some (node, ancestors)
  | index :: address => node.children[index]?.bind fun child => child.at? (node :: ancestors) address

mutual

/-- The addresses of the nodes of a tree, in document order. -/
def addresses : Node → List (List Nat)
  | ⟨_, _, _, _, _, _, _, _, children⟩ => [] :: addressesFrom 0 children

/-- The addresses of the nodes of siblings, the first of which has some index. -/
def addressesFrom (index : Nat) : List Node → List (List Nat)
  | [] => []
  | node :: rest => (addresses node).map (index :: ·) ++ addressesFrom (index + 1) rest

end

variable {node : Node} {ancestors : List Node}

theorem addresses_eq : node.addresses = [] :: addressesFrom 0 node.children := by
  cases node
  rw [addresses]

theorem preorder_eq :
    node.preorder ancestors = (node, ancestors) :: preorderAll (node :: ancestors) node.children := by
  cases node
  rw [preorder]

theorem preorderAll_eq_flatMap {nodes : List Node} :
    preorderAll ancestors nodes = nodes.flatMap (preorder ancestors) := by
  induction nodes with
  | nil => rfl
  | cons node nodes ih => rw [preorderAll, ih, List.flatMap_cons]

/-- What holds of a tree if it holds of the children of its root holds of every tree. -/
theorem children_induction {holds : Node → Prop}
    (hstep : ∀ node, (∀ child ∈ node.children, holds child) → holds node) (node : Node) :
    holds node := by
  refine hstep node fun child hchild => ?_
  exact children_induction hstep child
termination_by node
decreasing_by
  cases node with
  | mk _ _ _ _ _ _ _ _ children =>
    have hsize : sizeOf child < sizeOf children := List.sizeOf_lt_of_mem hchild
    rw [Node.mk.sizeOf_spec]
    omega

/-- The addresses below siblings are those of each of them behind its index. -/
theorem mem_addressesFrom {start : Nat} {nodes : List Node} {address : List Nat} :
    address ∈ addressesFrom start nodes ↔
      ∃ index child rest, address = (start + index) :: rest ∧ nodes[index]? = some child ∧
        rest ∈ child.addresses := by
  induction nodes generalizing start with
  | nil => simp [addressesFrom]
  | cons node nodes ih =>
    rw [addressesFrom, List.mem_append, List.mem_map, ih]
    constructor
    · rintro (⟨rest, hrest, rfl⟩ | ⟨index, child, rest, rfl, hchild, hrest⟩)
      · exact ⟨0, node, rest, rfl, rfl, hrest⟩
      · exact ⟨index + 1, child, rest, by rw [Nat.add_assoc, Nat.add_comm 1], hchild, hrest⟩
    · rintro ⟨index, child, rest, rfl, hchild, hrest⟩
      cases index with
      | zero =>
        obtain rfl : node = child := Option.some.inj hchild
        exact .inl ⟨rest, hrest, rfl⟩
      | succ index =>
        exact .inr ⟨index, child, rest, by rw [Nat.add_assoc, Nat.add_comm 1], hchild, hrest⟩

/-- The addresses of a tree are those at which there is a node. -/
theorem mem_addresses {address : List Nat} :
    address ∈ node.addresses ↔ (node.at? ancestors address).isSome := by
  induction address generalizing node ancestors with
  | nil => simp [addresses_eq, at?]
  | cons index address ih =>
    rw [addresses_eq, List.mem_cons, mem_addressesFrom, at?]
    simp only [reduceCtorEq, false_or, Nat.zero_add, List.cons.injEq]
    constructor
    · rintro ⟨_, child, _, ⟨rfl, rfl⟩, hchild, haddress⟩
      rw [hchild]
      exact ih.mp haddress
    · intro hsome
      cases hchild : node.children[index]? with
      | none => simp [hchild] at hsome
      | some child =>
        rw [hchild] at hsome
        exact ⟨index, child, address, ⟨rfl, rfl⟩, hchild, ih.mpr hsome⟩

/-- The addresses of a tree are in lexical order, each once. -/
theorem pairwise_addresses (node : Node) : node.addresses.Pairwise (· < ·) := by
  induction node using children_induction with
  | hstep node ih =>
    have hsiblings : ∀ (start : Nat) (nodes : List Node),
        (∀ child ∈ nodes, child.addresses.Pairwise (· < ·)) →
          (addressesFrom start nodes).Pairwise (· < ·) := by
      intro start nodes hnodes
      induction nodes generalizing start with
      | nil => exact .nil
      | cons first nodes ihNodes =>
        obtain ⟨hfirst, hrest⟩ := List.forall_mem_cons.mp hnodes
        rw [addressesFrom, List.pairwise_append, List.pairwise_map]
        refine ⟨hfirst.imp fun hless => ?_, ihNodes _ hrest, ?_⟩
        · exact List.cons_lt_cons_iff.mpr (.inr ⟨rfl, hless⟩)
        · intro left hleft right hright
          obtain ⟨_, -, rfl⟩ := List.mem_map.mp hleft
          obtain ⟨index, _, _, rfl, -⟩ := mem_addressesFrom.mp hright
          exact List.cons_lt_cons_iff.mpr (.inl (by omega))
    rw [addresses_eq, List.pairwise_cons]
    refine ⟨fun address haddress => ?_, hsiblings 0 node.children ih⟩
    obtain ⟨_, _, _, rfl, -⟩ := mem_addressesFrom.mp haddress
    exact List.nil_lt_cons _ _

/-- The document order goes through the addresses of a tree. -/
theorem map_at?_addresses (node : Node) :
    ∀ ancestors, node.addresses.map (node.at? ancestors) = (node.preorder ancestors).map some := by
  induction node using children_induction with
  | hstep node ih =>
    intro ancestors
    -- `before` are the siblings that come first; their number is the index of the next one
    have hsiblings : ∀ before nodes : List Node, node.children = before ++ nodes →
        (addressesFrom before.length nodes).map (node.at? ancestors) =
          (preorderAll (node :: ancestors) nodes).map some := by
      intro before nodes hsplit
      induction nodes generalizing before with
      | nil => rfl
      | cons child nodes ihNodes =>
        have hchild : node.children[before.length]? = some child := by simp [hsplit]
        have hmem : child ∈ node.children := List.mem_of_getElem? hchild
        have hlater := ihNodes (before ++ [child]) (by simp [hsplit])
        rw [List.length_append, List.length_singleton] at hlater
        rw [addressesFrom, preorderAll, List.map_append, List.map_append, hlater, List.map_map,
          ← ih child hmem (node :: ancestors)]
        congr 1
        refine List.map_congr_left fun address _ => ?_
        rw [Function.comp, at?, hchild, Option.bind_some]
    rw [addresses_eq, preorder_eq, List.map_cons, List.map_cons]
    exact congrArg _ (hsiblings [] node.children rfl)

/-- The visits go through a tree by its addresses: one for each of them, in lexical order. -/
def IsDocumentOrder (root : Node) (visits : List (Node × List Node)) : Prop :=
  ∃ addresses : List (List Nat), addresses.Pairwise (· < ·) ∧
    (∀ address, address ∈ addresses ↔ (root.at? [] address).isSome) ∧
    addresses.map (root.at? []) = visits.map some

theorem isDocumentOrder_preorder (root : Node) : root.IsDocumentOrder (root.preorder []) :=
  ⟨root.addresses, pairwise_addresses root, fun _ => mem_addresses, map_at?_addresses root []⟩

end Node

/-! ## Visits with a stack -/

variable {State : Type}

/-- Puts the children of a node on a stack, so that the first child is on top. -/
def pushChildren (node : Node) (ancestors : List Node) (stack : List (Node × List Node)) :
    List (Node × List Node) :=
  node.children.reverse.foldl (fun stack child => (child, node :: ancestors) :: stack) stack

/-- The places that are still to be visited, in document order. -/
def ahead (stack : List (Node × List Node)) : List (Node × List Node) :=
  stack.flatMap fun place => place.1.preorder place.2

theorem ahead_pushChildren {node : Node} {ancestors : List Node} {stack : List (Node × List Node)} :
    ahead (pushChildren node ancestors stack) =
      Node.preorderAll (node :: ancestors) node.children ++ ahead stack := by
  rw [pushChildren, List.foldl_reverse, Node.preorderAll_eq_flatMap]
  induction node.children with
  | nil => rfl
  | cons child children ih =>
    rw [List.foldr_cons, List.flatMap_cons, List.append_assoc, ← ih]
    rfl

theorem ahead_cons {node : Node} {ancestors : List Node} {stack : List (Node × List Node)} :
    ahead ((node, ancestors) :: stack) =
      (node, ancestors) :: ahead (pushChildren node ancestors stack) := by
  rw [ahead_pushChildren, ahead, List.flatMap_cons, Node.preorder_eq]
  rfl

/-- Takes one node after the other from a stack, visits it and puts its children on the stack. -/
def walk (visit : State → Node × List Node → State) :
    List (Node × List Node) → State → State
  | [], state => state
  | (node, ancestors) :: stack, state =>
    walk visit (pushChildren node ancestors stack) (visit state (node, ancestors))
termination_by stack => (ahead stack).length
decreasing_by
  rw [ahead_cons, List.length_cons]
  exact Nat.lt_succ_self _

/-- A walk makes the visits that are ahead, in document order. -/
theorem walk_eq_foldl_ahead {visit : State → Node × List Node → State} {stack : List (Node × List Node)}
    {state : State} : walk visit stack state = (ahead stack).foldl visit state := by
  induction stack, state using walk.induct visit with
  | case1 state =>
    rw [walk]
    rfl
  | case2 node ancestors stack state ih => rw [walk, ih, ahead_cons, List.foldl_cons]

/-- A walk from the root of a tree makes its visits in document order. -/
theorem walk_eq_foldl (visit : State → Node × List Node → State) (root : Node) (state : State) :
    walk visit [(root, [])] state = (root.preorder []).foldl visit state := by
  rw [walk_eq_foldl_ahead, ahead, List.flatMap_singleton]

end PageGraft.Syntax
