import SourceTidy.Java.Node

namespace SourceTidy.Java.Node

/-- Every node of a tree by recursion: a node, then the nodes of each child from left to right. -/
def preorder : Node → List Node
  | ⟨kind, start, stop, isMissing, hasError, text, children⟩ =>
    ⟨kind, start, stop, isMissing, hasError, text, children⟩ ::
      children.attach.flatMap fun ⟨c, _⟩ => c.preorder

theorem preorder_eq (n : Node) : n.preorder = n :: n.children.flatMap preorder := by
  cases n
  simp [preorder]

/-- A stack stands for the trees on it, one after the other. -/
theorem nodesOn_eq (stack : List Node) : nodesOn stack = stack.flatMap preorder := by
  induction stack using nodesOn.induct with
  | case1 => simp [nodesOn]
  | case2 n rest ih =>
    rw [nodesOn, ih, List.flatMap_append, List.flatMap_cons, preorder_eq n, List.cons_append]

theorem nodes_eq_preorder (root : Node) : root.nodes = root.preorder := by
  rw [nodes, nodesOn_eq, List.flatMap_singleton]

theorem size_lt_of_mem {n c : Node} (child : c ∈ n.children) : c.size < n.size := by
  obtain ⟨left, right, split⟩ := List.append_of_mem child
  have whole : stackSize (c :: right) = c.size + stackSize right := rfl
  rw [size_eq n, split, stackSize_append, whole]
  omega

theorem of_children {P : Node → Prop} (step : ∀ n : Node, (∀ c ∈ n.children, P c) → P n)
    (n : Node) : P n :=
  step n fun c _ => of_children step c
termination_by n.size
decreasing_by exact size_lt_of_mem (by assumption)

/- Addresses. An address names a child on each level, from the root down. -/

def get? : Node → List Nat → Option Node
  | n, [] => some n
  | n, i :: address => n.children[i]?.bind fun c => c.get? address

theorem get?_cons {n : Node} {i : Nat} {address : List Nat} {m : Node} :
    n.get? (i :: address) = some m ↔ ∃ c, n.children[i]? = some c ∧ c.get? address = some m := by
  rw [get?, Option.bind_eq_some_iff]

mutual

def addresses : Node → List (List Nat)
  | ⟨_, _, _, _, _, _, children⟩ => [] :: addressesFrom 0 children

def addressesFrom : Nat → List Node → List (List Nat)
  | _, [] => []
  | i, c :: rest => c.addresses.map (i :: ·) ++ addressesFrom (i + 1) rest

end

theorem addresses_eq (n : Node) : n.addresses = [] :: addressesFrom 0 n.children := by
  cases n
  rw [addresses]

theorem mem_addressesFrom {i : Nat} {trees : List Node} {a : List Nat} :
    a ∈ addressesFrom i trees ↔
      ∃ k c address, a = (i + k) :: address ∧ trees[k]? = some c ∧ address ∈ c.addresses := by
  induction trees generalizing i with
  | nil => simp [addressesFrom]
  | cons c trees ih =>
    rw [addressesFrom, List.mem_append, List.mem_map, ih]
    constructor
    · rintro (⟨address, member, rfl⟩ | ⟨k, d, address, rfl, there, member⟩)
      · exact ⟨0, c, address, rfl, rfl, member⟩
      · exact ⟨k + 1, d, address, by rw [Nat.add_assoc, Nat.add_comm 1 k], there, member⟩
    · rintro ⟨k, d, address, rfl, there, member⟩
      cases k with
      | zero =>
        cases there
        exact .inl ⟨address, member, rfl⟩
      | succ k => exact .inr ⟨k, d, address, by rw [Nat.add_assoc, Nat.add_comm 1 k], there, member⟩

theorem mem_addresses {n : Node} {a : List Nat} : a ∈ n.addresses ↔ (n.get? a).isSome := by
  induction a generalizing n with
  | nil => simp [addresses_eq, get?]
  | cons i address ih =>
    rw [addresses_eq, List.mem_cons, mem_addressesFrom, Option.isSome_iff_exists]
    constructor
    · rintro (empty | ⟨k, c, rest, same, there, member⟩)
      · cases empty
      · rw [Nat.zero_add] at same
        cases same
        obtain ⟨m, found⟩ := Option.isSome_iff_exists.mp (ih.mp member)
        exact ⟨m, get?_cons.mpr ⟨c, there, found⟩⟩
    · rintro ⟨m, found⟩
      obtain ⟨c, there, below⟩ := get?_cons.mp found
      exact .inr ⟨i, c, address, by rw [Nat.zero_add], there, ih.mpr (by simp [below])⟩

theorem addressesFrom_ascending {trees : List Node} (i : Nat)
    (each : ∀ c ∈ trees, c.addresses.Pairwise (List.Lex (· < ·))) :
    (addressesFrom i trees).Pairwise (List.Lex (· < ·)) := by
  induction trees generalizing i with
  | nil => exact .nil
  | cons c trees ih =>
    obtain ⟨first, others⟩ := List.forall_mem_cons.mp each
    rw [addressesFrom, List.pairwise_append, List.pairwise_map]
    refine ⟨first.imp .cons, ih (i + 1) others, ?_⟩
    intro a left b right
    obtain ⟨_, _, rfl⟩ := List.mem_map.mp left
    obtain ⟨k, _, _, rfl, _, _⟩ := mem_addressesFrom.mp right
    exact .rel (by omega)

theorem addresses_ascending (n : Node) : n.addresses.Pairwise (List.Lex (· < ·)) := by
  induction n using of_children with
  | step n ih =>
    rw [addresses_eq, List.pairwise_cons]
    refine ⟨fun a member => ?_, addressesFrom_ascending 0 ih⟩
    obtain ⟨_, _, _, rfl, _, _⟩ := mem_addressesFrom.mp member
    exact .nil

theorem map_get?_addressesFrom {n : Node} {trees : List Node} {i : Nat}
    (rest : n.children.drop i = trees)
    (each : ∀ c ∈ trees, c.addresses.map c.get? = c.preorder.map some) :
    (addressesFrom i trees).map n.get? = (trees.flatMap preorder).map some := by
  induction trees generalizing i with
  | nil => rfl
  | cons c trees ih =>
    obtain ⟨first, others⟩ := List.forall_mem_cons.mp each
    -- The trees are the children from number i on, so that number leads into the first of them.
    have there : n.children[i]? = some c := by
      rw [← List.head?_drop, rest]
      rfl
    have descend (address : List Nat) : n.get? (i :: address) = c.get? address := by
      rw [get?, there, Option.bind_some]
    have tail := ih (i := i + 1) (by rw [← List.tail_drop, rest, List.tail_cons]) others
    rw [addressesFrom, List.map_append, List.map_map, tail, List.flatMap_cons, List.map_append,
      ← first]
    exact congrArg (· ++ _) (List.map_congr_left fun address _ => descend address)

theorem map_get?_addresses (n : Node) : n.addresses.map n.get? = n.preorder.map some := by
  induction n using of_children with
  | step n ih =>
    rw [addresses_eq, preorder_eq, List.map_cons, List.map_cons,
      map_get?_addressesFrom (i := 0) List.drop_zero ih]
    rfl

theorem mem_preorder {root n : Node} :
    n ∈ root.preorder ↔ ∃ address, root.get? address = some n := by
  have listed : n ∈ root.preorder ↔ some n ∈ root.addresses.map root.get? := by
    simp [map_get?_addresses]
  rw [listed, List.mem_map]
  constructor
  · rintro ⟨address, _, found⟩
    exact ⟨address, found⟩
  · rintro ⟨address, found⟩
    exact ⟨address, mem_addresses.mpr (by simp [found]), found⟩

/- Rows inside string literals. -/

theorem mem_laterRows {n : Node} {row : Nat} :
    row ∈ n.laterRows ↔ n.kind ∈ stringKinds ∧ n.start.row < row ∧ row ≤ n.stop.row := by
  rw [laterRows]
  split
  · rename_i string
    rw [List.contains_iff_mem] at string
    simp only [List.mem_map, List.mem_range, string, true_and]
    constructor
    · rintro ⟨k, short, rfl⟩
      omega
    · rintro ⟨low, high⟩
      exact ⟨row - (n.start.row + 1), by omega, by omega⟩
  · rename_i other
    rw [List.contains_iff_mem] at other
    simp [other]

/-- The listing is the recursive one. It visits every address of the tree once, a node before all
that is below it and what is below a child before the next child. So the rows inside string literals
are those of the literals anywhere in the tree, without their first rows. -/
theorem nodes_by_address (root : Node) :
    root.nodes = root.preorder ∧
    (∃ addresses : List (List Nat), root.nodes.map some = addresses.map root.get? ∧
      addresses.Pairwise (List.Lex (· < ·)) ∧ ∀ a, a ∈ addresses ↔ (root.get? a).isSome) ∧
    ∀ row, row ∈ root.stringRows ↔ ∃ address n, root.get? address = some n ∧ n.kind ∈ stringKinds ∧
      n.start.row < row ∧ row ≤ n.stop.row := by
  rw [stringRows, nodes_eq_preorder]
  refine ⟨rfl, ⟨root.addresses, (map_get?_addresses root).symm, addresses_ascending root,
    fun a => mem_addresses⟩, ?_⟩
  intro row
  simp only [List.mem_flatMap, mem_preorder, mem_laterRows]
  constructor
  · rintro ⟨n, ⟨address, found⟩, inside⟩
    exact ⟨address, n, found, inside⟩
  · rintro ⟨address, n, found, inside⟩
    exact ⟨n, ⟨address, found⟩, inside⟩

end SourceTidy.Java.Node
