import SourceTidy.Text.Basic

/-!
Syntax trees of Java sources, and the two walks over them: the search for the first error and the
listing of all nodes. Both keep the nodes still to be visited on a stack, whose top is the head of
the list.
-/
namespace SourceTidy.Java

/-- A place in a source. Rows and columns count from zero. -/
structure Position where
  row : Nat
  column : Nat
  deriving DecidableEq, Repr, Inhabited

/-- A node of a syntax tree. A node is missing if the grammar asks for it and the source lacks it.
`hasError` tells that an error or a missing node stands below. -/
structure Node where
  kind : String
  start : Position
  stop : Position
  isMissing : Bool := false
  hasError : Bool := false
  text : Text := []
  children : List Node := []
  deriving Repr, Inhabited

namespace Node

/-- The kind of a node that holds source text that fits no rule. -/
def errorKind : String := "ERROR"

def stringKinds : List String := ["string_literal", "text_block"]

def size : Node → Nat
  | ⟨_, _, _, _, _, _, children⟩ => 1 + children.attach.foldr (fun ⟨c, _⟩ n => c.size + n) 0

def stackSize (stack : List Node) : Nat :=
  stack.foldr (fun n below => n.size + below) 0

theorem size_eq (n : Node) : n.size = 1 + stackSize n.children := by
  cases n
  simp [size, stackSize]

theorem stackSize_append (upper lower : List Node) :
    stackSize (upper ++ lower) = stackSize upper + stackSize lower := by
  induction upper with
  | nil => simp [stackSize]
  | cons n upper ih =>
    simp only [stackSize, List.cons_append, List.foldr_cons] at ih ⊢
    rw [ih, Nat.add_assoc]

theorem stackSize_cons (n : Node) (rest : List Node) :
    stackSize (n :: rest) = 1 + stackSize (n.children ++ rest) := by
  rw [stackSize_append, ← Nat.add_assoc, ← size_eq]
  rfl

def isFaulty (n : Node) : Bool :=
  n.kind = errorKind || n.isMissing

/-- The first faulty node met when only nodes with errors below are opened. -/
def firstFaultyOn : List Node → Option Node
  | [] => none
  | n :: rest =>
    if n.isFaulty then some n
    else if n.hasError then firstFaultyOn (n.children ++ rest)
    else firstFaultyOn rest
termination_by stack => stackSize stack
decreasing_by
  all_goals rw [stackSize_cons]
  · omega
  · rw [stackSize_append]
    omega

def firstError (root : Node) : Option Node :=
  firstFaultyOn [root]

def nodesOn : List Node → List Node
  | [] => []
  | n :: rest => n :: nodesOn (n.children ++ rest)
termination_by stack => stackSize stack
decreasing_by
  rw [stackSize_cons]
  omega

/-- Every node of a tree, parents before children and children from left to right. -/
def nodes (root : Node) : List Node :=
  nodesOn [root]

/-- The rows that a string literal goes on to after its first row. -/
def laterRows (n : Node) : List Nat :=
  if stringKinds.contains n.kind then
    (List.range (n.stop.row - n.start.row)).map (n.start.row + 1 + ·)
  else []

/-- The rows inside string literals of several lines. Their white space is content. -/
def stringRows (root : Node) : List Nat :=
  root.nodes.flatMap laterRows

def sortedStringRows (root : Node) : List Nat :=
  (root.stringRows.mergeSort (· ≤ ·)).eraseDups

end Node

end SourceTidy.Java
