import SourceTidy.Text.Basic

/-!
Names that look like a misspelt one. The likeness of two texts is the part of their characters that
lies in matching blocks: the longest common block, and the blocks found in the same way on both
sides of it.
-/
namespace SourceTidy.Similar

def commonFront : Text → Text → Nat
  | a :: as, b :: bs => if a = b then commonFront as bs + 1 else 0
  | _, _ => 0

structure Block where
  first : Nat
  second : Nat
  size : Nat
  deriving DecidableEq, Repr

/-- The longest common block, and of several the earliest. -/
def longestBlock (a b : Text) : Block :=
  let places := (List.range a.length).flatMap fun i => (List.range b.length).map fun j => (i, j)
  places.foldl (fun best (i, j) =>
    let size := commonFront (a.drop i) (b.drop j)
    if best.size < size then ⟨i, j, size⟩ else best) ⟨0, 0, 0⟩

def matching : Nat → Text → Text → Nat
  | 0, _, _ => 0
  | fuel + 1, a, b =>
    let block := longestBlock a b
    if block.size = 0 then 0
    else
      block.size + matching fuel (a.take block.first) (b.take block.second) +
        matching fuel (a.drop (block.first + block.size)) (b.drop (block.second + block.size))

/-- A name with its likeness to a word, as a fraction. -/
structure Likeness where
  name : String
  matched : Nat
  total : Nat
  deriving DecidableEq, Repr

def Likeness.of (word name : Text) : Likeness :=
  ⟨String.ofList name, 2 * matching (name.length + 1) name word, name.length + word.length⟩

/-- Names are near if three fifths of the characters match. -/
def Likeness.isNear (l : Likeness) : Bool := 3 * l.total ≤ 5 * l.matched

/-- More alike, or equally alike and later in the alphabet. -/
def Likeness.precedes (a b : Likeness) : Bool :=
  if a.matched * b.total = b.matched * a.total then decide (b.name ≤ a.name)
  else decide (b.matched * a.total ≤ a.matched * b.total)

/-- The three names nearest to a word, in alphabetical order. -/
def near (word : Text) (names : List String) : List String :=
  let likely := (names.map fun n => Likeness.of word n.toList).filter Likeness.isNear
  (((likely.mergeSort Likeness.precedes).take 3).map (·.name)).mergeSort fun a b => decide (a ≤ b)

end SourceTidy.Similar
