import SourceTidy.Proofs.StartUp

/-!
The white-space rules keep what stands in string literals of several lines.

The first two rules keep every line on its row. The rule for blank lines moves lines up: a line that
is kept comes to stand below as many lines as are kept before it. It ends by dropping empty lines
whatever they belong to, so only a run of rows that ends in a line with characters is safe.
-/
namespace SourceTidy.Java

open Text

/-- Rows of a source inside literals, from `first` to `last`, where the last line is not empty. -/
structure IsRun (inside : Nat → Prop) (ls : List Text) (first last : Nat) : Prop where
  ordered : first ≤ last
  within : ∀ row, first ≤ row → row ≤ last → inside row
  closed : ∃ line, ls[last]? = some line ∧ line ≠ []

/-- Every run of rows reappears on consecutive rows, and the runs stay in order. -/
structure CarriesRuns (inside : Nat → Prop) (before after : List Text) (place : Nat → Nat) :
    Prop where
  moved : ∀ first last, IsRun inside before first last → ∀ row, first ≤ row → row ≤ last →
    place row = place first + (row - first) ∧ after[place row]? = before[row]?
  ordered : ∀ a b c d, IsRun inside before a b → IsRun inside before c d → b < c → place b < place c

theorem carriesRuns_of_same {inside : Nat → Prop} {before after : List Text}
    (same : ∀ row, inside row → after[row]? = before[row]?) :
    CarriesRuns inside before after id := by
  constructor
  · intro first last run row low high
    refine ⟨?_, same row (run.within row low high)⟩
    simp only [id]
    omega
  · exact fun _ _ _ _ _ _ less => less

namespace Indentation

theorem reindentFrom_protected {settings : Settings} {isProtected : Nat → Bool} {row : Nat}
    {ls out : List Text} (done : reindentFrom settings isProtected row ls = some out) {n : Nat}
    (inside : isProtected (row + n) = true) : out[n]? = ls[n]? := by
  rw [getElem?_reindentFrom done]
  simp [inside]

end Indentation

namespace TrailingBlanks

theorem trimFrom_protected (isProtected : Nat → Bool) (row : Nat) (ls : List Text) {n : Nat}
    (inside : isProtected (row + n) = true) : (trimFrom isProtected row ls)[n]? = ls[n]? := by
  induction ls generalizing row n with
  | nil => rfl
  | cons l ls ih =>
    cases n with
    | zero =>
      rw [Nat.add_zero] at inside
      simp [trimFrom, inside]
    | succ n =>
      rw [← Nat.add_assoc, Nat.add_right_comm] at inside
      simpa [trimFrom] using ih (row + 1) inside

end TrailingBlanks

namespace BlankLines

theorem mem_keepFrom (keep : Int) {isProtected : Nat → Bool} (row : Nat) (begun : Bool) (run : Nat)
    {ls : List Text} {n : Nat} {l : Text} (inside : isProtected (row + n) = true)
    (there : ls[n]? = some l) : (row + n, l) ∈ keepFrom keep isProtected row begun run ls := by
  induction ls generalizing row begun run n with
  | nil => simp at there
  | cons k ls ih =>
    cases n with
    | zero =>
      rw [Nat.add_zero] at inside ⊢
      have same : k = l := by simpa using there
      simp [keepFrom, inside, same]
    | succ n =>
      rw [← Nat.add_assoc, Nat.add_right_comm] at inside ⊢
      have later (begun : Bool) (run : Nat) := ih (row + 1) begun run inside (by simpa using there)
      rw [keepFrom]
      split
      · split
        · exact List.mem_cons_of_mem _ (later _ _)
        · exact later _ _
      · exact List.mem_cons_of_mem _ (later _ _)

theorem keepFrom_ascending (keep : Int) (isProtected : Nat → Bool) (row : Nat) (begun : Bool)
    (run : Nat) (ls : List Text) :
    (keepFrom keep isProtected row begun run ls).Pairwise (·.1 < ·.1) ∧
      ∀ k ∈ keepFrom keep isProtected row begun run ls, row ≤ k.1 := by
  induction ls generalizing row begun run with
  | nil => simp [keepFrom]
  | cons l ls ih =>
    have kept (line : Text) (begun : Bool) (run : Nat) :
        ((row, line) :: keepFrom keep isProtected (row + 1) begun run ls).Pairwise (·.1 < ·.1) ∧
          ∀ k ∈ (row, line) :: keepFrom keep isProtected (row + 1) begun run ls, row ≤ k.1 := by
      obtain ⟨ascending, low⟩ := ih (row + 1) begun run
      refine ⟨List.pairwise_cons.mpr ⟨fun k member => low k member, ascending⟩, ?_⟩
      intro k member
      rcases List.mem_cons.mp member with rfl | member
      · exact Nat.le_refl row
      · exact Nat.le_of_succ_le (low k member)
    rw [keepFrom]
    split
    · split
      · exact kept _ _ _
      · obtain ⟨ascending, low⟩ := ih (row + 1) begun (run + 1)
        exact ⟨ascending, fun k member => Nat.le_of_succ_le (low k member)⟩
    · exact kept _ _ _

/- Kept lines and the rows they come to stand on. -/

def keptBefore (kept : List (Nat × Text)) (row : Nat) : Nat :=
  kept.countP (·.1 < row)

theorem keptBefore_cons (j : Nat × Text) (kept : List (Nat × Text)) (row : Nat) :
    keptBefore (j :: kept) row = keptBefore kept row + if j.1 < row then 1 else 0 := by
  simp [keptBefore, List.countP_cons]

theorem keptBefore_le {kept : List (Nat × Text)} {row later : Nat} (less : row ≤ later) :
    keptBefore kept row ≤ keptBefore kept later := by
  apply List.countP_mono_left
  intro k _ small
  simp only [decide_eq_true_eq] at small ⊢
  omega

theorem keptBefore_eq_zero {kept : List (Nat × Text)} {row : Nat} (above : ∀ k ∈ kept, row ≤ k.1) :
    keptBefore kept row = 0 := by
  rw [keptBefore, List.countP_eq_zero]
  intro k member
  have high := above k member
  simp only [decide_eq_true_eq]
  omega

section Places

variable {kept : List (Nat × Text)} (ascending : kept.Pairwise (·.1 < ·.1)) {k : Nat × Text}
  (member : k ∈ kept)

include ascending member

theorem getElem?_keptBefore : kept[keptBefore kept k.1]? = some k := by
  induction kept with
  | nil => cases member
  | cons j kept ih =>
    obtain ⟨below, rest⟩ := List.pairwise_cons.mp ascending
    rw [keptBefore_cons]
    rcases List.mem_cons.mp member with rfl | member
    · have zero := keptBefore_eq_zero fun i inside => Nat.le_of_lt (below i inside)
      simp [zero]
    · have less := below k member
      simpa [less] using ih rest member

theorem keptBefore_succ : keptBefore kept (k.1 + 1) = keptBefore kept k.1 + 1 := by
  induction kept with
  | nil => cases member
  | cons j kept ih =>
    obtain ⟨below, rest⟩ := List.pairwise_cons.mp ascending
    rw [keptBefore_cons, keptBefore_cons]
    rcases List.mem_cons.mp member with rfl | member
    · have zero := keptBefore_eq_zero fun i inside => Nat.le_of_lt (below i inside)
      have still := keptBefore_eq_zero fun i inside => Nat.succ_le_of_lt (below i inside)
      simp [zero, still]
    · have less := below k member
      have tail := ih rest member
      rw [if_pos less, if_pos (by omega), tail]

end Places

/-- Up to a line with characters, nothing is dropped at the end. -/
theorem getElem?_apply {keep : Int} {isProtected : Nat → Bool} {source : Text} {last : Nat}
    {k : Nat × Text} (there : (keepFrom keep isProtected 0 false 0 (lines source))[last]? = some k)
    (full : k.2 ≠ []) {n : Nat} (upper : n ≤ last) :
    (lines (apply keep isProtected source))[n]? =
      ((keepFrom keep isProtected 0 false 0 (lines source))[n]?).map Prod.snd := by
  have whole : survivors keep isProtected source ++ _ = _ := List.rdropWhile_append_rtakeWhile
  have inside : last < (survivors keep isProtected source).length := by
    by_contra beyond
    rw [← whole, List.getElem?_append_right (by omega)] at there
    have empty := List.mem_rtakeWhile_imp (List.mem_of_getElem? there)
    exact full (List.isEmpty_iff.mp empty)
  rw [apply_lines, List.getElem?_append_left (by simp; omega), List.getElem?_map, ← whole,
    List.getElem?_append_left (by omega)]

theorem apply_carriesRuns (keep : Int) (isProtected : Nat → Bool) (source : Text) :
    CarriesRuns (fun row => isProtected row = true) (lines source)
      (lines (apply keep isProtected source))
      (keptBefore (keepFrom keep isProtected 0 false 0 (lines source))) := by
  have ascending := (keepFrom_ascending keep isProtected 0 false 0 (lines source)).1
  have kept {first last row : Nat}
    (run : IsRun (fun row => isProtected row = true) (lines source) first last)
      (low : first ≤ row) (high : row ≤ last) :
      ∃ line, (lines source)[row]? = some line ∧
        (row, line) ∈ keepFrom keep isProtected 0 false 0 (lines source) := by
    obtain ⟨_, there, -⟩ := run.closed
    have short := (List.getElem?_eq_some_iff.mp there).1
    have found : (lines source)[row]? = some (lines source)[row] :=
      List.getElem?_eq_getElem (by omega)
    refine ⟨_, found, ?_⟩
    have inside : isProtected (0 + row) = true := by simpa using run.within row low high
    simpa using mem_keepFrom keep 0 false 0 inside found
  constructor
  · intro first last run row low high
    obtain ⟨line, there, member⟩ := kept run low high
    obtain ⟨_, closed, full⟩ := run.closed
    obtain ⟨_, same, at_end⟩ := kept run run.ordered (Nat.le_refl last)
    cases closed.symm.trans same
    constructor
    · -- each row of the run is kept, so the count goes on by one from row to row
      have steady (n : Nat) (short : first + n ≤ last) :
          keptBefore (keepFrom keep isProtected 0 false 0 (lines source)) (first + n) =
            keptBefore (keepFrom keep isProtected 0 false 0 (lines source)) first + n := by
        induction n with
        | zero => rfl
        | succ n ih =>
          obtain ⟨_, _, here⟩ := kept run (Nat.le_add_right first n) (by omega)
          have next := keptBefore_succ ascending here
          rw [← Nat.add_assoc, next, ih (by omega), Nat.add_assoc]
      have count := steady (row - first) (by omega)
      rwa [Nat.add_sub_cancel' low] at count
    · rw [getElem?_apply (getElem?_keptBefore ascending at_end) full (keptBefore_le high), there,
        getElem?_keptBefore ascending member]
      rfl
  · intro first last other _ run _ less
    obtain ⟨_, _, member⟩ := kept run run.ordered (Nat.le_refl last)
    have next := keptBefore_succ ascending member
    exact Nat.lt_of_lt_of_le (Nat.lt_of_lt_of_eq (Nat.lt_succ_self _) next.symm)
      (keptBefore_le (Nat.succ_le_of_lt less))

end BlankLines

/-- Runs of rows in string literals reappear as they are, after every rule on white space. The first
two rules leave them where they stand. -/
theorem Rule.apply_carries_strings (settings : Settings) (level : Option Int) (rule : Rule)
    (source : Text) (tree : Node) (spacing : rule ≠ .sourceLevel)
    (positive : rule = .indentation → 1 ≤ settings.tabSize) :
    ∃ result place, rule.apply settings level source tree = .ok result ∧
      CarriesRuns (· ∈ tree.stringRows) (lines source) (lines result) place ∧
      (rule ≠ .blankLines → ∀ row, place row = row) := by
  have known : (fun row => tree.stringRows.contains row = true) = (· ∈ tree.stringRows) := by simp
  cases rule with
  | sourceLevel => exact absurd rfl spacing
  | indentation =>
    obtain ⟨result, done⟩ := Rule.apply_total (positive rfl) level spacing source tree
    refine ⟨result, id, done, carriesRuns_of_same ?_, fun _ _ => rfl⟩
    simp only [Rule.apply] at done
    split at done
    · rename_i rewritten
      cases done
      intro row inside
      exact Indentation.reindentFrom_protected (Indentation.apply_lines rewritten)
        (by simpa using inside)
    · contradiction
  | trailingBlanks =>
    refine ⟨_, id, rfl, carriesRuns_of_same ?_, fun _ _ => rfl⟩
    intro row inside
    rw [TrailingBlanks.apply_lines]
    exact TrailingBlanks.trimFrom_protected _ 0 _ (by simpa using inside)
  | blankLines =>
    have carried := BlankLines.apply_carriesRuns settings.blankLines
      (fun row => tree.stringRows.contains row) source
    rw [known] at carried
    exact ⟨_, _, rfl, carried, fun other => absurd rfl other⟩

def twoBlocks : Node where
  kind := "program"
  start := ⟨0, 0⟩
  stop := ⟨10, 3⟩
  children := [{ kind := "string_literal", start := ⟨1, 4⟩, stop := ⟨5, 3⟩ },
    { kind := "text_block", start := ⟨8, 4⟩, stop := ⟨10, 3⟩ }]

def twoBlocksSource : Text :=
  "\ns = \"\"\"\n  x \n\n\n\"\"\";\n\n\nt = \"\"\"\n \n\"\"\"".toList

/-- Two literals move up, the second one further than the first, with their blank lines. -/
theorem Rule.apply_carries_strings_twice :
    IsRun (· ∈ twoBlocks.stringRows) (lines twoBlocksSource) 2 5 ∧
    IsRun (· ∈ twoBlocks.stringRows) (lines twoBlocksSource) 9 10 ∧
    Rule.blankLines.apply {} none twoBlocksSource twoBlocks =
      .ok "s = \"\"\"\n  x \n\n\n\"\"\";\n\nt = \"\"\"\n \n\"\"\"\n".toList ∧
    ∃ result place, Rule.blankLines.apply {} none twoBlocksSource twoBlocks = .ok result ∧
      CarriesRuns (· ∈ twoBlocks.stringRows) (lines twoBlocksSource) (lines result) place ∧
      (Rule.blankLines ≠ .blankLines → ∀ row, place row = row) := by
  have rows : twoBlocks.stringRows = [2, 3, 4, 5, 9, 10] := by cbv
  refine ⟨⟨by omega, ?_, ['"', '"', '"', ';'], by decide, by decide⟩,
    ⟨by omega, ?_, ['"', '"', '"'], by decide, by decide⟩, by cbv,
    Rule.apply_carries_strings {} none .blankLines twoBlocksSource twoBlocks (by decide)
      (by decide)⟩
  · intro row low high
    rw [rows]
    interval_cases row <;> decide
  · intro row low high
    rw [rows]
    interval_cases row <;> decide

end SourceTidy.Java
