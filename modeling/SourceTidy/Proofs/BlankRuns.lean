import SourceTidy.Proofs.Layout

/-!
What the rule for blank lines writes, told by the runs of blank lines in its source.

A division of the lines knows nothing of the counter with which the rule goes through them. The rule
first takes the form of a walk over lines with their rows (`capEach`), which then falls into the
walks over the runs of any division.
-/
namespace SourceTidy.Java.BlankLines

open Text

/-- A line with its row is blank and not protected. -/
def isGap (isProtected : Nat → Bool) (e : Text × Nat) : Bool :=
  !isProtected e.2 && e.1.all isBlank

/-- Lines with their rows, divided into the run of gaps at the top and the other lines, each with
the run of gaps after it. A run may be empty, and no gap stands outside the runs, so each run is as
long as it can be. -/
structure Division (isProtected : Nat → Bool) (keyed : List (Text × Nat)) where
  top : List (Text × Nat)
  blocks : List ((Text × Nat) × List (Text × Nat))
  whole : top ++ blocks.flatMap (fun b => b.1 :: b.2) = keyed
  top_gaps : ∀ e ∈ top, isGap isProtected e = true
  run_gaps : ∀ b ∈ blocks, ∀ e ∈ b.2, isGap isProtected e = true
  others : ∀ b ∈ blocks, isGap isProtected b.1 = false

namespace Division

variable {isProtected : Nat → Bool}

def divide (isProtected : Nat → Bool) : (keyed : List (Text × Nat)) → Division isProtected keyed
  | [] => ⟨[], [], rfl, by simp, by simp, by simp⟩
  | e :: rest =>
    let d := divide isProtected rest
    if gap : isGap isProtected e = true then
      { d with
        top := e :: d.top
        whole := by rw [List.cons_append, d.whole]
        top_gaps := by simpa [gap] using d.top_gaps }
    else
      { top := []
        blocks := (e, d.top) :: d.blocks
        whole := by rw [List.nil_append, List.flatMap_cons, List.cons_append, d.whole]
        top_gaps := by simp
        run_gaps := by
          intro b member
          rcases List.mem_cons.mp member with rfl | member
          · exact d.top_gaps
          · exact d.run_gaps b member
        others := by
          intro b member
          rcases List.mem_cons.mp member with rfl | member
          · simpa using gap
          · exact d.others b member }

/-- The other lines, and after each as much of its run as may stay. The run at the top is gone. -/
def capped {keyed : List (Text × Nat)} (d : Division isProtected keyed) (keep : Nat) : List Text :=
  d.blocks.flatMap fun b => b.1.1 :: List.replicate (min b.2.length keep) []

end Division

def capEach (keep : Int) (isProtected : Nat → Bool) (begun : Bool) (run : Nat) :
    List (Text × Nat) → List Text
  | [] => []
  | e :: rest =>
    if isGap isProtected e then
      if begun && ((run + 1 : Nat) : Int) ≤ keep then
        [] :: capEach keep isProtected begun (run + 1) rest
      else capEach keep isProtected begun (run + 1) rest
    else e.1 :: capEach keep isProtected true 0 rest

theorem capFrom_zipIdx (keep : Int) (isProtected : Nat → Bool) (row : Nat) (begun : Bool)
    (run : Nat) (ls : List Text) :
    capFrom keep isProtected row begun run ls =
      capEach keep isProtected begun run (ls.zipIdx row) := by
  induction ls generalizing row begun run with
  | nil => rfl
  | cons l ls ih =>
    simp only [capFrom, List.zipIdx_cons, capEach, isGap, ih]
    rfl

section Runs

variable {isProtected : Nat → Bool}

theorem capEach_top (keep : Int) (run : Nat) {gaps : List (Text × Nat)} (more : List (Text × Nat))
    (all : ∀ e ∈ gaps, isGap isProtected e = true) :
    capEach keep isProtected false run (gaps ++ more) =
      capEach keep isProtected false (run + gaps.length) more := by
  induction gaps generalizing run with
  | nil => rfl
  | cons e gaps ih =>
    have rest := ih (run + 1) fun d member => all d (by simp [member])
    rw [List.cons_append, capEach, if_pos (all e (by simp))]
    simp only [Bool.false_and, Bool.false_eq_true, if_false, rest, List.length_cons]
    congr 1
    omega

/-- The counter and what is left of a run: together they never pass the limit. -/
theorem capEach_gaps (keep run : Nat) {gaps : List (Text × Nat)} (more : List (Text × Nat))
    (all : ∀ e ∈ gaps, isGap isProtected e = true) :
    capEach keep isProtected true run (gaps ++ more) =
      List.replicate (min (run + gaps.length) keep - min run keep) [] ++
        capEach keep isProtected true (run + gaps.length) more := by
  induction gaps generalizing run with
  | nil => simp
  | cons e gaps ih =>
    have rest := ih (run + 1) fun d member => all d (by simp [member])
    have further : run + (e :: gaps).length = run + 1 + gaps.length := by
      simp only [List.length_cons]
      omega
    rw [List.cons_append, capEach, if_pos (all e (by simp)), rest, further]
    by_cases room : run + 1 ≤ keep
    · have count : min (run + 1 + gaps.length) keep - min run keep =
          min (run + 1 + gaps.length) keep - min (run + 1) keep + 1 := by omega
      rw [if_pos (by simp; omega), count, List.replicate_succ, List.cons_append]
    · have count : min (run + 1 + gaps.length) keep - min run keep =
          min (run + 1 + gaps.length) keep - min (run + 1) keep := by omega
      rw [if_neg (by simp; omega), count]

theorem capEach_blocks (keep : Nat) (begun : Bool) (run : Nat)
    {blocks : List ((Text × Nat) × List (Text × Nat))}
    (gaps : ∀ b ∈ blocks, ∀ e ∈ b.2, isGap isProtected e = true)
    (others : ∀ b ∈ blocks, isGap isProtected b.1 = false) :
    capEach keep isProtected begun run (blocks.flatMap fun b => b.1 :: b.2) =
      blocks.flatMap fun b => b.1.1 :: List.replicate (min b.2.length keep) [] := by
  induction blocks generalizing begun run with
  | nil => rfl
  | cons b blocks ih =>
    have rest := ih true (0 + b.2.length) (fun c member => gaps c (by simp [member]))
      fun c member => others c (by simp [member])
    have solid : ¬ isGap isProtected b.1 = true := by simp [others b (by simp)]
    rw [List.flatMap_cons, List.cons_append, capEach, if_neg solid,
      capEach_gaps keep 0 _ (gaps b (by simp)), rest, List.flatMap_cons]
    simp

theorem capFrom_division (keep : Nat) {ls : List Text} (d : Division isProtected ls.zipIdx) :
    capFrom keep isProtected 0 false 0 ls = d.capped keep := by
  calc capFrom keep isProtected 0 false 0 ls
      = capEach keep isProtected false 0 (d.top ++ d.blocks.flatMap fun b => b.1 :: b.2) := by
        rw [capFrom_zipIdx, d.whole]
    _ = capEach keep isProtected false (0 + d.top.length) (d.blocks.flatMap fun b => b.1 :: b.2) :=
        capEach_top _ _ _ d.top_gaps
    _ = d.capped keep := capEach_blocks keep false _ d.run_gaps d.others

end Runs

/- The end of the text. -/

theorem dropEmptyEnd_last (ls : List Text) : (dropEmptyEnd ls).getLast? ≠ some [] := by
  intro last
  obtain ⟨front, whole⟩ := List.getLast?_eq_some_iff.mp last
  have same : ls.rdropWhile List.isEmpty = front ++ [[]] := whole
  have full := List.rdropWhile_last_not List.isEmpty ls (by simp [same])
  simp [same] at full

theorem unlines_last {ls : List Text} (nonempty : ls ≠ []) (free : ∀ l ∈ ls, '\n' ∉ l)
    (full : ls.getLast? ≠ some []) : (unlines ls).getLast? ≠ some '\n' := by
  obtain ⟨front, l, rfl⟩ := (List.eq_nil_or_concat' ls).resolve_left nonempty
  have inner : l ≠ [] := by simpa using full
  have same : (unlines (front ++ [l])).getLast? = l.getLast? := by
    by_cases empty : front = []
    · simp [empty]
    · rw [unlines_append empty (by simp), unlines_singleton, List.append_cons,
        List.getLast?_append_of_ne_nil _ inner]
  rw [same]
  intro last
  exact free l (by simp) (List.mem_of_getLast? last)

theorem endLines_cases {ls : List Text} (free : ∀ l ∈ ls, '\n' ∉ l) (full : ls.getLast? ≠ some []) :
    (ls = [] ∧ endLines ls = []) ∨
      (ls ≠ [] ∧ endLines ls = unlines ls ++ ['\n'] ∧ (unlines ls).getLast? ≠ some '\n') := by
  by_cases empty : ls = []
  · exact .inl ⟨empty, by simp [empty, endLines]⟩
  · exact .inr ⟨empty, by simp [empty, endLines], unlines_last empty free full⟩

/-- Every division of the lines tells what the rule writes: the capped lines without the empty ones
at their end, with one line feed after the last. -/
theorem apply_caps_runs (keep : Nat) (isProtected : Nat → Bool) (source : Text) :
    Nonempty (Division isProtected (lines source).zipIdx) ∧
      ∀ d : Division isProtected (lines source).zipIdx, ∃ kept dropped,
        d.capped keep = kept ++ List.replicate dropped [] ∧ kept.getLast? ≠ some [] ∧
          ((kept = [] ∧ apply keep isProtected source = []) ∨
            (kept ≠ [] ∧ apply keep isProtected source = unlines kept ++ ['\n'] ∧
              (unlines kept).getLast? ≠ some '\n')) := by
  refine ⟨⟨.divide isProtected _⟩, fun d => ?_⟩
  obtain ⟨empty, all, whole⟩ := dropEmptyEnd_split (d.capped keep)
  have written : apply keep isProtected source = endLines (dropEmptyEnd (d.capped keep)) := by
    rw [apply, capFrom_division keep d]
  refine ⟨dropEmptyEnd (d.capped keep), empty.length, ?_, dropEmptyEnd_last _, ?_⟩
  · rw [← List.eq_replicate_of_mem all, whole]
  · rw [written]
    apply endLines_cases _ (dropEmptyEnd_last _)
    intro l member
    rw [← capFrom_division keep d] at member
    exact capFrom_free keep isProtected 0 false 0 (fun k => free_of_mem_lines) l
      ((List.rdropWhile_prefix _ _).subset member)

-- A protected line between blank ones parts their run in two.
example : apply 1 (· == 4) "\n a\n\n\t\n\n\nb\n\n".toList = " a\n\n\n\nb\n".toList := by decide

end SourceTidy.Java.BlankLines
