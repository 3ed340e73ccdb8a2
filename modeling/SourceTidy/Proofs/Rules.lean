import SourceTidy.Java.Formatter
import SourceTidy.Proofs.Lines

/-!
The white-space rules, one line at a time.

A rule acts on the lines of a source and on the rows that are protected. Each section says what its
rule does to a line, which lines it leaves alone, and that it makes no line breaks. Nothing here
asks where the protected rows come from.
-/
namespace SourceTidy

open Text

/-- A line is blank, or an indentation before a character that is none. -/
theorem line_shape (line : Text) :
    (∀ c ∈ line, isBlank c) ∨
      ∃ indent d rest, line = indent ++ d :: rest ∧ (∀ c ∈ indent, isBlank c) ∧ ¬ isBlank d := by
  induction line with
  | nil => exact .inl (by simp)
  | cons c line ih =>
    by_cases blank : isBlank c
    · rcases ih with all | ⟨indent, d, rest, whole, all, code⟩
      · exact .inl (by simpa [blank] using all)
      · exact .inr ⟨c :: indent, d, rest, by simp [whole], by simpa [blank] using all, code⟩
    · exact .inr ⟨[], c, line, rfl, by simp, blank⟩

namespace Java

/-- Every line from `row` on that is not protected satisfies `Q`. -/
def Unprotected (isProtected : Nat → Bool) (Q : Text → Prop) : Nat → List Text → Prop
  | _, [] => True
  | row, l :: ls => (isProtected row = false → Q l) ∧ Unprotected isProtected Q (row + 1) ls

theorem Unprotected.congr {p q : Nat → Bool} {Q : Text → Prop} {row : Nat} {ls : List Text}
    (same : ∀ j < ls.length, q (row + j) = p (row + j)) (holds : Unprotected p Q row ls) :
    Unprotected q Q row ls := by
  induction ls generalizing row with
  | nil => trivial
  | cons l ls ih =>
    refine ⟨fun free => holds.1 ?_, ih ?_ holds.2⟩
    · rw [← free]
      simpa using (same 0 (by simp)).symm
    · intro j small
      have h := same (j + 1) (by simpa using small)
      simpa [Nat.add_assoc, Nat.add_comm 1 j] using h

theorem Unprotected.imp {p : Nat → Bool} {Q R : Text → Prop} {row : Nat} {ls : List Text}
    (weaker : ∀ l, Q l → R l) (holds : Unprotected p Q row ls) : Unprotected p R row ls := by
  induction ls generalizing row with
  | nil => trivial
  | cons l ls ih => exact ⟨fun free => weaker l (holds.1 free), ih holds.2⟩

namespace Indentation

/- The width of an indentation. Sizes are positive here, so flooring division is the usual one. -/

theorem widthFrom_append (size column : Int) (a b : Text) :
    widthFrom size column (a ++ b) = (widthFrom size column a).bind fun next =>
    widthFrom size next b := by
  induction a generalizing column with
  | nil => rfl
  | cons c rest ih =>
    simp only [List.cons_append, widthFrom, ih, Option.bind_assoc]

theorem widthFrom_spaces (size column : Int) (n : Nat) :
    widthFrom size column (List.replicate n ' ') = some (column + n) := by
  induction n generalizing column with
  | zero => simp [widthFrom]
  | succ n ih =>
    simp only [List.replicate_succ, widthFrom, advance, ih]
    simp
    omega

theorem widthFrom_tabs {size : Int} (positive : 1 ≤ size) (k : Int) (n : Nat) :
    widthFrom size (k * size) (List.replicate n '\t') = some ((k + n) * size) := by
  induction n generalizing k with
  | zero => simp [widthFrom]
  | succ n ih =>
    have stop : k * size + (size - (k * size).fmod size) = (k + 1) * size := by
      rw [Int.fmod_eq_emod_of_nonneg _ (by omega), Int.mul_emod_left, Int.sub_zero, Int.add_mul,
        Int.one_mul]
    have nonzero : size ≠ 0 := by omega
    simp only [List.replicate_succ, widthFrom, advance, if_true, if_neg nonzero, Option.bind_some,
      stop, ih]
    rw [Int.natCast_succ, Int.add_assoc, Int.add_comm 1]

theorem widthFrom_advances {size : Int} (positive : 1 ≤ size) (column : Int) (t : Text) :
    ∃ width, widthFrom size column t = some width ∧ column + t.length ≤ width := by
  induction t generalizing column with
  | nil => exact ⟨column, rfl, by simp⟩
  | cons c rest ih =>
    have moves : ∃ next, advance size column c = some next ∧ column + 1 ≤ next := by
      unfold advance
      split
      · have bound : column.fmod size < size := Int.fmod_lt_of_pos _ (by omega)
        rw [if_neg (by omega)]
        exact ⟨_, rfl, by omega⟩
      · exact ⟨_, rfl, by omega⟩
    obtain ⟨next, step, far⟩ := moves
    obtain ⟨width, last, farther⟩ := ih next
    refine ⟨width, by simp [widthFrom, step, last], ?_⟩
    simp only [List.length_cons]
    omega

theorem isBlank_of_mem_times {n : Int} {c d : Char} (blank : isBlank c) (member : d ∈ times n c) :
    isBlank d := by
  rw [times] at member
  rw [(List.mem_replicate.mp member).2]
  exact blank

theorem render_spec {settings : Settings} (positive : 1 ≤ settings.tabSize) {width : Int}
    (wide : 0 ≤ width) :
    ∃ indent, render settings width = some indent ∧ (∀ c ∈ indent, isBlank c) ∧
      visualWidth settings.tabSize indent = some width := by
  unfold render visualWidth
  split
  · refine ⟨_, rfl, fun c => isBlank_of_mem_times rfl, ?_⟩
    rw [times, widthFrom_spaces]
    simp [Int.toNat_of_nonneg wide]
  · have size_pos : 0 < settings.tabSize := by omega
    have tabs : 0 ≤ width.fdiv settings.tabSize := Int.fdiv_nonneg wide (by omega)
    have spaces : 0 ≤ width.fmod settings.tabSize := Int.fmod_nonneg_of_pos _ size_pos
    rw [if_neg (by omega)]
    refine ⟨_, rfl, ?_, ?_⟩
    · intro c member
      rcases List.mem_append.mp member with member | member
      · exact isBlank_of_mem_times rfl member
      · exact isBlank_of_mem_times rfl member
    · have start := widthFrom_tabs positive 0 (width.fdiv settings.tabSize).toNat
      rw [Int.zero_mul] at start
      rw [widthFrom_append, times, times, start, Option.bind_some, widthFrom_spaces,
        Int.toNat_of_nonneg tabs, Int.toNat_of_nonneg spaces, Int.zero_add, Int.mul_comm]
      exact congrArg some (Int.mul_fdiv_add_fmod width settings.tabSize)

theorem render_blank {settings : Settings} {width : Int} {indent : Text}
    (rendered : render settings width = some indent) : ∀ c ∈ indent, isBlank c := by
  unfold render at rendered
  split at rendered
  · cases Option.some.inj rendered
    exact fun c => isBlank_of_mem_times rfl
  · split at rendered
    · contradiction
    · cases Option.some.inj rendered
      intro c member
      rcases List.mem_append.mp member with member | member
      · exact isBlank_of_mem_times rfl member
      · exact isBlank_of_mem_times rfl member

theorem reindent_of_blank (settings : Settings) {line : Text} (all : ∀ c ∈ line, isBlank c) :
    reindent settings line = some line := by
  have empty : line.dropWhile isBlank = [] := List.dropWhile_eq_nil_iff.mpr all
  simp [reindent, empty]

theorem reindent_of_code (settings : Settings) {indent : Text} {d : Char} (rest : Text)
    (all : ∀ c ∈ indent, isBlank c) (code : ¬ isBlank d) :
    reindent settings (indent ++ d :: rest) =
      if indent = [] then some (d :: rest)
      else (visualWidth settings.tabSize indent).bind fun width =>
        (render settings width).map (· ++ d :: rest) := by
  have front : (indent ++ d :: rest).takeWhile isBlank = indent := by
    rw [List.takeWhile_append_of_pos all]
    simp [code]
  have back : (indent ++ d :: rest).dropWhile isBlank = d :: rest := by
    rw [List.dropWhile_append_of_pos all]
    simp [code]
  unfold reindent
  rw [front, back]
  by_cases h : indent = []
  · simp [h]
  · simp only [h, decide_false, reduceCtorEq, Bool.or_self, Bool.false_eq_true, if_false]
    cases visualWidth settings.tabSize indent with
    | none => rfl
    | some width => cases made : render settings width <;> simp [made]

/-- Indenting exchanges blanks at the front for other blanks, whatever the settings are. -/
theorem reindent_exchanges {settings : Settings} {line line' : Text}
    (done : reindent settings line = some line') :
    ∃ old new code, (∀ c ∈ old, isBlank c) ∧ (∀ c ∈ new, isBlank c) ∧
      line = old ++ code ∧ line' = new ++ code := by
  rcases line_shape line with all | ⟨indent, d, rest, rfl, all, code⟩
  · rw [reindent_of_blank settings all] at done
    cases Option.some.inj done
    exact ⟨[], [], line, by simp, by simp, rfl, rfl⟩
  · rw [reindent_of_code settings rest all code] at done
    split at done
    · rename_i empty
      cases Option.some.inj done
      exact ⟨[], [], d :: rest, by simp, by simp, by simp [empty], rfl⟩
    · simp only [Option.bind_eq_some_iff, Option.map_eq_some_iff] at done
      obtain ⟨width, _, new, rendered, rfl⟩ := done
      exact ⟨indent, new, d :: rest, all, render_blank rendered, rfl, rfl⟩

theorem trim_reindent {settings : Settings} {line line' : Text}
    (done : reindent settings line = some line') : trim isBlank line' = trim isBlank line := by
  obtain ⟨old, new, code, before, after, rfl, rfl⟩ := reindent_exchanges done
  rw [trim_blank_append code before, trim_blank_append code after]

theorem mem_reindent {settings : Settings} {line line' : Text} {c : Char}
    (done : reindent settings line = some line') (member : c ∈ line') : isBlank c ∨ c ∈ line := by
  obtain ⟨old, new, code, _, after, rfl, rfl⟩ := reindent_exchanges done
  rcases List.mem_append.mp member with member | member
  · exact .inl (after c member)
  · exact .inr (by simp [member])

def Fixed (settings : Settings) (line : Text) : Prop :=
  reindent settings line = some line

/-- With a tab size, an indentation is exchanged for one that is not empty and stays. -/
theorem reindent_of_indent {settings : Settings} (positive : 1 ≤ settings.tabSize) {indent : Text}
    {d : Char} (rest : Text) (all : ∀ c ∈ indent, isBlank c) (indented : indent ≠ [])
    (code : ¬ isBlank d) :
    ∃ new, new ≠ [] ∧ (∀ c ∈ new, isBlank c) ∧
      reindent settings (indent ++ d :: rest) = some (new ++ d :: rest) ∧
      Fixed settings (new ++ d :: rest) := by
  obtain ⟨width, measured, far⟩ := widthFrom_advances positive 0 indent
  have long : 0 < indent.length := List.length_pos_iff.mpr indented
  have wide : 0 ≤ width := by omega
  obtain ⟨new, rendered, blank, again⟩ := render_spec positive wide
  have nonempty : new ≠ [] := by
    rintro rfl
    have zero : width = 0 := by simpa [visualWidth, widthFrom] using again.symm
    omega
  refine ⟨new, nonempty, blank, ?_, ?_⟩
  · rw [reindent_of_code settings rest all code, if_neg indented, visualWidth, measured]
    simp [rendered]
  · rw [Fixed, reindent_of_code settings rest blank code, if_neg nonempty, again]
    simp [rendered]

theorem reindent_total {settings : Settings} (positive : 1 ≤ settings.tabSize) (line : Text) :
    ∃ line', reindent settings line = some line' ∧ Fixed settings line' := by
  rcases line_shape line with all | ⟨indent, d, rest, rfl, all, code⟩
  · exact ⟨line, reindent_of_blank settings all, reindent_of_blank settings all⟩
  · by_cases empty : indent = []
    · subst empty
      have same := reindent_of_code settings rest all code
      exact ⟨d :: rest, by simpa using same, by simpa [Fixed] using same⟩
    · obtain ⟨new, _, _, done, fixed⟩ := reindent_of_indent positive rest all empty code
      exact ⟨new ++ d :: rest, done, fixed⟩

theorem fixed_of_reindent {settings : Settings} (positive : 1 ≤ settings.tabSize)
    {line line' : Text} (done : reindent settings line = some line') : Fixed settings line' := by
  obtain ⟨other, same, fixed⟩ := reindent_total positive line
  cases Option.some.inj (done.symm.trans same)
  exact fixed

/-- Blanks at the end of a line play no part in its indentation. -/
theorem Fixed.trimRight {settings : Settings} {line : Text} (fixed : Fixed settings line) :
    Fixed settings (Text.trimRight isBlank line) := by
  rcases line_shape line with all | ⟨indent, d, rest, rfl, all, code⟩
  · have nothing : Text.trimRight isBlank line = [] := List.rdropWhile_eq_nil_iff.mpr all
    rw [nothing]
    exact reindent_of_blank settings (by simp)
  · have front : Text.trimRight isBlank (indent ++ d :: rest) =
        indent ++ Text.trimRight isBlank (d :: rest) :=
      trimRight_append_of_kept indent ⟨d, by simp, code⟩
    rw [front, trimRight_cons rest code]
    rw [Fixed, reindent_of_code settings rest all code] at fixed
    rw [Fixed, reindent_of_code settings _ all code]
    split at fixed
    · rename_i empty
      simp [empty]
    · rename_i nonempty
      rw [if_neg nonempty]
      simp only [Option.bind_eq_some_iff, Option.map_eq_some_iff] at fixed ⊢
      obtain ⟨width, measured, new, rendered, same⟩ := fixed
      exact ⟨width, measured, new, rendered, by rw [List.append_cancel_right same]⟩

theorem reindentFrom_eq (settings : Settings) (isProtected : Nat → Bool) (row : Nat) (l : Text)
    (ls : List Text) :
    reindentFrom settings isProtected row (l :: ls) =
      (if isProtected row then some l else reindent settings l).bind fun l' =>
        (reindentFrom settings isProtected (row + 1) ls).map (l' :: ·) := by
  rw [reindentFrom]
  simp only [Option.map_eq_bind]
  cases isProtected row <;> rfl

theorem reindentFrom_cons {settings : Settings} {isProtected : Nat → Bool} {row : Nat} {l : Text}
    {ls out : List Text} (done : reindentFrom settings isProtected row (l :: ls) = some out) :
    ∃ l' ls', (if isProtected row then some l else reindent settings l) = some l' ∧
      reindentFrom settings isProtected (row + 1) ls = some ls' ∧ out = l' :: ls' := by
  simp only [reindentFrom_eq, Option.bind_eq_some_iff, Option.map_eq_some_iff] at done
  obtain ⟨l', head, ls', tail, rfl⟩ := done
  exact ⟨l', ls', head, tail, rfl⟩

theorem getElem?_reindentFrom {settings : Settings} {isProtected : Nat → Bool} {row : Nat}
    {ls out : List Text} (done : reindentFrom settings isProtected row ls = some out) (n : Nat) :
    out[n]? = ls[n]?.bind fun l => if isProtected (row + n) then some l
    else reindent settings l := by
  induction ls generalizing row out n with
  | nil =>
    cases Option.some.inj done
    rfl
  | cons l ls ih =>
    obtain ⟨l', ls', head, tail, rfl⟩ := reindentFrom_cons done
    cases n with
    | zero => simpa using head.symm
    | succ n =>
      have later := ih tail n
      rwa [Nat.add_right_comm, Nat.add_assoc] at later

theorem reindentFrom_trim {settings : Settings} {isProtected : Nat → Bool} {row : Nat}
    {ls out : List Text} (done : reindentFrom settings isProtected row ls = some out) :
    out.map (trim isBlank) = ls.map (trim isBlank) := by
  induction ls generalizing row out with
  | nil =>
    cases Option.some.inj done
    rfl
  | cons l ls ih =>
    obtain ⟨l', ls', head, tail, rfl⟩ := reindentFrom_cons done
    have same : trim isBlank l' = trim isBlank l := by
      split at head
      · cases Option.some.inj head
        rfl
      · exact trim_reindent head
    rw [List.map_cons, List.map_cons, same, ih tail]

theorem reindentFrom_free {settings : Settings} {isProtected : Nat → Bool} {row : Nat}
    {ls out : List Text} {c : Char} (code : ¬ isBlank c) (free : ∀ l ∈ ls, c ∉ l)
    (done : reindentFrom settings isProtected row ls = some out) : ∀ l ∈ out, c ∉ l := by
  induction ls generalizing row out with
  | nil =>
    cases Option.some.inj done
    simp
  | cons l ls ih =>
    obtain ⟨l', ls', head, tail, rfl⟩ := reindentFrom_cons done
    have rest := ih (fun k member => free k (by simp [member])) tail
    intro k member
    rcases List.mem_cons.mp member with rfl | member
    · intro inside
      split at head
      · cases Option.some.inj head
        exact free l (by simp) inside
      · rcases mem_reindent head inside with blank | before
        · exact code blank
        · exact free l (by simp) before
    · exact rest k member

theorem reindentFrom_fixed {settings : Settings} (positive : 1 ≤ settings.tabSize)
    {isProtected : Nat → Bool} {row : Nat} {ls out : List Text}
    (done : reindentFrom settings isProtected row ls = some out) :
    Unprotected isProtected (Fixed settings) row out := by
  induction ls generalizing row out with
  | nil =>
    cases Option.some.inj done
    trivial
  | cons l ls ih =>
    obtain ⟨l', ls', head, tail, rfl⟩ := reindentFrom_cons done
    refine ⟨fun free => ?_, ih tail⟩
    simp only [free, Bool.false_eq_true, if_false] at head
    exact fixed_of_reindent positive head

theorem reindentFrom_of_fixed {settings : Settings} {isProtected : Nat → Bool} {row : Nat}
    {ls : List Text} (fixed : Unprotected isProtected (Fixed settings) row ls) :
    reindentFrom settings isProtected row ls = some ls := by
  induction ls generalizing row with
  | nil => rfl
  | cons l ls ih =>
    have head : (if isProtected row then some l else reindent settings l) = some l := by
      split
      · rfl
      · rename_i free
        exact fixed.1 (by simpa using free)
    simp [reindentFrom_eq, head, ih fixed.2]

theorem apply_lines {settings : Settings} {isProtected : Nat → Bool} {source result : Text}
    (done : apply settings isProtected source = some result) :
    reindentFrom settings isProtected 0 (lines source) = some (lines result) := by
  obtain ⟨out, rewritten, rfl⟩ := Option.map_eq_some_iff.mp done
  have free := reindentFrom_free (c := '\n') (by decide) (fun l => free_of_mem_lines) rewritten
  have nonempty : out ≠ [] := by
    intro empty
    have lengths := congrArg List.length (reindentFrom_trim rewritten)
    exact lines_ne_nil source (List.length_eq_zero_iff.mp (by simpa [empty] using lengths.symm))
  rw [rewritten, lines_unlines nonempty free]

end Indentation

namespace TrailingBlanks

theorem trimFrom_trim (isProtected : Nat → Bool) (row : Nat) (ls : List Text) :
    (trimFrom isProtected row ls).map (trim isBlank) = ls.map (trim isBlank) := by
  induction ls generalizing row with
  | nil => rfl
  | cons l ls ih =>
    rw [trimFrom, List.map_cons, List.map_cons, ih]
    split
    · rfl
    · rw [trim_trimRight]

theorem trimFrom_free (isProtected : Nat → Bool) (row : Nat) {ls : List Text} {c : Char}
    (free : ∀ l ∈ ls, c ∉ l) : ∀ l ∈ trimFrom isProtected row ls, c ∉ l := by
  induction ls generalizing row with
  | nil => simp [trimFrom]
  | cons l ls ih =>
    intro k member inside
    rcases List.mem_cons.mp member with rfl | member
    · split at inside
      · exact free l (by simp) inside
      · exact free l (by simp) (mem_of_mem_trimRight inside)
    · exact ih (row + 1) (fun k member => free k (by simp [member])) k member inside

def Neat (settings : Settings) (line : Text) : Prop :=
  Indentation.Fixed settings line ∧ trimRight isBlank line = line

theorem trimFrom_neat {settings : Settings} {isProtected : Nat → Bool} {row : Nat} {ls : List Text}
    (fixed : Unprotected isProtected (Indentation.Fixed settings) row ls) :
    Unprotected isProtected (Neat settings) row (trimFrom isProtected row ls) := by
  induction ls generalizing row with
  | nil => trivial
  | cons l ls ih =>
    refine ⟨fun free => ?_, ih fixed.2⟩
    simp only [free, Bool.false_eq_true, if_false]
    exact ⟨(fixed.1 free).trimRight, trimRight_trimRight isBlank l⟩

theorem trimFrom_of_neat {settings : Settings} {isProtected : Nat → Bool} {row : Nat}
    {ls : List Text} (neat : Unprotected isProtected (Neat settings) row ls) :
    trimFrom isProtected row ls = ls := by
  induction ls generalizing row with
  | nil => rfl
  | cons l ls ih =>
    rw [trimFrom, ih neat.2]
    split
    · rfl
    · rename_i free
      rw [(neat.1 (by simpa using free)).2]

theorem apply_lines (isProtected : Nat → Bool) (source : Text) :
    lines (apply isProtected source) = trimFrom isProtected 0 (lines source) := by
  refine lines_unlines ?_ (trimFrom_free isProtected 0 fun l => free_of_mem_lines)
  intro empty
  have lengths := congrArg List.length (trimFrom_trim isProtected 0 (lines source))
  exact lines_ne_nil source (List.length_eq_zero_iff.mp (by simpa [empty] using lengths.symm))

end TrailingBlanks

namespace BlankLines

/-- The lines that `capFrom` keeps, each with the row on which it stood. -/
def keepFrom (keep : Int) (isProtected : Nat → Bool) (row : Nat) (begun : Bool) (run : Nat) :
    List Text → List (Nat × Text)
  | [] => []
  | line :: rest =>
    if !isProtected row && line.all isBlank then
      if begun && ((run + 1 : Nat) : Int) ≤ keep then
        (row, []) :: keepFrom keep isProtected (row + 1) begun (run + 1) rest
      else keepFrom keep isProtected (row + 1) begun (run + 1) rest
    else (row, line) :: keepFrom keep isProtected (row + 1) true 0 rest

def survivors (keep : Int) (isProtected : Nat → Bool) (source : Text) : List (Nat × Text) :=
  (keepFrom keep isProtected 0 false 0 (lines source)).rdropWhile (·.2.isEmpty)

theorem capFrom_eq (keep : Int) (isProtected : Nat → Bool) (row : Nat) (begun : Bool) (run : Nat)
    (ls : List Text) :
    capFrom keep isProtected row begun run ls =
      (keepFrom keep isProtected row begun run ls).map Prod.snd := by
  induction ls generalizing row begun run with
  | nil => rfl
  | cons l ls ih =>
    rw [capFrom, keepFrom]
    split
    · split
      · rw [List.map_cons, ih]
      · exact ih (row + 1) begun (run + 1)
    · rw [List.map_cons, ih]

theorem apply_eq (keep : Int) (isProtected : Nat → Bool) (source : Text) :
    apply keep isProtected source =
      endLines ((survivors keep isProtected source).map Prod.snd) := by
  unfold apply survivors dropEmptyEnd
  rw [capFrom_eq, ← List.map_reverse, List.dropWhile_map, ← List.map_reverse]
  rfl

theorem capFrom_free (keep : Int) (isProtected : Nat → Bool) (row : Nat) (begun : Bool) (run : Nat)
    {ls : List Text} {c : Char} (free : ∀ l ∈ ls, c ∉ l) :
    ∀ l ∈ capFrom keep isProtected row begun run ls, c ∉ l := by
  induction ls generalizing row begun run with
  | nil => simp [capFrom]
  | cons l ls ih =>
    have rest : ∀ l ∈ ls, c ∉ l := fun k member => free k (by simp [member])
    rw [capFrom]
    split
    · split
      · intro k member
        rcases List.mem_cons.mp member with rfl | member
        · exact List.not_mem_nil
        · exact ih (row + 1) begun (run + 1) rest k member
      · exact ih (row + 1) begun (run + 1) rest
    · intro k member
      rcases List.mem_cons.mp member with rfl | member
      · exact free k (by simp)
      · exact ih (row + 1) true 0 rest k member

theorem survivors_free (keep : Int) (isProtected : Nat → Bool) {source : Text} {c : Char}
    (free : ∀ l ∈ lines source, c ∉ l) :
    ∀ l ∈ (survivors keep isProtected source).map Prod.snd, c ∉ l := by
  intro l member
  apply capFrom_free keep isProtected 0 false 0 free l
  rw [capFrom_eq]
  exact ((List.rdropWhile_prefix _ _).map Prod.snd).subset member

theorem lines_endLines {ls : List Text} (free : ∀ l ∈ ls, '\n' ∉ l) :
    lines (endLines ls) = ls ++ [[]] := by
  unfold endLines
  split
  · rename_i empty
    simp [List.isEmpty_iff.mp empty, lines]
  · rename_i nonempty
    rw [lines_append, lines_unlines (by simpa using nonempty) free]
    rfl

theorem apply_lines (keep : Int) (isProtected : Nat → Bool) (source : Text) :
    lines (apply keep isProtected source) =
      (survivors keep isProtected source).map Prod.snd ++ [[]] := by
  rw [apply_eq]
  exact lines_endLines (survivors_free keep isProtected fun l => free_of_mem_lines)

/-- A blank line stands for nothing, so a property of the empty line and of the unprotected lines
before holds of what is kept. -/
theorem keepFrom_unprotected {keep : Int} {isProtected : Nat → Bool} {Q : Text → Prop} {row : Nat}
    {begun : Bool} {run : Nat} {ls : List Text} (empty : Q [])
    (holds : Unprotected isProtected Q row ls) :
    ∀ k ∈ keepFrom keep isProtected row begun run ls, isProtected k.1 = false → Q k.2 := by
  induction ls generalizing row begun run with
  | nil => simp [keepFrom]
  | cons l ls ih =>
    rw [keepFrom]
    split
    · split
      · intro k member free
        rcases List.mem_cons.mp member with rfl | member
        · exact empty
        · exact ih holds.2 k member free
      · exact ih holds.2
    · intro k member free
      rcases List.mem_cons.mp member with rfl | member
      · exact holds.1 free
      · exact ih holds.2 k member free

/-- Lines that stand on other rows now, with their protection unchanged. -/
theorem unprotected_of_moved {p q : Nat → Bool} {Q : Text → Prop} {row : Nat}
    {kept : List (Nat × Text)} (follows : ∀ j k, kept[j]? = some k → q (row + j) = p k.1)
    (holds : ∀ k ∈ kept, p k.1 = false → Q k.2) : Unprotected q Q row (kept.map Prod.snd) := by
  induction kept generalizing row with
  | nil => trivial
  | cons k kept ih =>
    refine ⟨fun free => ?_, ih ?_ fun m member => holds m (by simp [member])⟩
    · have same : q row = p k.1 := follows 0 k rfl
      exact holds k (by simp) (same.symm.trans free)
    · intro j m found
      have same := follows (j + 1) m (by simpa using found)
      simpa [Nat.add_assoc, Nat.add_comm 1 j] using same

/-- What was kept is kept again, also up to some line only. The second pass counts at most as many
blank lines in a row as the first one did, because the first one counted dropped lines, too. -/
theorem capFrom_of_kept {keep : Int} {p q : Nat → Bool} {row row' : Nat} {begun : Bool}
    {run run' : Nat} {ls : List Text} {kept : List (Nat × Text)}
    (start : kept <+: keepFrom keep p row begun run ls) (fewer : run' ≤ run)
    (follows : ∀ j k, kept[j]? = some k → q (row' + j) = p k.1) :
    capFrom keep q row' begun run' (kept.map Prod.snd) = kept.map Prod.snd := by
  induction ls generalizing row row' begun run run' kept with
  | nil =>
    have empty : kept = [] := List.prefix_nil.mp start
    simp [empty, capFrom]
  | cons l ls ih =>
    have later {k : Nat × Text} {rest : List (Nat × Text)} (whole : kept = k :: rest) (j : Nat)
        (m : Nat × Text) (found : rest[j]? = some m) : q (row' + 1 + j) = p m.1 := by
      have same := follows (j + 1) m (by simpa [whole] using found)
      simpa [Nat.add_assoc, Nat.add_comm 1 j] using same
    rw [keepFrom] at start
    split at start
    · rename_i blank
      split at start
      · rename_i fits
        cases kept with
        | nil => rfl
        | cons k rest =>
          obtain ⟨rfl, more⟩ := List.cons_prefix_cons.mp start
          have free : q row' = p row := follows 0 _ rfl
          have unprotected : p row = false := by simpa using (Bool.and_eq_true_iff.mp blank).1
          have room : (begun && decide (((run' + 1 : Nat) : Int) ≤ keep)) = true := by
            simp only [Bool.and_eq_true, decide_eq_true_eq] at fits ⊢
            exact ⟨fits.1, by omega⟩
          have tail := ih more (Nat.succ_le_succ fewer) (later rfl)
          rw [List.map_cons, capFrom]
          simp only [free, unprotected, List.all_nil, Bool.not_false, Bool.and_self, if_true]
          rw [if_pos room, tail]
      · exact ih start (Nat.le_succ_of_le fewer) follows
    · rename_i solid
      cases kept with
      | nil => rfl
      | cons k rest =>
        obtain ⟨rfl, more⟩ := List.cons_prefix_cons.mp start
        have same : q row' = p row := follows 0 _ rfl
        have tail := ih more (Nat.le_refl 0) (later rfl)
        rw [List.map_cons, capFrom, same, if_neg solid, tail]

theorem capFrom_append_empty (keep : Int) (q : Nat → Bool) (row : Nat) (begun : Bool) (run : Nat)
    (ls : List Text) :
    ∃ extra, (∀ l ∈ extra, l = []) ∧
      capFrom keep q row begun run (ls ++ [[]]) = capFrom keep q row begun run ls ++ extra := by
  induction ls generalizing row begun run with
  | nil =>
    refine ⟨capFrom keep q row begun run [[]], ?_, by simp [capFrom]⟩
    intro l member
    simp only [capFrom] at member
    split at member
    · split at member <;> simp_all
    · simpa using member
  | cons l ls ih =>
    rw [List.cons_append, capFrom, capFrom]
    split
    · obtain ⟨extra, empty, tail⟩ := ih (row + 1) begun (run + 1)
      split
      · exact ⟨extra, empty, by rw [tail, List.cons_append]⟩
      · exact ⟨extra, empty, tail⟩
    · obtain ⟨extra, empty, tail⟩ := ih (row + 1) true 0
      exact ⟨extra, empty, by rw [tail, List.cons_append]⟩

theorem dropEmptyEnd_append {ls extra : List Text} (tight : dropEmptyEnd ls = ls)
    (empty : ∀ l ∈ extra, l = []) : dropEmptyEnd (ls ++ extra) = ls := by
  have gone : ∀ l ∈ extra.reverse, List.isEmpty l := by
    intro l member
    simp [empty l (List.mem_reverse.mp member)]
  calc dropEmptyEnd (ls ++ extra) = dropEmptyEnd ls := by
        simp only [dropEmptyEnd, List.reverse_append, List.dropWhile_append_of_pos gone]
    _ = ls := tight

theorem survivors_tight (keep : Int) (isProtected : Nat → Bool) (source : Text) :
    dropEmptyEnd ((survivors keep isProtected source).map Prod.snd) =
      (survivors keep isProtected source).map Prod.snd := by
  have twice := List.rdropWhile_idempotent (fun k : Nat × Text => k.2.isEmpty)
    (keepFrom keep isProtected 0 false 0 (lines source))
  unfold dropEmptyEnd
  rw [← List.map_reverse, List.dropWhile_map, ← List.map_reverse]
  exact congrArg (List.map Prod.snd) twice

/-- The rule changes nothing in its own result, if each surviving line is protected where it stands
now as it was before. -/
theorem apply_again {keep : Int} {p q : Nat → Bool} {source : Text}
    (follows : ∀ j k, (survivors keep p source)[j]? = some k → q j = p k.1) :
    apply keep q (apply keep p source) = apply keep p source := by
  obtain ⟨extra, empty, split⟩ :=
    capFrom_append_empty keep q 0 false 0 ((survivors keep p source).map Prod.snd)
  have kept : capFrom keep q 0 false 0 ((survivors keep p source).map Prod.snd) =
      (survivors keep p source).map Prod.snd :=
    capFrom_of_kept (List.rdropWhile_prefix _ _) (Nat.le_refl 0) (by simpa using follows)
  rw [apply, apply_lines, split, kept, dropEmptyEnd_append (survivors_tight keep p source) empty,
    apply_eq]

end BlankLines

end Java

end SourceTidy
