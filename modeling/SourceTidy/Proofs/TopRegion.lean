import SourceTidy.Proofs.CommentRegion
import SourceTidy.Proofs.LogicalLines

/-!
Which region is found at the top of a text.

A block comment goes to its first close, and the opening and the close share no character. A run of
line comments goes as far as complete lines do. Both are told here by offsets and lines, without the
reading that finds them.
-/
namespace SourceTidy.Header

open Text

def ClosesAt (t : Text) (n : Nat) : Prop :=
  ['*', '/'] <+: t.drop n

/-- The text opens a block comment, and the region goes through the first close after the
opening. -/
structure IsBlock (t region : Text) : Prop where
  opens : ['/', '*'] <+: t
  closes : ∃ n, 2 ≤ n ∧ ClosesAt t n ∧ (∀ m, 2 ≤ m → m < n → ¬ ClosesAt t m) ∧
    region = t.take (n + 2)

/-- Complete lines before `rest`, all of them comments. A line has its break, or the text ends with
it. A return alone is the break only if no line feed follows. -/
inductive AreComments (rest : Text) : Text → Prop
  | nil : AreComments rest []
  | last {line : Text} (comment : isComment line) (single : IsSingleLine line)
      (bottom : rest = []) :
    AreComments rest line
  | cons {line more : Text} (brk : LineSeparator) (comment : isComment line)
      (single : IsSingleLine line)
    (whole : brk = .cr → (more ++ rest).head? ≠ some '\n') (below : AreComments rest more) :
    AreComments rest (line ++ (brk.sequence ++ more))

def StartsWithComments (t region : Text) : Prop :=
  ∃ rest, t = region ++ rest ∧ AreComments rest region

/-- The text opens a line comment, and the region is the longest start of complete comment lines. -/
structure IsCommentRun (t region : Text) : Prop where
  opens : ['/', '/'] <+: t
  start : StartsWithComments t region
  longest : ∀ other, StartsWithComments t other → other.length ≤ region.length

/- Block comments. -/

theorem not_closesAt_nil (n : Nat) : ¬ ClosesAt [] n := by
  simp [ClosesAt]

theorem not_closesAt_zero {c : Char} {rest : Text}
    (apart : ∀ more, c = '*' → rest = '/' :: more → False) : ¬ ClosesAt (c :: rest) 0 := by
  rintro ⟨more, split⟩
  cases split
  exact apart more rfl rfl

theorem throughClose_eq_some_iff {t region : Text} :
    throughClose t = some region ↔
      ∃ n, ClosesAt t n ∧ (∀ m, m < n → ¬ ClosesAt t m) ∧ region = t.take (n + 2) := by
  fun_induction throughClose t generalizing region with
  | case1 => simp [not_closesAt_nil]
  | case2 more =>
    have here : ClosesAt ('*' :: '/' :: more) 0 := ⟨more, rfl⟩
    constructor
    · intro same
      cases same
      exact ⟨0, here, fun m less => absurd less (Nat.not_lt_zero m), rfl⟩
    · rintro ⟨n, _, first, rfl⟩
      cases n with
      | zero => rfl
      | succ n => exact absurd here (first 0 (Nat.succ_pos n))
  | case3 c rest apart ih =>
    have here : ¬ ClosesAt (c :: rest) 0 := not_closesAt_zero apart
    rw [Option.map_eq_some_iff]
    constructor
    · rintro ⟨inner, found, rfl⟩
      obtain ⟨n, closes, first, rfl⟩ := ih.mp found
      refine ⟨n + 1, closes, fun m less => ?_, rfl⟩
      cases m with
      | zero => exact here
      | succ m => exact first m (Nat.lt_of_succ_lt_succ less)
    · rintro ⟨n, closes, first, rfl⟩
      cases n with
      | zero => exact absurd closes here
      | succ n =>
        exact ⟨_, ih.mpr ⟨n, closes, fun m less => first (m + 1) (Nat.succ_lt_succ less), rfl⟩, rfl⟩

theorem throughClose_eq_none_iff {t : Text} : throughClose t = none ↔ ∀ n, ¬ ClosesAt t n := by
  fun_induction throughClose t with
  | case1 => simp [not_closesAt_nil]
  | case2 more =>
    have here : ClosesAt ('*' :: '/' :: more) 0 := ⟨more, rfl⟩
    simpa using ⟨0, here⟩
  | case3 c rest apart ih =>
    rw [Option.map_eq_none_iff, ih]
    constructor
    · intro never n
      cases n with
      | zero => exact not_closesAt_zero apart
      | succ n => exact never n
    · exact fun never n => never (n + 1)

theorem throughClose_self {t region : Text} (found : throughClose t = some region) :
    throughClose region = some region := by
  fun_induction throughClose t generalizing region with
  | case1 => contradiction
  | case2 more =>
    cases found
    rfl
  | case3 c rest apart ih =>
    obtain ⟨inner, inside, rfl⟩ := Option.map_eq_some_iff.mp found
    have still : c = '*' → inner.head? ≠ some '/' := by
      rintro rfl head
      obtain ⟨_, after, _, rfl⟩ := throughClose_split inside
      obtain ⟨more, rfl⟩ := List.head?_eq_some_iff.mp head
      exact apart (more ++ after) rfl rfl
    rw [throughClose_cons still, ih inside]
    rfl

theorem isBlock_iff {rest region : Text} :
    IsBlock ('/' :: '*' :: rest) region ↔ find? ('/' :: '*' :: rest) = some region := by
  rw [find_block, Option.map_eq_some_iff]
  constructor
  · rintro ⟨_, n, later, closes, first, rfl⟩
    obtain ⟨n, rfl⟩ := Nat.exists_eq_add_of_le' later
    exact ⟨_, throughClose_eq_some_iff.mpr
      ⟨n, closes, fun m less => first (m + 2) (by omega) (by omega), rfl⟩, rfl⟩
  · rintro ⟨inner, found, rfl⟩
    obtain ⟨n, closes, first, rfl⟩ := throughClose_eq_some_iff.mp found
    refine ⟨⟨rest, rfl⟩, n + 2, by omega, closes, fun m later less => ?_, rfl⟩
    obtain ⟨m, rfl⟩ := Nat.exists_eq_add_of_le' later
    exact first m (by omega)

theorem find_block_eq_none_iff {rest : Text} :
    find? ('/' :: '*' :: rest) = none ↔ ¬ ∃ n, 2 ≤ n ∧ ClosesAt ('/' :: '*' :: rest) n := by
  rw [find_block, Option.map_eq_none_iff, throughClose_eq_none_iff]
  constructor
  · rintro never ⟨n, later, closes⟩
    obtain ⟨n, rfl⟩ := Nat.exists_eq_add_of_le' later
    exact never n closes
  · exact fun never n closes => never ⟨n + 2, by omega, closes⟩

theorem find_block_append {rest region : Text} (found : find? ('/' :: '*' :: rest) = some region)
    (suffix : Text) : find? (region ++ suffix) = some region := by
  rw [find_block] at found
  obtain ⟨inner, inside, rfl⟩ := Option.map_eq_some_iff.mp found
  rw [List.cons_append, List.cons_append, find_block,
    throughClose_append suffix (throughClose_self inside)]
  rfl

/- Line comments. -/

namespace AreComments

variable {rest region : Text}

/-- Complete comment lines are all read, so what is read is never shorter. -/
theorem commentLines_append (are : AreComments rest region) :
    commentLines false (region ++ rest) = region ++ commentLines false rest := by
  induction are with
  | nil => rfl
  | @last line comment single bottom =>
    subst bottom
    rw [List.append_nil, commentLines_only comment single.clean single.free]
    simp [commentLines]
  | cons brk comment single whole _ ih =>
    rw [List.append_assoc, List.append_assoc,
      commentLines_next brk comment single.clean single.free whole, ih, List.append_assoc,
      List.append_assoc]

theorem alone (are : AreComments rest region) : AreComments [] region := by
  induction are with
  | nil => exact .nil
  | last comment single _ => exact .last comment single rfl
  | @cons line more brk comment single whole _ ih =>
    refine .cons brk comment single (fun isReturn head => whole isReturn ?_) ih
    rw [List.append_nil] at head
    rw [List.head?_append, head]
    rfl

end AreComments

/-- What is read is made of complete comment lines. The induction is on the lines of the text. -/
theorem startsWithComments_commentLines (t : Text) :
    StartsWithComments t (commentLines false t) := by
  have other {t : Text} (plain : ¬ isComment t) : StartsWithComments t (commentLines false t) := by
    rw [commentLines_stop (by simpa using plain)]
    exact ⟨t, rfl, .nil⟩
  obtain ⟨ls, has⟩ := hasLines_total t
  induction has with
  | @last line single =>
    by_cases comment : isComment line
    · rw [commentLines_only comment single.clean single.free]
      exact ⟨[], (List.append_nil line).symm, .last comment single rfl⟩
    · exact other comment
  | @cons line rest more brk single whole _ ih =>
    by_cases comment : isComment line
    · obtain ⟨after, split, are⟩ := ih
      rw [commentLines_next brk comment single.clean single.free whole]
      refine ⟨after, ?_, .cons brk comment single (by rwa [← split]) are⟩
      rw [List.append_assoc, List.append_assoc, ← split]
    · exact other (by rwa [isComment_break])

theorem isCommentRun_iff {rest region : Text} :
    IsCommentRun ('/' :: '/' :: rest) region ↔ find? ('/' :: '/' :: rest) = some region := by
  have read := startsWithComments_commentLines ('/' :: '/' :: rest)
  have within {other : Text} (start : StartsWithComments ('/' :: '/' :: rest) other) :
      other <+: commentLines false ('/' :: '/' :: rest) := by
    obtain ⟨after, split, are⟩ := start
    rw [split, are.commentLines_append]
    exact List.prefix_append _ _
  rw [find_comment, Option.some.injEq]
  constructor
  · rintro ⟨_, start, longest⟩
    exact ((within start).eq_of_length_le (longest _ read)).symm
  · rintro rfl
    exact ⟨⟨rest, rfl⟩, read, fun other start => (within start).length_le⟩

theorem find_comment_self {rest region : Text} (found : find? ('/' :: '/' :: rest) = some region) :
    find? region = some region := by
  obtain ⟨after, split, are⟩ := (isCommentRun_iff.mpr found).start
  rw [find_comment, commentLines_slashes] at found
  cases found
  have whole := are.alone.commentLines_append
  rw [List.append_nil] at whole
  rw [find_comment, whole]
  simp [commentLines]

/- Both kinds. No text opens both, since the second characters differ. -/

theorem find_opening (t : Text) :
    (∃ rest, t = '/' :: '*' :: rest) ∨ (∃ rest, t = '/' :: '/' :: rest) ∨
      (find? t = none ∧ ¬ ['/', '*'] <+: t ∧ ¬ ['/', '/'] <+: t) := by
  by_cases block : ['/', '*'] <+: t
  · obtain ⟨rest, rfl⟩ := block
    exact .inl ⟨rest, rfl⟩
  · by_cases comment : ['/', '/'] <+: t
    · obtain ⟨rest, rfl⟩ := comment
      exact .inr (.inl ⟨rest, rfl⟩)
    · rcases find_shape t with ⟨rest, rfl⟩ | ⟨rest, rfl⟩ | ⟨unfound, _⟩
      · exact absurd ⟨rest, rfl⟩ block
      · exact absurd ⟨rest, rfl⟩ comment
      · exact .inr (.inr ⟨unfound, block, comment⟩)

theorem find_eq_some_iff {t region : Text} : find? t = some region ↔ IsBlock t region ∨
    IsCommentRun t region := by
  rcases find_opening t with ⟨rest, rfl⟩ | ⟨rest, rfl⟩ | ⟨unfound, block, comment⟩
  · have other : ¬ IsCommentRun ('/' :: '*' :: rest) region := fun run => absurd run.opens (by simp)
    rw [or_iff_left other, isBlock_iff]
  · have other : ¬ IsBlock ('/' :: '/' :: rest) region :=
      fun region => absurd region.opens (by simp)
    rw [or_iff_right other, isCommentRun_iff]
  · constructor
    · intro found
      rw [unfound] at found
      cases found
    · rintro (region | run)
      · exact absurd region.opens block
      · exact absurd run.opens comment

theorem find_eq_none_iff {t : Text} :
    find? t = none ↔ ¬ (['/', '*'] <+: t ∧ ∃ n, 2 ≤ n ∧ ClosesAt t n) ∧ ¬ ['/', '/'] <+: t := by
  rcases find_opening t with ⟨rest, rfl⟩ | ⟨rest, rfl⟩ | ⟨unfound, block, comment⟩
  · simp [find_block_eq_none_iff]
  · simp [find_comment]
  · simp [unfound, block, comment]

/-- The region at the top of a text is its block comment up to the first close, or the longest run
of complete comment lines; any other text has none. A region is its own region, and that of a block
comment stays the same whatever follows it. -/
theorem find_exact (t : Text) :
    (∀ region, find? t = some region ↔ IsBlock t region ∨ IsCommentRun t region) ∧
    (find? t = none ↔ ¬ (['/', '*'] <+: t ∧ ∃ n, 2 ≤ n ∧ ClosesAt t n) ∧ ¬ ['/', '/'] <+: t) ∧
    ∀ region, find? t = some region → find? region = some region ∧
      (IsBlock t region → ∀ suffix, find? (region ++ suffix) = some region) := by
  refine ⟨fun region => find_eq_some_iff, find_eq_none_iff, fun region found => ?_⟩
  rcases find_opening t with ⟨rest, rfl⟩ | ⟨rest, rfl⟩ | ⟨unfound, _⟩
  · have kept := find_block_append found
    exact ⟨by simpa using kept [], fun _ => kept⟩
  · exact ⟨find_comment_self found, fun region => absurd region.opens (by simp)⟩
  · rw [unfound] at found
    cases found

/-- A block comment whose opening runs into a close that does not count, and two comment lines with
a return and a pair, before a line with one slash. -/
theorem find_exact_mixed :
    IsBlock "/*/ */ b */".toList "/*/ */".toList ∧
    (∀ suffix, find? ("/*/ */".toList ++ suffix) = some "/*/ */".toList) ∧
    IsCommentRun "// a\r//b\r\n/ c".toList "// a\r//b\r\n".toList ∧
    find? "// a\r//b\r\n".toList = some "// a\r//b\r\n".toList := by
  have block : find? "/*/ */ b */".toList = some "/*/ */".toList := by decide
  have run : find? "// a\r//b\r\n/ c".toList = some "// a\r//b\r\n".toList := by decide
  obtain ⟨blocks, _, kept⟩ := find_exact "/*/ */ b */".toList
  obtain ⟨runs, _, same⟩ := find_exact "// a\r//b\r\n/ c".toList
  have isBlock : IsBlock "/*/ */ b */".toList "/*/ */".toList :=
    ((blocks _).mp block).resolve_right fun run => absurd run.opens (by decide)
  have isRun : IsCommentRun "// a\r//b\r\n/ c".toList "// a\r//b\r\n".toList :=
    ((runs _).mp run).resolve_left fun block => absurd block.opens (by decide)
  exact ⟨isBlock, (kept _ block).2 isBlock, isRun, (same _ run).1⟩

end SourceTidy.Header
