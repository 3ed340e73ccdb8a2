import SourceTidy.Proofs.CommentRegion

/-!
How the header pass judges a text whose first lines are a header, `header ++ '\n' :: rest`.

If the header is one comment region, the body is the rest, unless both are line comments: then the
region runs on into the rest. If the header is not one region, the body never has the ink of the
rest, because some of the header is left in it or some of the rest is not.
-/
namespace SourceTidy.Header

open Text

/-- The header is exactly one comment region. -/
def IsRegion (header : Text) : Prop :=
  find? header = some header

instance (header : Text) : Decidable (IsRegion header) :=
  inferInstanceAs (Decidable (_ = _))

theorem normalize_clean (header : Text) : '\r' ∉ normalize header :=
  fun inside => canonicalBreaks_clean header (mem_of_mem_trimRight inside)

theorem carries_of_region {header t : Text} (region : IsRegion header) :
    carries t header = true ↔ ∃ found, find? t = some found ∧ normalize found = header := by
  rw [IsRegion] at region
  rw [carries, if_pos region]
  cases find? t with
  | none => simp
  | some found => simp

theorem carries_of_no_region {header t : Text} (other : ¬ IsRegion header) :
    carries t header = true ↔
      canonicalBreaks t = header ∨ header ++ ['\n'] <+: canonicalBreaks t := by
  rw [IsRegion] at other
  simp [carries, other]

theorem find_of_block {header : Text} (rest : Text) (region : IsRegion header)
    (block : isComment header = false) : find? (header ++ rest) = some header := by
  rcases find_shape header with ⟨more, rfl⟩ | ⟨more, rfl⟩ | ⟨unfound, _⟩
  · rw [IsRegion, find_block] at region
    obtain ⟨inner, inside, whole⟩ := Option.map_eq_some_iff.mp region
    rw [List.cons_append, List.cons_append, find_block, throughClose_append rest inside]
    exact congrArg some whole
  · simp [isComment] at block
  · simp [IsRegion, unfound] at region

theorem find_of_comment {header : Text} (rest : Text) (region : IsRegion header)
    (comment : isComment header) (ends : EndsInInk header) (clean : '\r' ∉ header) :
    find? (header ++ '\n' :: rest) = some (header ++ '\n' :: commentLines false rest) := by
  have through : commentLines false header = header := by
    obtain ⟨more, rfl⟩ := isComment_iff.mp comment
    rw [IsRegion, find_comment] at region
    exact Option.some.inj region
  have comments : ∀ l ∈ lines header, isComment l :=
    comments_of_commentLines (lines_ne_nil header) (last_line_of_endsInInk ends) (clean_lines clean)
      (fun l => free_of_mem_lines) (by rwa [unlines_lines])
  have run := commentLines_run (lines_ne_nil header) rest comments (clean_lines clean)
    fun l => free_of_mem_lines
  rw [unlines_lines] at run
  obtain ⟨more, rfl⟩ := isComment_iff.mp comment
  rw [← run]
  exact find_comment (more ++ '\n' :: rest)

/-- The region of a text under a header that is a region, where the two do not run together. -/
theorem find_of_region {header rest : Text} (region : IsRegion header) (ends : EndsInInk header)
    (clean : '\r' ∉ header) (apart : isComment header → isComment rest = false) :
    ∃ found left, find? (header ++ '\n' :: rest) = some found ∧
      header ++ '\n' :: rest = found ++ left ∧ dropBlankLines left = dropBlankLines rest ∧
      normalize found = header := by
  have same : normalize header = header := by
    rw [normalize, canonicalBreaks_of_clean clean, ends.stripRight]
  cases comment : isComment header with
  | false =>
    exact ⟨header, '\n' :: rest, find_of_block _ region comment, rfl, dropBlankLines_newline rest,
      same⟩
  | true =>
    have found := find_of_comment rest region comment ends clean
    rw [commentLines_stop (apart comment)] at found
    refine ⟨header ++ ['\n'], rest, found, by simp, rfl, ?_⟩
    have kept : '\r' ∉ header ++ ['\n'] := by simpa using clean
    rw [normalize, canonicalBreaks_of_clean kept, stripRight, trimRight_append_of_all]
    · exact ends.stripRight
    · simp [show isSpace '\n' = true by decide]

theorem body_of_region {header rest : Text} (region : IsRegion header) (ends : EndsInInk header)
    (clean : '\r' ∉ header) (apart : isComment header → isComment rest = false) :
    body (header ++ '\n' :: rest) = dropBlankLines rest := by
  obtain ⟨found, left, look, whole, same, _⟩ := find_of_region region ends clean apart
  rw [body_of_find look whole, same]

/-- Line comments that run together: the body lacks the first comment of the rest. -/
theorem body_of_merge {header rest : Text} (region : IsRegion header) (ends : EndsInInk header)
    (clean : '\r' ∉ header) (comment : isComment header) (more : isComment rest) :
    (ink (body (header ++ '\n' :: rest))).length < (ink rest).length := by
  obtain ⟨left, split⟩ := commentLines_start false rest
  have whole : header ++ '\n' :: rest = (header ++ '\n' :: commentLines false rest) ++ left := by
    rw [List.append_assoc, List.cons_append, split]
  rw [body_of_find (find_of_comment rest region comment ends clean) whole, ink_dropBlankLines]
  obtain ⟨tail, rfl⟩ := isComment_iff.mp more
  rw [commentLines_slashes] at split
  have lengths := congrArg (fun t => (ink t).length) split
  have slash : isSpace '/' = false := by decide
  simp only [ink_append, List.length_append] at lengths
  simp only [ink, List.filter_cons, slash, Bool.not_false, if_true, List.length_cons] at lengths ⊢
  omega

/-- A header that is no region: the body has more ink than the rest, or less. -/
theorem body_of_no_region {header : Text} (rest : Text) (other : ¬ IsRegion header)
    (ends : EndsInInk header) (clean : '\r' ∉ header) :
    (ink (body (header ++ '\n' :: rest))).length ≠ (ink rest).length := by
  have solid : 0 < (ink header).length := List.length_pos_iff.mpr ends.ink_ne_nil
  rcases find_shape header with ⟨more, rfl⟩ | ⟨more, rfl⟩ | ⟨_, unfound⟩
  · cases inside : throughClose more with
    | some inner =>
      -- The comment closes inside the header, and the header goes on after it.
      obtain ⟨_, left, _, rfl⟩ := throughClose_split inside
      have goes_on : left ≠ [] := by
        rintro rfl
        apply other
        rw [IsRegion, find_block, inside]
        simp
      have part : EndsInInk left :=
        EndsInInk.of_append (s := '/' :: '*' :: inner) ends goes_on
      have look : find? ('/' :: '*' :: (inner ++ left) ++ '\n' :: rest) =
          some ('/' :: '*' :: inner) := by
        rw [List.cons_append, List.cons_append, find_block, throughClose_append _ inside]
        rfl
      have whole : '/' :: '*' :: (inner ++ left) ++ '\n' :: rest =
          ('/' :: '*' :: inner) ++ (left ++ '\n' :: rest) := by simp
      rw [body_of_find look whole, ink_dropBlankLines, ink_append, ink_newline, List.length_append]
      have inked := List.length_pos_iff.mpr part.ink_ne_nil
      omega
    | none =>
      have line := throughClose_line more rest
      rw [inside] at line
      cases close : throughClose rest with
      | none =>
        have look : find? ('/' :: '*' :: more ++ '\n' :: rest) = none := by
          rw [List.cons_append, List.cons_append, find_block, line, close]
          rfl
        rw [body_of_none look, ink_dropBlankLines, ink_append, ink_newline, List.length_append]
        omega
      | some inner =>
        -- The comment closes in the rest, which loses its start.
        obtain ⟨front, left, stop, rfl⟩ := throughClose_split close
        have look : find? ('/' :: '*' :: more ++ '\n' :: (inner ++ left)) =
            some ('/' :: '*' :: more ++ '\n' :: inner) := by
          rw [List.cons_append, List.cons_append, find_block, line, close]
          rfl
        have whole : '/' :: '*' :: more ++ '\n' :: (inner ++ left) =
            ('/' :: '*' :: more ++ '\n' :: inner) ++ left := by simp
        rw [body_of_find look whole, ink_dropBlankLines, ink_append, List.length_append]
        have last : EndsInInk inner := ⟨front ++ ['*'], '/', by simp [stop], by decide⟩
        have inky := List.length_pos_iff.mpr last.ink_ne_nil
        omega
  · have stopped : commentLines false ('/' :: '/' :: more) ≠ '/' :: '/' :: more := by
      intro through
      apply other
      rw [IsRegion, find_comment, through]
    -- The region ends inside the header.
    obtain ⟨left, split⟩ := commentLines_start false ('/' :: '/' :: more)
    have goes_on : left ≠ [] := by
      rintro rfl
      exact stopped (by simpa using split)
    have part : EndsInInk left := (split ▸ ends).of_append goes_on
    have look : find? ('/' :: '/' :: more ++ '\n' :: rest) =
        some (commentLines false ('/' :: '/' :: more)) := by
      rw [← commentLines_stopped rest clean stopped]
      exact find_comment (more ++ '\n' :: rest)
    have whole : '/' :: '/' :: more ++ '\n' :: rest =
        commentLines false ('/' :: '/' :: more) ++ (left ++ '\n' :: rest) := by
      rw [← List.append_assoc, split]
    rw [body_of_find look whole, ink_dropBlankLines, ink_append, ink_newline, List.length_append]
    have inked := List.length_pos_iff.mpr part.ink_ne_nil
    omega
  · rw [body_of_none (unfound rest), ink_dropBlankLines, ink_append, ink_newline,
      List.length_append]
    omega

/-- A header in normal form is carried with anything below it that it does not run into. -/
theorem carries_self {header rest : Text} (ends : EndsInInk header) (clean : '\r' ∉ header)
    (apart : IsRegion header → isComment header → isComment rest = false) :
    carries (header ++ '\n' :: rest) header = true := by
  by_cases region : IsRegion header
  · obtain ⟨found, _, look, _, _, same⟩ := find_of_region region ends clean (apart region)
    exact (carries_of_region region).mpr ⟨found, look, same⟩
  · have start : header ++ ['\n'] <+: canonicalBreaks (header ++ '\n' :: rest) := by
      rw [canonicalBreaks_append _ clean, canonicalBreaks, replaceBreaks_feed]
      exact ⟨_, List.append_assoc header ['\n'] _⟩
    exact (carries_of_no_region region).mpr (.inr start)

/-- A text under a region of the same ink carries a header only if the region is that header. -/
theorem eq_of_carries {header region rest : Text} (ends : EndsInInk header)
    (tight : EndsInInk region) (clean : '\r' ∉ region) (below : '\r' ∉ rest)
    (isRegion : IsRegion region) (apart : isComment region → isComment rest = false)
    (equal : (ink region).length = (ink header).length)
    (carried : carries (region ++ '\n' :: rest) header = true) : region = header := by
  by_cases wanted : IsRegion header
  · obtain ⟨found, _, look, _, _, same⟩ := find_of_region isRegion tight clean apart
    obtain ⟨other, look', same'⟩ := (carries_of_region wanted).mp carried
    cases Option.some.inj (look.symm.trans look')
    exact same.symm.trans same'
  · have whole : '\r' ∉ region ++ '\n' :: rest := by simp [clean, below]
    rw [carries_of_no_region wanted, canonicalBreaks_of_clean whole] at carried
    rcases carried with exact | ⟨more, same⟩
    · have same : region ++ '\n' :: rest = header ++ [] := by simpa using exact
      exact eq_of_equal_ink tight ends equal same
    · rw [List.append_assoc] at same
      exact eq_of_equal_ink tight ends equal same.symm

end SourceTidy.Header
