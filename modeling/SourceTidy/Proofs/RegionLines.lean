import SourceTidy.Proofs.CommentRegion
import SourceTidy.Proofs.Rules

/-!
Comment regions by lines.

Line feeds for other breaks do not move the end of a region. A block comment ends inside one line,
and a line comment region is the run of comment lines at the top, so what is done to the lines of a
text is seen in its region.
-/
namespace SourceTidy.Header

open Text

/- Regions and line breaks. Reading other breaks as line feeds changes no region otherwise. -/

theorem head_canonicalBreaks {t : Text} {c : Char} (inner : c ≠ '\r') (plain : c ≠ '\n') :
    (canonicalBreaks t).head? = some c ↔ t.head? = some c := by
  unfold canonicalBreaks
  fun_cases replaceBreaks ['\n'] t with
  | case1 => simp
  | case2 rest => simp [Ne.symm inner, Ne.symm plain]
  | case3 d rest _ brk =>
    have other : d ≠ c := by
      rintro rfl
      simp [inner, plain] at brk
    simp [Ne.symm plain, other]
  | case4 d rest _ _ => simp

theorem isComment_head {t : Text} :
    isComment t = true ↔ t.head? = some '/' ∧ t.tail.head? = some '/' := by
  rw [isComment_iff]
  constructor
  · rintro ⟨rest, rfl⟩
    exact ⟨rfl, rfl⟩
  · rintro ⟨first, second⟩
    obtain ⟨tail, rfl⟩ := List.head?_eq_some_iff.mp first
    obtain ⟨rest, rfl⟩ := List.head?_eq_some_iff.mp second
    exact ⟨rest, rfl⟩

theorem canonicalBreaks_slash (t : Text) : canonicalBreaks ('/' :: t) = '/' :: canonicalBreaks t :=
  replaceBreaks_other ['\n'] t (by decide) (by decide)

theorem canonicalBreaks_feed (t : Text) : canonicalBreaks ('\n' :: t) = '\n' :: canonicalBreaks t :=
  replaceBreaks_feed ['\n'] t

theorem canonicalBreaks_pair (t : Text) :
    canonicalBreaks ('\r' :: '\n' :: t) = '\n' :: canonicalBreaks t :=
  replaceBreaks_pair ['\n'] t

theorem canonicalBreaks_return {t : Text} (lone : t.head? ≠ some '\n') :
    canonicalBreaks ('\r' :: t) = '\n' :: canonicalBreaks t :=
  replaceBreaks_return ['\n'] lone

theorem canonicalBreaks_other {c : Char} (t : Text) (inner : c ≠ '\r') (plain : c ≠ '\n') :
    canonicalBreaks (c :: t) = c :: canonicalBreaks t :=
  replaceBreaks_other ['\n'] t inner plain

theorem isComment_canonicalBreaks (t : Text) : isComment (canonicalBreaks t) = isComment t := by
  have first := head_canonicalBreaks (t := t) (c := '/') (by decide) (by decide)
  rw [Bool.eq_iff_iff, isComment_head, isComment_head, first]
  constructor
  · rintro ⟨slash, next⟩
    obtain ⟨rest, rfl⟩ := List.head?_eq_some_iff.mp slash
    rw [canonicalBreaks_slash] at next
    exact ⟨slash, (head_canonicalBreaks (by decide) (by decide)).mp next⟩
  · rintro ⟨slash, next⟩
    obtain ⟨rest, rfl⟩ := List.head?_eq_some_iff.mp slash
    rw [canonicalBreaks_slash]
    exact ⟨slash, (head_canonicalBreaks (by decide) (by decide)).mpr next⟩

theorem head_of_start {s t : Text} {c : Char} (start : s <+: t) (first : s.head? = some c) :
    t.head? = some c := by
  obtain ⟨rest, rfl⟩ := start
  obtain ⟨more, rfl⟩ := List.head?_eq_some_iff.mp first
  rfl

theorem throughClose_head {t region : Text} (found : throughClose t = some region) :
    region.head? = t.head? := by
  obtain ⟨front, rest, ends, rfl⟩ := throughClose_split found
  rw [List.head?_append_of_ne_nil _ (by simp [ends])]

theorem throughClose_canonicalBreaks (t : Text) :
    throughClose (canonicalBreaks t) = (throughClose t).map canonicalBreaks := by
  fun_induction throughClose t with
  | case1 => rfl
  | case2 more =>
    rw [canonicalBreaks_other _ (by decide) (by decide), canonicalBreaks_slash, throughClose]
    rfl
  | case3 c more apart ih =>
    rw [Option.map_map]
    by_cases feed : c = '\n'
    · subst feed
      rw [canonicalBreaks_feed, throughClose_cons (by simp), ih, Option.map_map]
      exact Option.map_congr fun inner _ => (canonicalBreaks_feed inner).symm
    · by_cases back : c = '\r'
      · subst back
        by_cases pair : more.head? = some '\n'
        · -- Both characters are one break, which the reading of the rest has already.
          obtain ⟨rest, rfl⟩ := List.head?_eq_some_iff.mp pair
          rw [canonicalBreaks_pair, ← canonicalBreaks_feed, ih]
          apply Option.map_congr
          intro inner inside
          obtain ⟨deep, rfl⟩ := List.head?_eq_some_iff.mp (throughClose_head inside)
          exact (canonicalBreaks_feed deep).trans (canonicalBreaks_pair deep).symm
        · rw [canonicalBreaks_return pair, throughClose_cons (by simp), ih, Option.map_map]
          apply Option.map_congr
          intro inner inside
          exact (canonicalBreaks_return (throughClose_head inside ▸ pair)).symm
      · have still : c = '*' → (canonicalBreaks more).head? ≠ some '/' := by
          rintro rfl first
          obtain ⟨rest, rfl⟩ := List.head?_eq_some_iff.mp
            ((head_canonicalBreaks (by decide) (by decide)).mp first)
          exact apart rest rfl rfl
        rw [canonicalBreaks_other more back feed, throughClose_cons still, ih, Option.map_map]
        exact Option.map_congr fun inner _ => (canonicalBreaks_other inner back feed).symm

theorem commentLines_canonicalBreaks (inside : Bool) (t : Text) :
    commentLines inside (canonicalBreaks t) = canonicalBreaks (commentLines inside t) := by
  fun_induction commentLines inside t with
  | case1 => rfl
  | case2 rest ih =>
    rw [canonicalBreaks_pair, canonicalBreaks_pair]
    exact congrArg ('\n' :: ·) ih
  | case3 inside rest outside =>
    rw [canonicalBreaks_pair, Bool.eq_false_iff.mpr outside]
    exact commentLines_stop rfl
  | case4 inside rest ih =>
    rw [canonicalBreaks_slash, canonicalBreaks_slash, canonicalBreaks_slash, canonicalBreaks_slash,
      commentLines, ih]
  | case5 c rest single pair ih =>
    by_cases feed : c = '\n'
    · subst feed
      rw [canonicalBreaks_feed, canonicalBreaks_feed]
      exact congrArg ('\n' :: ·) ih
    · by_cases back : c = '\r'
      · subst back
        have lone : rest.head? ≠ some '\n' := by
          intro first
          obtain ⟨more, rfl⟩ := List.head?_eq_some_iff.mp first
          exact single more rfl rfl
        have still : (commentLines false rest).head? ≠ some '\n' :=
          fun first => lone (head_of_start (commentLines_start false rest) first)
        have ends : ('\r' != '\r' && '\r' != '\n') = false := by decide
        rw [ends] at ih ⊢
        rw [canonicalBreaks_return lone, canonicalBreaks_return still]
        exact congrArg ('\n' :: ·) ih
      · have stays : (c != '\r' && c != '\n') = true := by simp [back, feed]
        rw [stays] at ih ⊢
        rw [canonicalBreaks_other rest back feed, commentLines_inner _ back feed, ih,
          canonicalBreaks_other _ back feed]
  | case6 inside c rest single pair outside =>
    have other : isComment (c :: rest) = false := by
      by_contra comment
      obtain ⟨more, same⟩ := isComment_iff.mp (by simpa using comment)
      exact pair more (List.cons.inj same).1 (List.cons.inj same).2
    rw [Bool.eq_false_iff.mpr outside]
    exact commentLines_stop (by rw [isComment_canonicalBreaks, other])

theorem canonicalBreaks_eq_cons {t rest : Text} {c : Char} (inner : c ≠ '\r') (plain : c ≠ '\n')
    (same : canonicalBreaks t = c :: rest) :
    ∃ more, t = c :: more ∧ canonicalBreaks more = rest := by
  have first : t.head? = some c := (head_canonicalBreaks inner plain).mp (by rw [same]; rfl)
  obtain ⟨more, rfl⟩ := List.head?_eq_some_iff.mp first
  rw [canonicalBreaks_other more inner plain] at same
  exact ⟨more, rfl, (List.cons.inj same).2⟩

theorem find_canonicalBreaks_map (t : Text) :
    find? (canonicalBreaks t) = (find? t).map canonicalBreaks := by
  have star (t : Text) : canonicalBreaks ('*' :: t) = '*' :: canonicalBreaks t :=
    canonicalBreaks_other t (by decide) (by decide)
  have block (rest : Text) : find? (canonicalBreaks ('/' :: '*' :: rest)) =
      (find? ('/' :: '*' :: rest)).map canonicalBreaks := by
    rw [canonicalBreaks_slash, star, find_block, find_block, throughClose_canonicalBreaks,
      Option.map_map, Option.map_map]
    apply Option.map_congr
    intro inner _
    simp only [Function.comp, canonicalBreaks_slash, star]
  have comment (rest : Text) : find? (canonicalBreaks ('/' :: '/' :: rest)) =
      (find? ('/' :: '/' :: rest)).map canonicalBreaks := by
    rw [find_comment, Option.map_some, ← commentLines_canonicalBreaks, canonicalBreaks_slash,
      canonicalBreaks_slash]
    exact find_comment (canonicalBreaks rest)
  rcases find_shape t with ⟨rest, rfl⟩ | ⟨rest, rfl⟩ | ⟨missing, _⟩
  · exact block rest
  · exact comment rest
  · rcases find_shape (canonicalBreaks t) with ⟨rest, same⟩ | ⟨rest, same⟩ | ⟨unfound, _⟩
    · obtain ⟨more, rfl, tail⟩ := canonicalBreaks_eq_cons (by decide) (by decide) same
      obtain ⟨inside, rfl, _⟩ := canonicalBreaks_eq_cons (by decide) (by decide) tail
      exact block inside
    · obtain ⟨more, rfl, tail⟩ := canonicalBreaks_eq_cons (by decide) (by decide) same
      obtain ⟨inside, rfl, _⟩ := canonicalBreaks_eq_cons (by decide) (by decide) tail
      exact comment inside
    · rw [unfound, missing]
      rfl

theorem find_canonicalBreaks {t region : Text} (found : find? t = some region) :
    find? (canonicalBreaks t) = some (canonicalBreaks region) := by
  rw [find_canonicalBreaks_map, found, Option.map_some]

/- Block comments by lines. The close lies in one line, so blanks around the lines do not matter. -/

def closeInk : List Text → Option Text
  | [] => none
  | l :: ls =>
    match (throughClose l).map ink with
    | some region => some region
    | none => (closeInk ls).map (ink l ++ ·)

theorem closeInk_unlines {ls : List Text} (nonempty : ls ≠ []) :
    (throughClose (unlines ls)).map ink = closeInk ls := by
  induction ls with
  | nil => contradiction
  | cons l ls ih =>
    cases ls with
    | nil =>
      rw [unlines_singleton, closeInk]
      cases throughClose l with
      | none => rfl
      | some region => rfl
    | cons k ls =>
      rw [unlines_cons l (by simp), throughClose_line, closeInk, ← ih (by simp)]
      cases throughClose l with
      | some region => rfl
      | none => cases throughClose (unlines (k :: ls)) <;> simp

theorem throughClose_append_blank (t : Text) {b : Text} (all : ∀ c ∈ b, isBlank c) :
    throughClose (t ++ b) = throughClose t := by
  fun_induction throughClose t with
  | case1 =>
    rw [List.nil_append]
    induction b with
    | nil => rfl
    | cons c b ih =>
      have blank : isBlank c := all c (by simp)
      have other : c ≠ '*' := by
        rintro rfl
        exact absurd blank (by decide)
      rw [throughClose_cons fun star => absurd star other,
        ih fun d member => all d (by simp [member])]
      rfl
  | case2 more => rfl
  | case3 c more apart ih =>
    have still : c = '*' → (more ++ b).head? ≠ some '/' := by
      rintro rfl first
      cases more with
      | nil =>
        have slash : '/' ∈ b := List.mem_of_mem_head? first
        exact absurd (all _ slash) (by decide)
      | cons d more => exact apart more rfl (by rw [Option.some.inj first])
    rw [List.cons_append, throughClose_cons still, ih]

theorem throughClose_blank_append {b : Text} (t : Text) (all : ∀ c ∈ b, isBlank c) :
    throughClose (b ++ t) = (throughClose t).map (b ++ ·) := by
  induction b with
  | nil => simp
  | cons c b ih =>
    have blank : isBlank c := all c (by simp)
    have other : c ≠ '*' := by
      rintro rfl
      exact absurd blank (by decide)
    rw [List.cons_append, throughClose_cons fun star => absurd star other,
      ih fun d member => all d (by simp [member])]
    simp [Function.comp_def]

theorem throughClose_trimRight (t : Text) :
    throughClose (trimRight isBlank t) = throughClose t := by
  obtain ⟨rest, all, whole⟩ := trimRight_append_rest isBlank t
  have same := throughClose_append_blank (trimRight isBlank t) all
  rw [whole] at same
  exact same.symm

theorem closeInk_blank {l : Text} (ls : List Text) (blank : ∀ c ∈ l, isBlank c) :
    closeInk (l :: ls) = closeInk ls := by
  have unclosed : throughClose l = none := throughClose_append_blank [] blank
  simp [closeInk, unclosed, ink_of_blank blank]

theorem closeInk_append_empty (ls : List Text) {empty : List Text} (all : ∀ l ∈ empty, l = []) :
    closeInk (ls ++ empty) = closeInk ls := by
  induction ls with
  | nil =>
    rw [List.nil_append]
    induction empty with
    | nil => rfl
    | cons l empty ih =>
      rw [all l (by simp), closeInk_blank _ (by simp)]
      exact ih fun k member => all k (by simp [member])
  | cons l ls ih => rw [List.cons_append, closeInk, closeInk, ih]

/- Line comments by lines. -/

def firstSolid (ls : List Text) : Text :=
  (ls.dropWhile fun l => l.all isBlank).headD []

theorem firstSolid_blank {l : Text} (ls : List Text) (blank : l.all isBlank = true) :
    firstSolid (l :: ls) = firstSolid ls := by
  simp only [firstSolid, List.dropWhile_cons, blank, if_true]

theorem firstSolid_solid {l : Text} (ls : List Text) (solid : l.all isBlank = false) :
    firstSolid (l :: ls) = l := by
  simp [firstSolid, solid]

theorem isComment_of_blank {l : Text} (blank : l.all isBlank = true) : isComment l = false := by
  by_contra comment
  obtain ⟨rest, rfl⟩ := isComment_iff.mp (by simpa using comment)
  have slash : isBlank '/' = false := by decide
  simp [slash] at blank

theorem isComment_of_indent {indent : Text} (t : Text) (nonempty : indent ≠ [])
    (blank : ∀ c ∈ indent, isBlank c) : isComment (indent ++ t) = false := by
  by_contra comment
  obtain ⟨tail, same⟩ := isComment_iff.mp (by simpa using comment)
  cases indent with
  | nil => contradiction
  | cons c indent =>
    have first := blank c (by simp)
    rw [(List.cons.inj same).1] at first
    exact absurd first (by decide)

theorem opens_of_solid {l : Text} (rest : Text) (clean : '\r' ∉ l) (free : '\n' ∉ l)
    (solid : l.all isBlank = false) : Opens (l ++ rest) := by
  rcases line_shape l with all | ⟨indent, d, more, rfl, all, code⟩
  · rw [List.all_eq_true.mpr all] at solid
    contradiction
  · simp only [List.mem_append, List.mem_cons, not_or] at clean free
    exact ⟨indent, d, more ++ rest, by simp, all, code, Ne.symm clean.2.1, Ne.symm free.2.1⟩

theorem isComment_dropBlankLines {ls : List Text} (nonempty : ls ≠ []) (clean : ∀ l ∈ ls, '\r' ∉ l)
    (free : ∀ l ∈ ls, '\n' ∉ l) :
    isComment (dropBlankLines (unlines ls)) = isComment (firstSolid ls) := by
  induction ls with
  | nil => contradiction
  | cons l ls ih =>
    have opens (rest : Text) := opens_of_solid rest (clean l (by simp)) (free l (by simp))
    cases ls with
    | nil =>
      rw [unlines_singleton]
      cases blank : l.all isBlank with
      | true =>
        have same := dropBlankLinesFrom_blank l [] (List.all_eq_true.mp blank)
        rw [List.append_nil] at same
        rw [dropBlankLines, same, firstSolid_blank [] blank]
        exact isComment_of_blank blank
      | false =>
        have same := dropBlankLines_of_opens (opens [] blank)
        rw [List.append_nil] at same
        rw [same, firstSolid_solid [] blank]
    | cons k ls =>
      rw [unlines_cons l (by simp)]
      cases blank : l.all isBlank with
      | true =>
        have tail := ih (by simp) (fun m member => clean m (by simp [member]))
          fun m member => free m (by simp [member])
        rw [firstSolid_blank _ blank, ← tail, dropBlankLines,
          dropBlankLinesFrom_blank _ _ (List.all_eq_true.mp blank)]
        simp [dropBlankLinesFrom, dropBlankLines]
      | false =>
        rw [dropBlankLines_of_opens (opens _ blank), firstSolid_solid _ blank, isComment_line]

theorem isComment_unlines (l : Text) (ls : List Text) :
    isComment (unlines (l :: ls)) = isComment l := by
  cases ls with
  | nil => rw [unlines_singleton]
  | cons k ls => rw [unlines_cons l (by simp), isComment_line]

/-- The comment lines at the top are the region, and the first line that is left and not blank is
the body. -/
theorem commentLines_by_lines {ls : List Text} (nonempty : ls ≠ []) (clean : ∀ l ∈ ls, '\r' ∉ l)
    (free : ∀ l ∈ ls, '\n' ∉ l) :
    ∃ left, unlines ls = commentLines false (unlines ls) ++ left ∧
      ink (commentLines false (unlines ls)) = (ls.takeWhile isComment).flatMap ink ∧
      isComment (dropBlankLines left) = isComment (firstSolid (ls.dropWhile isComment)) := by
  induction ls with
  | nil => contradiction
  | cons l ls ih =>
    cases comment : isComment l with
    | false =>
      have other : isComment (unlines (l :: ls)) = false := by rw [isComment_unlines, comment]
      refine ⟨unlines (l :: ls), ?_, ?_, ?_⟩
      · rw [commentLines_stop other, List.nil_append]
      · rw [commentLines_stop other]
        simp [comment]
      · rw [isComment_dropBlankLines nonempty clean free]
        simp [comment]
    | true =>
      cases ls with
      | nil =>
        refine ⟨[], ?_, ?_, ?_⟩
        · rw [unlines_singleton, commentLines_only comment (clean l (by simp)) (free l (by simp)),
            List.append_nil]
        · rw [unlines_singleton, commentLines_only comment (clean l (by simp)) (free l (by simp))]
          simp [comment]
        · simp [comment, firstSolid, dropBlankLines, dropBlankLinesFrom]
      | cons k ls =>
        obtain ⟨left, split, inked, next⟩ :=
          ih (by simp) (fun m member => clean m (by simp [member]))
          fun m member => free m (by simp [member])
        have step := commentLines_comment (unlines (k :: ls)) comment (clean l (by simp))
          (free l (by simp))
        refine ⟨left, ?_, ?_, ?_⟩
        · rw [unlines_cons l (by simp), step, List.append_assoc, List.cons_append, ← split]
        · rw [unlines_cons l (by simp), step, ink_append, ink_newline, inked,
            List.takeWhile_cons_of_pos comment, List.flatMap_cons]
        · rw [next, List.dropWhile_cons_of_pos comment]

end SourceTidy.Header
