import SourceTidy.Proofs.RegionLines
import SourceTidy.Proofs.RepeatedRuns

/-!
What a run keeps of a file that carries the header already.

Whether the header is there is asked of the formatted text. The formatter keeps a block comment as
it is up to white space. It keeps the lines of a line comment, too, but without blank lines below it
the next line comment becomes a part of the region, and is taken away with it.
-/
namespace SourceTidy.Java

open Text Header

/- The formatter and the region at the top. -/

theorem isComment_tidy {settings : Settings} (positive : 1 ≤ settings.tabSize) (l : Text) :
    isComment (tidy settings l) = isComment l := by
  rcases line_shape l with all | ⟨indent, d, rest, rfl, all, code⟩
  · rw [tidy_of_blank settings all, isComment_of_blank (List.all_eq_true.mpr all)]
    rfl
  · by_cases empty : indent = []
    · subst empty
      rw [List.nil_append, tidy_of_first settings rest code, Bool.eq_iff_iff, isComment_head,
        isComment_head]
      refine and_congr_right fun _ => ?_
      constructor
      · exact head_of_start (List.rdropWhile_prefix isBlank rest)
      · intro next
        obtain ⟨more, rfl⟩ := List.head?_eq_some_iff.mp next
        rw [List.tail_cons, trimRight_cons more (by decide)]
        rfl
    · obtain ⟨new, nonempty, blank, done, _⟩ :=
        Indentation.reindent_of_indent positive rest all empty code
      rw [tidy, done, Option.getD_some, trimRight_append_of_kept new ⟨d, by simp, code⟩,
        isComment_of_indent _ nonempty blank, isComment_of_indent _ empty all]

theorem firstSolid_map_tidy {settings : Settings} (positive : 1 ≤ settings.tabSize)
    (ls : List Text) :
    isComment (firstSolid (ls.map (tidy settings))) = isComment (firstSolid ls) := by
  induction ls with
  | nil => rfl
  | cons l ls ih =>
    rw [List.map_cons]
    cases blank : l.all isBlank with
    | true => rw [firstSolid_blank ls blank, firstSolid_blank _ (by rw [tidy_solid, blank]), ih]
    | false =>
      rw [firstSolid_solid ls blank, firstSolid_solid _ (by rw [tidy_solid, blank]),
        isComment_tidy positive]

theorem closeInk_map_tidy (settings : Settings) (ls : List Text) :
    closeInk (ls.map (tidy settings)) = closeInk ls := by
  induction ls with
  | nil => rfl
  | cons l ls ih =>
    have same : (throughClose (tidy settings l)).map ink = (throughClose l).map ink := by
      obtain ⟨old, new, code, before, after, rfl, same⟩ := tidy_exchanges settings l
      rw [same, throughClose_trimRight, throughClose_blank_append code after,
        throughClose_blank_append code before]
      cases throughClose code with
      | none => rfl
      | some region => simp [ink_of_blank before, ink_of_blank after]
    rw [List.map_cons, closeInk, closeInk, same, ink_tidy, ih]

theorem closeInk_cap (keep : Int) (begun : Bool) (run : Nat) (ls : List Text) :
    closeInk (cap keep begun run ls) = closeInk ls := by
  induction ls generalizing begun run with
  | nil => rfl
  | cons l ls ih =>
    cases blank : l.all isBlank with
    | true =>
      rw [closeInk_blank ls (List.all_eq_true.mp blank), cap_blank keep begun run ls blank]
      split
      · rw [List.singleton_append, closeInk_blank _ (by simp), ih]
      · rw [List.nil_append, ih]
    | false => rw [cap_solid keep begun run ls blank, closeInk, closeInk, ih]

theorem closeInk_dropEmptyEnd (ls : List Text) :
    closeInk (BlankLines.dropEmptyEnd ls) = closeInk ls := by
  obtain ⟨empty, all, whole⟩ := dropEmptyEnd_split ls
  rw [← closeInk_append_empty (BlankLines.dropEmptyEnd ls) all, whole]

theorem endLines_eq_unlines (ls : List Text) : BlankLines.endLines ls = unlines (ls ++ [[]]) := by
  unfold BlankLines.endLines
  split
  · rename_i empty
    simp [List.isEmpty_iff.mp empty]
  · rename_i nonempty
    rw [unlines_append (by simpa using nonempty) (by simp), unlines_singleton]

theorem find_layout_block (settings : Settings) {t region : Text}
    (found : find? ('/' :: '*' :: t) = some region) :
    ∃ region', find? (layout settings ('/' :: '*' :: t)) = some region' ∧
    ink region' = ink region := by
  rw [find_block] at found
  obtain ⟨inner, inside, rfl⟩ := Option.map_eq_some_iff.mp found
  obtain ⟨l, ls, split⟩ := List.exists_cons_of_ne_nil (lines_ne_nil t)
  have whole : lines ('/' :: '*' :: t) = ('/' :: '*' :: l) :: ls :=
    lines_free_append (p := ['/', '*']) (by decide) split
  have slash : isBlank '/' = false := by decide
  obtain ⟨below, rest, laid⟩ : ∃ below, closeInk below = closeInk ls ∧
      layout settings ('/' :: '*' :: t) = '/' :: '*' :: unlines (trimRight isBlank l :: below) := by
    refine ⟨BlankLines.dropEmptyEnd (cap settings.blankLines true 0 (ls.map (tidy settings))) ++
      [[]], ?_, ?_⟩
    · rw [closeInk_append_empty _ (by simp), closeInk_dropEmptyEnd, closeInk_cap, closeInk_map_tidy]
    · rw [layout_of_top settings whole (by simp [slash]), tidy_of_first settings _ (by decide),
        trimRight_cons l (by decide), endLines_eq_unlines, unlines_cons _ (by simp)]
      rfl
  have closes : (throughClose (unlines (trimRight isBlank l :: below))).map ink =
      some (ink inner) := by
    rw [closeInk_unlines (by simp), closeInk, throughClose_trimRight,
      ink_trimRight (fun _ => isSpace_of_blank), rest, ← closeInk, ← split,
      ← closeInk_unlines (lines_ne_nil t), unlines_lines, inside]
    rfl
  obtain ⟨inner', inside', same⟩ := Option.map_eq_some_iff.mp closes
  refine ⟨'/' :: '*' :: inner', ?_, ?_⟩
  · rw [laid, find_block, inside']
    rfl
  · rw [show '/' :: '*' :: inner' = ['/', '*'] ++ inner' from rfl, ink_append, same, ← ink_append]
    rfl

theorem solid_of_comment {l : Text} (comment : isComment l = true) : l.all isBlank = false := by
  by_contra blank
  rw [isComment_of_blank (by simpa using blank)] at comment
  contradiction

theorem cap_comments (keep : Int) (begun : Bool) (run : Nat) {ls : List Text} (ms : List Text)
    (nonempty : ls ≠ []) (comments : ∀ l ∈ ls, isComment l) :
    cap keep begun run (ls ++ ms) = ls ++ cap keep true 0 ms := by
  induction ls generalizing begun run with
  | nil => contradiction
  | cons l ls ih =>
    rw [List.cons_append, cap_solid _ _ _ _ (solid_of_comment (comments l (by simp))),
      List.cons_append]
    by_cases empty : ls = []
    · rw [empty]
      rfl
    · rw [ih true 0 empty fun k member => comments k (by simp [member])]

/-- With no room for blank lines, the first line is the first that is not blank. -/
theorem takeWhile_cap_of_tight {keep : Int} (tight : keep < 1) (begun : Bool) (run : Nat)
    (ls : List Text) :
    (cap keep begun run ls).takeWhile isComment = [] ↔ isComment (firstSolid ls) = false := by
  induction ls generalizing begun run with
  | nil => exact iff_of_true rfl rfl
  | cons l ls ih =>
    cases blank : l.all isBlank with
    | true =>
      have full : ¬ (begun && decide (((run + 1 : Nat) : Int) ≤ keep)) = true := by
        simp only [Bool.and_eq_true, decide_eq_true_eq]
        omega
      rw [cap_blank keep begun run ls blank, if_neg full, firstSolid_blank ls blank]
      exact ih begun (run + 1)
    | false =>
      rw [cap_solid keep begun run ls blank, firstSolid_solid ls blank]
      cases comment : isComment l with
      | true => simp [comment]
      | false => simp [comment]

/-- Below a line that is not blank, the lines start with a comment only if blank ones went. -/
theorem takeWhile_cap (keep : Int) {ls : List Text} (other : ls.takeWhile isComment = []) :
    (cap keep true 0 ls).takeWhile isComment = [] ↔
      ¬ (keep < 1 ∧ isComment (firstSolid ls) = true) := by
  by_cases tight : keep < 1
  · rw [takeWhile_cap_of_tight tight]
    simp [tight]
  · refine iff_of_true ?_ (by simp [tight])
    cases ls with
    | nil => rfl
    | cons l ls =>
      cases blank : l.all isBlank with
      | true =>
        have room : (true && decide (((0 + 1 : Nat) : Int) ≤ keep)) = true := by
          simp only [Bool.true_and, decide_eq_true_eq]
          omega
        rw [cap_blank keep true 0 ls blank, if_pos room]
        rfl
      | false =>
        rw [cap_solid keep true 0 ls blank]
        cases comment : isComment l with
        | true => simp [comment] at other
        | false => simp [comment]

theorem takeWhile_append_empty (ls : List Text) {empty : List Text} (all : ∀ l ∈ empty, l = []) :
    (ls ++ empty).takeWhile isComment = ls.takeWhile isComment := by
  induction ls with
  | nil =>
    cases empty with
    | nil => rfl
    | cons l empty =>
      rw [all l (by simp)]
      rfl
  | cons l ls ih => rw [List.cons_append, List.takeWhile_cons, List.takeWhile_cons, ih]

theorem takeWhile_layout {settings : Settings} (positive : 1 ≤ settings.tabSize) {t : Text}
    (comment : isComment t = true) :
    (lines (layout settings t)).takeWhile isComment =
      ((lines t).takeWhile isComment).map (tidy settings) ++
        (cap settings.blankLines true 0
          (((lines t).dropWhile isComment).map (tidy settings))).takeWhile isComment := by
  have kept : ∀ l ∈ ((lines t).takeWhile isComment).map (tidy settings), isComment l := by
    intro l member
    obtain ⟨k, found, rfl⟩ := List.mem_map.mp member
    rw [isComment_tidy positive]
    exact List.mem_takeWhile_imp found
  have nonempty : ((lines t).takeWhile isComment).map (tidy settings) ≠ [] := by
    obtain ⟨l, ls, first⟩ := List.exists_cons_of_ne_nil (lines_ne_nil t)
    rw [← unlines_lines t, first, isComment_unlines] at comment
    simp [first, comment]
  obtain ⟨gone, all, whole⟩ := dropEmptyEnd_split
    (cap settings.blankLines false 0 ((lines t).map (tidy settings)))
  have split : (lines t).map (tidy settings) = ((lines t).takeWhile isComment).map
    (tidy settings) ++
      ((lines t).dropWhile isComment).map (tidy settings) := by
    rw [← List.map_append, List.takeWhile_append_dropWhile]
  rw [lines_layout, takeWhile_append_empty _ (by simp), ← takeWhile_append_empty _ all, whole,
    split, cap_comments _ _ _ _ nonempty kept, List.takeWhile_append_of_pos kept]

theorem find_layout_comment {settings : Settings} (positive : 1 ≤ settings.tabSize)
    {t region : Text} (clean : '\r' ∉ t) (comment : isComment t = true)
    (found : find? t = some region) :
    ∃ region', find? (layout settings t) = some region' ∧
      (ink region' = ink region ↔
        ¬ (settings.blankLines < 1 ∧ isComment (body t) = true)) := by
  have laid : isComment (layout settings t) = true := by
    obtain ⟨l, ls, first⟩ := List.exists_cons_of_ne_nil (lines_ne_nil t)
    rw [← unlines_lines t, first, isComment_unlines] at comment
    rw [layout_of_top settings first (solid_of_comment comment), isComment_line,
      isComment_tidy positive, comment]
  obtain ⟨rest, shape⟩ := isComment_iff.mp comment
  obtain ⟨rest', shape'⟩ := isComment_iff.mp laid
  have look : find? t = some (commentLines false t) := by rw [shape, find_comment]
  have look' : find? (layout settings t) = some (commentLines false (layout settings t)) := by
    rw [shape', find_comment]
  cases Option.some.inj (found.symm.trans look)
  obtain ⟨left, split, inked, next⟩ := commentLines_by_lines (lines_ne_nil t) (clean_lines clean)
    fun l => free_of_mem_lines
  obtain ⟨_, _, inked', _⟩ := commentLines_by_lines (lines_ne_nil (layout settings t))
    (clean_lines (layout_clean positive clean)) fun l => free_of_mem_lines
  rw [unlines_lines] at split inked inked'
  have same : (((lines t).takeWhile isComment).map (tidy settings)).flatMap ink =
      ((lines t).takeWhile isComment).flatMap ink := by
    rw [List.flatMap_map]
    simp only [ink_tidy]
  have stop : (((lines t).dropWhile isComment).map (tidy settings)).takeWhile isComment = [] := by
    cases rest : (lines t).dropWhile isComment with
    | nil => rfl
    | cons l ls =>
      have other := List.head?_dropWhile_not isComment (lines t)
      rw [rest] at other
      have first : isComment l = false := by simpa using other
      simp [isComment_tidy positive, first]
  rw [takeWhile_layout positive comment, List.flatMap_append, same] at inked'
  refine ⟨_, look', ?_⟩
  rw [inked', inked, List.append_right_eq_self, body_of_find look split, next,
    ← firstSolid_map_tidy positive, ← takeWhile_cap settings.blankLines stop]
  constructor
  · intro nothing
    by_contra some
    obtain ⟨l, ls, first⟩ := List.exists_cons_of_ne_nil some
    have isOne : isComment l = true := List.mem_takeWhile_imp (first ▸ List.mem_cons_self)
    obtain ⟨tail, rfl⟩ := isComment_iff.mp isOne
    have slash : isSpace '/' = false := by decide
    simp [first, ink, slash] at nothing
  · intro empty
    rw [empty]
    rfl

/-- The region of the formatted text has the ink of the region before, unless line comments ran
together. -/
theorem find_layout {settings : Settings} (positive : 1 ≤ settings.tabSize) {t region : Text}
    (clean : '\r' ∉ t) (found : find? t = some region) :
    ∃ region', find? (layout settings t) = some region' ∧
      (ink region' = ink region ↔
        ¬ (settings.blankLines < 1 ∧ isComment t = true ∧ isComment (body t) = true)) := by
  rcases find_shape t with ⟨rest, rfl⟩ | ⟨rest, rfl⟩ | ⟨unfound, _⟩
  · obtain ⟨region', look, same⟩ := find_layout_block settings found
    exact ⟨region', look, iff_of_true same (by simp [isComment])⟩
  · obtain ⟨region', look, same⟩ := find_layout_comment positive clean rfl found
    refine ⟨region', look, same.trans ?_⟩
    simp [isComment]
  · simp [unfound] at found

/- The header pass on the formatted text. -/

theorem ink_replaceBreaks {sep : Text} (space : ∀ c ∈ sep, isSpace c) (t : Text) :
    ink (replaceBreaks sep t) = ink t := by
  have gone : ink sep = [] := ink_of_space space
  have back (t : Text) : ink ('\r' :: t) = ink t := by
    have blank : isSpace '\r' = true := by decide
    simp [ink, blank]
  fun_induction replaceBreaks sep t with
  | case1 => rfl
  | case2 rest ih => rw [ink_append, gone, List.nil_append, ih, back, ink_newline]
  | case3 c rest _ brk ih =>
    have feed : c = '\r' ∨ c = '\n' := by simpa using brk
    rw [ink_append, gone, List.nil_append, ih]
    rcases feed with rfl | rfl
    · rw [back]
    · rw [ink_newline]
  | case4 c rest _ _ ih =>
    rw [show c :: replaceBreaks sep rest = [c] ++ replaceBreaks sep rest from rfl, ink_append, ih,
      ← ink_append]
    rfl

theorem ink_normalizeBreaks (s : LineSeparator) (t : Text) : ink (normalizeBreaks s t) = ink t :=
  ink_replaceBreaks (fun _ => isSpace_of_sequence) t

theorem ink_canonicalBreaks (t : Text) : ink (canonicalBreaks t) = ink t :=
  ink_normalizeBreaks .lf t

theorem isComment_stripRight_region {t region : Text} (found : find? t = some region) :
    isComment (stripRight region) = isComment t := by
  have strip (c d : Char) (more : Text) (first : ¬ isSpace c) (second : ¬ isSpace d) :
      stripRight (c :: d :: more) = c :: d :: stripRight more := by
    rw [stripRight, trimRight_cons _ first, trimRight_cons _ second]
    rfl
  rcases find_shape t with ⟨rest, rfl⟩ | ⟨rest, rfl⟩ | ⟨unfound, _⟩
  · rw [find_block] at found
    obtain ⟨inner, _, rfl⟩ := Option.map_eq_some_iff.mp found
    rw [strip _ _ _ (by decide) (by decide)]
    rfl
  · rw [find_comment, commentLines_slashes] at found
    cases Option.some.inj found
    rw [strip _ _ _ (by decide) (by decide)]
    rfl
  · simp [unfound] at found

/-- The header pass keeps the ink if the region that it judges has the ink of the header. -/
theorem ink_headed {header t region : Text} (isRegion : IsRegion header)
    (found : find? t = some region) : ink (headed header t) = ink t ↔ ink region = ink header := by
  obtain ⟨left, whole⟩ := find_start found
  have unmarked : t.head? ≠ some mark := by
    rcases find_shape t with ⟨rest, rfl⟩ | ⟨rest, rfl⟩ | ⟨unfound, _⟩
    · simp [mark]
    · simp [mark]
    · simp [unfound] at found
  rw [headed, splitMark_unmarked unmarked]
  by_cases carried : carries t header = true
  · rw [if_pos carried]
    refine iff_of_true rfl ?_
    obtain ⟨_, look, same⟩ := (carries_of_region isRegion).mp carried
    cases Option.some.inj (found.symm.trans look)
    rw [← same, Header.normalize, ink_stripRight, ink_canonicalBreaks]
  · have spread (rest : Text) : ink (spaced rest) = ink rest := by
      cases rest with
      | nil => rfl
      | cons c rest => rw [spaced, ink_newline]
    rw [if_neg carried, List.nil_append, ink_append, ink_newline, spread, body_of_find found whole,
      ink_dropBlankLines]
    conv in ink t => rw [whole, ink_append]
    rw [List.append_cancel_right_eq, eq_comm]

/-- A file that carries the header keeps its ink, except where blank lines go and the comment below
a header of line comments becomes a part of it. -/
theorem apply_carried_iff (parser : Parser) (settings : Settings) (config : Configuration)
    (header : Text) (content : Bytes) (text : Text) (plain : parser.Plain)
    (positive : 1 ≤ settings.tabSize) (encoded : config.encoding = "utf-8".toList)
    (unlevelled : effectiveLevel settings config.sourceLevel = none)
    (configured : config.header = some header) (isRegion : IsRegion (normalize header))
    (read : Utf8.decode content = .ok text) (carried : carries text (normalize header) = true) :
    ∃ out,
      (Pipeline.apply (.ofName Charset.codecs config.encoding) config
        [formatter parser settings] content).result =
        .ok (Utf8.encode out) ∧
      (ink out = ink text ↔
        ¬ (settings.blankLines < 1 ∧ isComment (normalize header) = true ∧
          isComment (body (canonicalBreaks text)) = true)) := by
  have visible : normalize header ≠ [] := by
    intro empty
    rw [empty] at isRegion
    cases isRegion
  have present : header ≠ [] := by
    rintro rfl
    exact visible rfl
  obtain ⟨region, found, same⟩ : ∃ region, find? text = some region ∧
      normalize region = normalize header := by
    rw [IsRegion] at isRegion
    cases found : find? text with
    | none => simp [carries, isRegion, found] at carried
    | some region => exact ⟨region, rfl, by simpa [carries, isRegion, found] using carried⟩
  have canonical := find_canonicalBreaks found
  obtain ⟨region', look, kept⟩ := find_layout positive (canonicalBreaks_clean text) canonical
  have inked : ink (canonicalBreaks region) = ink (normalize header) := by
    rw [← same, Header.normalize, ink_stripRight]
  have kind : isComment (normalize header) = isComment (canonicalBreaks text) := by
    rw [← same]
    exact isComment_stripRight_region canonical
  refine ⟨_, apply_plain plain positive encoded unlevelled read, ?_⟩
  rw [finish_header configured present, insert_eq_headed visible, ink_normalizeBreaks, kind, ← kept,
    inked, ← ink_headed isRegion look, ink_layout, ink_canonicalBreaks]

/-- A profile without blank lines, and a header with another line comment below it. -/
def tightSettings : Settings := { blankLines := 0 }

def carrying : Configuration := { header := some "// h".toList }

def notedSource : Text := "// h\n\n// note\nclass A \x7b\x7d\n".toList

theorem apply_carried_iff_noted :
    carries notedSource "// h".toList = true ∧
    ∃ out, (Pipeline.apply (.ofName Charset.codecs carrying.encoding) carrying
        [formatter (fun _ _ => bare) tightSettings] (Utf8.encode notedSource)).result =
          .ok (Utf8.encode out) ∧
      ink out ≠ ink notedSource := by
  have carried : carries notedSource (normalize "// h".toList) = true := by decide
  obtain ⟨out, done, iff⟩ := apply_carried_iff (fun _ _ => bare) tightSettings carrying _ _ _
    plain_bare (by decide) rfl rfl rfl (by decide) (Utf8.decode_encode notedSource) carried
  refine ⟨by decide, out, done, fun same => ?_⟩
  exact iff.mp same (by decide)

end SourceTidy.Java
