import Mathlib.Data.List.DropRight
import SourceTidy.Text.LineBreak

namespace SourceTidy.Text

theorem splitAt_eq_splitOn (sep : Char) (t : Text) : splitAt sep t = t.splitOn sep := by
  induction t with
  | nil => rfl
  | cons c rest ih =>
    rw [List.splitOn_cons_eq_if_modifyHead]
    by_cases h : c = sep
    · simp [splitAt, h, ih]
    · obtain ⟨piece, more, cut⟩ := List.exists_cons_of_ne_nil (List.splitOn_ne_nil sep rest)
      simp [splitAt, h, ih, cut]

theorem free_of_mem_splitAt {sep : Char} {t piece : Text} (member : piece ∈ splitAt sep t) :
    sep ∉ piece := by
  induction t generalizing piece with
  | nil => simp_all [splitAt]
  | cons c rest ih =>
    by_cases h : c = sep
    · simp only [splitAt, if_pos h, List.mem_cons] at member
      rcases member with rfl | member
      · exact List.not_mem_nil
      · exact ih member
    · have nonempty : splitAt sep rest ≠ [] :=
        splitAt_eq_splitOn sep rest ▸ List.splitOn_ne_nil sep rest
      obtain ⟨first, more, cut⟩ := List.exists_cons_of_ne_nil nonempty
      simp only [splitAt, if_neg h, cut, List.mem_cons] at member
      rcases member with rfl | member
      · have clean : sep ∉ first := ih (by simp [cut])
        simpa [clean] using Ne.symm h
      · exact ih (by simp [cut, member])

theorem lines_eq_splitAt (t : Text) : lines t = splitAt '\n' t := by
  induction t with
  | nil => rfl
  | cons c rest ih => rw [lines, splitAt, ih]

theorem lines_eq_splitOn (t : Text) : lines t = t.splitOn '\n' := by
  rw [lines_eq_splitAt, splitAt_eq_splitOn]

theorem lines_ne_nil (t : Text) : lines t ≠ [] := by
  rw [lines_eq_splitOn]
  exact List.splitOn_ne_nil '\n' t

@[simp] theorem unlines_lines (t : Text) : unlines (lines t) = t := by
  rw [lines_eq_splitOn, unlines]
  exact List.intercalate_splitOn '\n'

theorem lines_unlines {ls : List Text} (nonempty : ls ≠ []) (free : ∀ l ∈ ls, '\n' ∉ l) :
    lines (unlines ls) = ls := by
  rw [lines_eq_splitOn, unlines]
  exact List.splitOn_intercalate '\n' free nonempty

theorem lines_append (a b : Text) : lines (a ++ '\n' :: b) = lines a ++ lines b := by
  simp only [lines_eq_splitOn]
  exact List.splitOn_append_cons_self a b

theorem free_of_mem_lines {t l : Text} (member : l ∈ lines t) : '\n' ∉ l := by
  rw [lines_eq_splitAt] at member
  exact free_of_mem_splitAt member

theorem unlines_cons {ls : List Text} (l : Text) (nonempty : ls ≠ []) :
    unlines (l :: ls) = l ++ '\n' :: unlines ls := by
  simp [unlines, List.intercalate_cons_of_ne_nil nonempty]

@[simp] theorem unlines_singleton (l : Text) : unlines [l] = l := by
  simp [unlines]

theorem unlines_append {ls ms : List Text} (left : ls ≠ []) (right : ms ≠ []) :
    unlines (ls ++ ms) = unlines ls ++ '\n' :: unlines ms := by
  induction ls with
  | nil => contradiction
  | cons l ls ih =>
    cases ls with
    | nil => simp [unlines_cons l right]
    | cons k ls =>
      have tail := ih (List.cons_ne_nil k ls)
      rw [List.cons_append, unlines_cons l (by simp), tail, unlines_cons l (List.cons_ne_nil k ls)]
      simp

theorem mem_unlines {ls : List Text} {c : Char} (member : c ∈ unlines ls) :
    c = '\n' ∨ ∃ l ∈ ls, c ∈ l := by
  induction ls with
  | nil => simp [unlines] at member
  | cons l ls ih =>
    cases ls with
    | nil => exact .inr ⟨l, by simp, by simpa using member⟩
    | cons k ls =>
      rw [unlines_cons l (List.cons_ne_nil k ls)] at member
      rcases List.mem_append.mp member with member | member
      · exact .inr ⟨l, by simp, member⟩
      · rcases List.mem_cons.mp member with rfl | member
        · exact .inl rfl
        · rcases ih member with h | ⟨m, hm, hc⟩
          · exact .inl h
          · exact .inr ⟨m, List.mem_cons_of_mem l hm, hc⟩

theorem mem_of_mem_lines {t l : Text} {c : Char} (member : l ∈ lines t) (inside : c ∈ l) :
    c ∈ t := by
  rw [← unlines_lines t]
  obtain ⟨before, after, split⟩ := List.append_of_mem member
  rw [split]
  cases before with
  | nil =>
    cases after with
    | nil => simpa using inside
    | cons k after => simp [unlines_cons l (List.cons_ne_nil k after), inside]
  | cons b before =>
    rw [unlines_append (List.cons_ne_nil b before) (List.cons_ne_nil l after)]
    cases after with
    | nil => simp [inside]
    | cons k after => simp [unlines_cons l (List.cons_ne_nil k after), inside]

theorem lines_free_append {p : Text} (free : '\n' ∉ p) {t l : Text} {ls : List Text}
    (split : lines t = l :: ls) : lines (p ++ t) = (p ++ l) :: ls := by
  induction p with
  | nil => exact split
  | cons c p ih =>
    simp only [List.mem_cons, not_or] at free
    rw [List.cons_append, lines, if_neg (Ne.symm free.1), ih free.2]
    rfl

theorem lines_concat {t last : Text} {c : Char} {front : List Text} (inner : c ≠ '\n')
    (split : lines t = front ++ [last]) : lines (t ++ [c]) = front ++ [last ++ [c]] := by
  have whole : t ++ [c] = unlines (front ++ [last ++ [c]]) := by
    rw [← unlines_lines t, split]
    by_cases empty : front = []
    · simp [empty]
    · rw [unlines_append empty (by simp), unlines_append empty (by simp)]
      simp
  rw [whole, lines_unlines (by simp)]
  intro l member
  have old (k : Text) (h : k ∈ front ++ [last]) : '\n' ∉ k := free_of_mem_lines (split ▸ h)
  rcases List.mem_append.mp member with member | member
  · exact old l (by simp [member])
  · rw [List.mem_singleton.mp member]
    simpa [Ne.symm inner] using old last (by simp)

theorem blank_ne_newline {c : Char} (blank : isBlank c) : c ≠ '\n' := by
  rintro rfl
  exact absurd blank (by decide)

theorem blank_ne_return {c : Char} (blank : isBlank c) : c ≠ '\r' := by
  rintro rfl
  exact absurd blank (by decide)

/- Trimming. `trimRight` unfolds to the library's `rdropWhile`. -/

theorem trimRight_append_of_all {p : Char → Bool} (a : Text) {b : Text} (all : ∀ c ∈ b, p c) :
    trimRight p (a ++ b) = trimRight p a := by
  simp only [trimRight, List.reverse_append]
  rw [List.dropWhile_append_of_pos (by simpa using all)]

theorem trimRight_append_of_kept {p : Char → Bool} (a : Text) {b : Text} (kept : ∃ c ∈ b, ¬ p c) :
    trimRight p (a ++ b) = a ++ trimRight p b := by
  have more : (b.reverse.dropWhile p).isEmpty = false := by
    simpa [List.dropWhile_eq_nil_iff] using kept
  simp [trimRight, List.dropWhile_append, more]

theorem trimRight_of_last {p : Char → Bool} {t : Text} {c : Char} (stops : ¬ p c) :
    trimRight p (t ++ [c]) = t ++ [c] :=
  List.rdropWhile_concat_neg p t c stops

theorem trimRight_cons {p : Char → Bool} {c : Char} (rest : Text) (kept : ¬ p c) :
    trimRight p (c :: rest) = c :: trimRight p rest := by
  by_cases all : ∀ d ∈ rest, p d
  · have empty : trimRight p rest = [] := List.rdropWhile_eq_nil_iff.mpr all
    have one := trimRight_append_of_all [c] all
    rw [empty]
    exact one.trans (trimRight_of_last (t := []) kept)
  · exact trimRight_append_of_kept [c] (by simpa using all)

theorem trimRight_append_rest (p : Char → Bool) (t : Text) :
    ∃ rest, (∀ c ∈ rest, p c) ∧ trimRight p t ++ rest = t :=
  ⟨t.rtakeWhile p, fun _ member => List.mem_rtakeWhile_imp member,
    List.rdropWhile_append_rtakeWhile⟩

theorem mem_of_mem_trimRight {p : Char → Bool} {t : Text} {c : Char} (member : c ∈ trimRight p t) :
    c ∈ t :=
  (List.rdropWhile_prefix p t).subset member

theorem trimRight_trimRight (p : Char → Bool) (t : Text) :
    trimRight p (trimRight p t) = trimRight p t :=
  List.rdropWhile_idempotent p t

theorem trim_blank_append {p : Char → Bool} {a : Text} (b : Text) (all : ∀ c ∈ a, p c) :
    trim p (a ++ b) = trim p b := by
  simp only [trim, List.dropWhile_append_of_pos all]

theorem trim_append_blank {p : Char → Bool} (a : Text) {b : Text} (all : ∀ c ∈ b, p c) :
    trim p (a ++ b) = trim p a := by
  unfold trim
  rw [List.dropWhile_append]
  split
  · rename_i h
    have empty : a.dropWhile p = [] := by simpa using h
    have gone : b.dropWhile p = [] := by simpa using all
    rw [empty, gone]
  · exact trimRight_append_of_all _ all

theorem trim_trimRight (p : Char → Bool) (t : Text) : trim p (trimRight p t) = trim p t := by
  obtain ⟨rest, all, whole⟩ := trimRight_append_rest p t
  calc trim p (trimRight p t) = trim p (trimRight p t ++ rest) := (trim_append_blank _ all).symm
    _ = trim p t := by rw [whole]

theorem trim_eq_nil_iff {p : Char → Bool} {t : Text} : trim p t = [] ↔ ∀ c ∈ t, p c := by
  constructor
  · intro empty c member
    have inner : ∀ d ∈ t.dropWhile p, p d := List.rdropWhile_eq_nil_iff.mp empty
    have nil : t.dropWhile p = [] := by
      by_contra some
      have stops := List.head_dropWhile_not p some
      exact Bool.false_ne_true (stops.symm.trans (inner _ (List.head_mem some)))
    exact List.dropWhile_eq_nil_iff.mp nil c member
  · intro all
    have nothing : t.dropWhile p = [] := List.dropWhile_eq_nil_iff.mpr all
    simp [trim, nothing, trimRight]

/- Line breaks. A lone carriage return is one that no line feed follows, which is what separates the
two equations of `replaceBreaks` below. -/

theorem replaceBreaks_pair (sep rest : Text) :
    replaceBreaks sep ('\r' :: '\n' :: rest) = sep ++ replaceBreaks sep rest :=
  rfl

theorem replaceBreaks_return (sep : Text) {rest : Text} (lone : rest.head? ≠ some '\n') :
    replaceBreaks sep ('\r' :: rest) = sep ++ replaceBreaks sep rest := by
  cases rest with
  | nil => rfl
  | cons c rest =>
    have other : c ≠ '\n' := by simpa using lone
    rw [replaceBreaks]
    · simp
    · simpa using other

theorem replaceBreaks_feed (sep rest : Text) :
    replaceBreaks sep ('\n' :: rest) = sep ++ replaceBreaks sep rest :=
  rfl

theorem replaceBreaks_other (sep : Text) {c : Char} (rest : Text) (inner : c ≠ '\r')
    (plain : c ≠ '\n') : replaceBreaks sep (c :: rest) = c :: replaceBreaks sep rest := by
  rw [replaceBreaks]
  · simp [inner, plain]
  · simp [inner]

theorem mem_replaceBreaks {sep t : Text} {c : Char} (member : c ∈ replaceBreaks sep t) :
    c ∈ sep ∨ (c ≠ '\r' ∧ c ≠ '\n') := by
  fun_induction replaceBreaks sep t with
  | case1 => contradiction
  | case2 rest ih =>
    rcases List.mem_append.mp member with member | member
    · exact .inl member
    · exact ih member
  | case3 d rest _ brk ih =>
    rcases List.mem_append.mp member with member | member
    · exact .inl member
    · exact ih member
  | case4 d rest _ inner ih =>
    rcases List.mem_cons.mp member with rfl | member
    · exact .inr (by simpa using inner)
    · exact ih member

theorem canonicalBreaks_clean (t : Text) : '\r' ∉ canonicalBreaks t := by
  intro member
  rcases mem_replaceBreaks member with h | h
  · simp at h
  · exact h.1 rfl

theorem canonicalBreaks_append {s : Text} (t : Text) (clean : '\r' ∉ s) :
    canonicalBreaks (s ++ t) = s ++ canonicalBreaks t := by
  induction s with
  | nil => rfl
  | cons c s ih =>
    simp only [List.mem_cons, not_or] at clean
    have tail := ih clean.2
    have inner : c ≠ '\r' := Ne.symm clean.1
    unfold canonicalBreaks at tail ⊢
    by_cases plain : c = '\n'
    · rw [plain, List.cons_append, replaceBreaks_feed, tail]
      rfl
    · rw [List.cons_append, replaceBreaks_other _ _ inner plain, tail]
      rfl

theorem canonicalBreaks_of_clean {t : Text} (clean : '\r' ∉ t) : canonicalBreaks t = t := by
  have whole := canonicalBreaks_append [] clean
  have empty : canonicalBreaks [] = [] := rfl
  rwa [empty, List.append_nil] at whole

/-- The two passes of `lineFeeds` find the breaks that one pass finds. -/
theorem lineFeeds_eq_canonicalBreaks (t : Text) : lineFeeds t = canonicalBreaks t := by
  unfold lineFeeds canonicalBreaks
  fun_induction joinPairs t with
  | case1 => rfl
  | case2 rest ih => simp [replaceBreaks_pair, ih]
  | case3 c rest single ih =>
    by_cases h : c = '\r'
    · subst h
      have lone : rest.head? ≠ some '\n' := by
        cases rest with
        | nil => simp
        | cons d rest => simpa using fun e => single rest rfl (by rw [e])
      simp [replaceBreaks_return _ lone, ih]
    · by_cases plain : c = '\n'
      · subst plain
        simp [replaceBreaks_feed, ih]
      · simp [replaceBreaks_other _ rest h plain, ih, h]

/-- A separator at the front is read as one break, unless it is a lone return before a line feed. -/
theorem replaceBreaks_sequence (sep : Text) (s : LineSeparator) {rest : Text}
    (apart : s = .cr → rest.head? ≠ some '\n') :
    replaceBreaks sep (s.sequence ++ rest) = sep ++ replaceBreaks sep rest := by
  cases s with
  | lf => exact replaceBreaks_feed sep rest
  | cr => exact replaceBreaks_return sep (apart rfl)
  | crlf => exact replaceBreaks_pair sep rest

theorem head_normalizeBreaks_cr (t : Text) : (normalizeBreaks .cr t).head? ≠ some '\n' := by
  intro h
  have member : '\n' ∈ normalizeBreaks .cr t := List.mem_of_mem_head? h
  rcases mem_replaceBreaks member with h | h
  · simp [LineSeparator.sequence] at h
  · exact h.2 rfl

end SourceTidy.Text
