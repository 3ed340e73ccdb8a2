import SourceTidy.Proofs.Lines

namespace SourceTidy.Text

/-- No character of the text belongs to a break. -/
def IsSingleLine (t : Text) : Prop :=
  ∀ c ∈ t, c ≠ '\r' ∧ c ≠ '\n'

/-- The pieces of a text between its breaks. The three breaks are the sequences of the separators; a
return stands alone only if no line feed follows it. -/
inductive HasLines : Text → List Text → Prop
  | last {line : Text} (single : IsSingleLine line) : HasLines line [line]
  | cons {line rest : Text} {more : List Text} (brk : LineSeparator) (single : IsSingleLine line)
      (whole : brk = .cr → rest.head? ≠ some '\n') (below : HasLines rest more) :
      HasLines (line ++ (brk.sequence ++ rest)) (line :: more)

theorem IsSingleLine.clean {t : Text} (single : IsSingleLine t) : '\r' ∉ t :=
  fun member => (single _ member).1 rfl

theorem IsSingleLine.free {t : Text} (single : IsSingleLine t) : '\n' ∉ t :=
  fun member => (single _ member).2 rfl

/-- Every character of a break stands in an occurrence of the separator. -/
def IsBrokenBy (sep t : Text) : Prop :=
  ∀ i c, t[i]? = some c → c = '\r' ∨ c = '\n' →
    ∃ start, start ≤ i ∧ i < start + sep.length ∧ sep <+: t.drop start

theorem replaceBreaks_line (sep : Text) {line : Text} (single : IsSingleLine line) (rest : Text) :
    replaceBreaks sep (line ++ rest) = line ++ replaceBreaks sep rest := by
  induction line with
  | nil => rfl
  | cons c line ih =>
    obtain ⟨first, others⟩ := List.forall_mem_cons.mp single
    rw [List.cons_append, replaceBreaks_other sep _ first.1 first.2, ih others, List.cons_append]

theorem replaceBreaks_single (sep : Text) {line : Text} (single : IsSingleLine line) :
    replaceBreaks sep line = line := by
  simpa [replaceBreaks] using replaceBreaks_line sep single []

namespace HasLines

variable {t : Text} {ls : List Text}

theorem ne_nil (has : HasLines t ls) : ls ≠ [] := by
  cases has with
  | last => exact List.cons_ne_nil _ _
  | cons => exact List.cons_ne_nil _ _

theorem single_of_mem (has : HasLines t ls) : ∀ line ∈ ls, IsSingleLine line := by
  induction has with
  | last single => simpa using single
  | cons _ single _ _ ih => exact List.forall_mem_cons.mpr ⟨single, ih⟩

theorem replaceBreaks_eq (sep : Text) (has : HasLines t ls) :
    replaceBreaks sep t = List.intercalate sep ls := by
  induction has with
  | last single => rw [replaceBreaks_single sep single, List.intercalate_singleton]
  | cons brk single whole below ih =>
    rw [replaceBreaks_line sep single, replaceBreaks_sequence sep brk whole, ih,
      List.intercalate_cons_of_ne_nil below.ne_nil, List.append_assoc]

theorem eq_lines (has : HasLines t ls) : ls = lines (canonicalBreaks t) := by
  have joined : canonicalBreaks t = unlines ls := has.replaceBreaks_eq ['\n']
  have free : ∀ line ∈ ls, '\n' ∉ line := fun line member => (has.single_of_mem line member).free
  rw [joined, lines_unlines has.ne_nil free]

theorem iff_eq {ms : List Text} (has : HasLines t ls) : HasLines t ms ↔ ms = ls := by
  refine ⟨fun other => ?_, fun same => same ▸ has⟩
  rw [other.eq_lines, ← has.eq_lines]

theorem push {c : Char} (inner : c ≠ '\r' ∧ c ≠ '\n') (has : HasLines t ls) :
    ∃ ms, HasLines (c :: t) ms := by
  cases has with
  | last single => exact ⟨_, .last (List.forall_mem_cons.mpr ⟨inner, single⟩)⟩
  | @cons line rest more brk single whole below =>
    have longer : IsSingleLine (c :: line) := List.forall_mem_cons.mpr ⟨inner, single⟩
    exact ⟨_, .cons brk longer whole below⟩

/-- Changing the breaks keeps the lines. A return that is written for a break stays alone, because
no text that is written with returns starts with a line feed. -/
theorem normalizeBreaks (s : LineSeparator) (has : HasLines t ls) :
    HasLines (Text.normalizeBreaks s t) ls := by
  induction has with
  | last single =>
    rw [Text.normalizeBreaks, replaceBreaks_single s.sequence single]
    exact .last single
  | @cons line rest more brk single whole below ih =>
    have alone : s = .cr → (Text.normalizeBreaks s rest).head? ≠ some '\n' := by
      rintro rfl
      exact head_normalizeBreaks_cr rest
    rw [Text.normalizeBreaks, replaceBreaks_line _ single, replaceBreaks_sequence _ brk whole]
    exact .cons s single alone ih

end HasLines

theorem hasLines_total (t : Text) : ∃ ls, HasLines t ls := by
  have empty : IsSingleLine [] := List.forall_mem_nil _
  fun_induction replaceBreaks ['\n'] t with
  | case1 => exact ⟨_, .last empty⟩
  | case2 rest ih =>
    obtain ⟨ls, has⟩ := ih
    exact ⟨_, .cons .crlf empty (by simp) has⟩
  | case3 c rest alone brk ih =>
    obtain ⟨ls, has⟩ := ih
    rcases (by simpa using brk : c = '\r' ∨ c = '\n') with rfl | rfl
    · have lone : rest.head? ≠ some '\n' := by
        intro feed
        obtain ⟨after, rfl⟩ := List.head?_eq_some_iff.mp feed
        exact alone after rfl rfl
      exact ⟨_, .cons .cr empty (fun _ => lone) has⟩
    · exact ⟨_, .cons .lf empty (by simp) has⟩
  | case4 c rest alone inner ih =>
    obtain ⟨ls, has⟩ := ih
    exact has.push (by simpa using inner)

/-- A change of breaks hides the changes before it, because both join the same lines. -/
theorem normalizeBreaks_normalizeBreaks (s first : LineSeparator) (t : Text) :
    normalizeBreaks s (normalizeBreaks first t) = normalizeBreaks s t := by
  obtain ⟨ls, has⟩ := hasLines_total t
  calc normalizeBreaks s (normalizeBreaks first t)
      = List.intercalate s.sequence ls := (has.normalizeBreaks first).replaceBreaks_eq s.sequence
    _ = normalizeBreaks s t := (has.replaceBreaks_eq s.sequence).symm

theorem canonicalBreaks_normalizeBreaks (s : LineSeparator) (t : Text) :
    canonicalBreaks (normalizeBreaks s t) = canonicalBreaks t :=
  normalizeBreaks_normalizeBreaks .lf s t

theorem normalizeBreaks_canonicalBreaks (s : LineSeparator) (t : Text) :
    normalizeBreaks s (canonicalBreaks t) = normalizeBreaks s t :=
  normalizeBreaks_normalizeBreaks s .lf t

theorem IsSingleLine.not_break {t : Text} {c : Char} (single : IsSingleLine t) (member : c ∈ t) :
    ¬(c = '\r' ∨ c = '\n') :=
  not_or.mpr (single c member)

theorem IsBrokenBy.cons {sep line rest : Text} (single : IsSingleLine line)
    (below : IsBrokenBy sep rest) :
    IsBrokenBy sep (line ++ (sep ++ rest)) := by
  intro i c there brk
  -- The position is in the line, in the separator after it, or further on.
  by_cases inLine : i < line.length
  · rw [List.getElem?_append_left inLine] at there
    exact absurd brk (single.not_break (List.mem_of_getElem? there))
  · by_cases inSep : i < line.length + sep.length
    · refine ⟨line.length, by omega, inSep, ?_⟩
      rw [List.drop_left]
      exact List.prefix_append sep rest
    · rw [List.getElem?_append_right (by omega), List.getElem?_append_right (by omega)] at there
      obtain ⟨start, after, before, occurs⟩ := below _ c there brk
      refine ⟨line.length + (sep.length + start), by omega, by omega, ?_⟩
      rwa [List.drop_length_add_append, List.drop_length_add_append]

theorem isBrokenBy_normalizeBreaks (s : LineSeparator) {t : Text} {ls : List Text}
    (has : HasLines t ls) :
    IsBrokenBy s.sequence (normalizeBreaks s t) := by
  induction has with
  | last single =>
    rw [normalizeBreaks, replaceBreaks_single s.sequence single]
    intro i c there brk
    exact absurd brk (single.not_break (List.mem_of_getElem? there))
  | cons brk single whole _ ih =>
    rw [normalizeBreaks, replaceBreaks_line _ single, replaceBreaks_sequence _ brk whole]
    exact .cons single ih

/-- Changing the breaks joins the logical lines with the separator and keeps them, count and
contents. What it writes has no other breaks, and a further change hides it. -/
theorem normalizeBreaks_keeps_lines (t : Text) (s : LineSeparator) :
    ∃ ls, (∀ ms, HasLines t ms ↔ ms = ls) ∧ normalizeBreaks s t = List.intercalate s.sequence ls ∧
      (∀ ms, HasLines (normalizeBreaks s t) ms ↔ ms = ls) ∧
      IsBrokenBy s.sequence (normalizeBreaks s t) ∧
      ∀ next, normalizeBreaks next (normalizeBreaks s t) = normalizeBreaks next t := by
  obtain ⟨ls, has⟩ := hasLines_total t
  have kept : HasLines (normalizeBreaks s t) ls := has.normalizeBreaks s
  exact ⟨ls, fun ms => has.iff_eq, has.replaceBreaks_eq s.sequence, fun ms => kept.iff_eq,
    isBrokenBy_normalizeBreaks s has, fun next => normalizeBreaks_normalizeBreaks next s t⟩

end SourceTidy.Text
