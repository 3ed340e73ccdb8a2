import SourceTidy.Proofs.RepeatedHeader

namespace SourceTidy.Header

open Text Java

theorem start_of_carries {t header : Text} (carried : carries t header = true) :
    header <+: canonicalBreaks t := by
  by_cases region : IsRegion header
  · obtain ⟨found, look, same⟩ := (carries_of_region region).mp carried
    obtain ⟨rest, whole⟩ := find_start (find_canonicalBreaks look)
    have trimmed : normalize found <+: canonicalBreaks found := List.rdropWhile_prefix isSpace _
    rw [whole, ← same]
    exact trimmed.trans (List.prefix_append _ rest)
  · rcases (carries_of_no_region region).mp carried with same | start
    · rw [same]
    · exact (List.prefix_append header ['\n']).trans start

/-- A text without a mark has the header at its top, and no more of a comment than the header. -/
structure Established (header out : Text) : Prop where
  carried : carries out header = true
  start : header <+: canonicalBreaks out
  region : IsRegion header → ∃ found, find? out = some found ∧ normalize found = header

theorem insert_establishes (text header : Text) (visible : normalize header ≠ [])
    (unmarked : (normalize header).head? ≠ some mark) :
    Established (normalize header) (splitMark (insert text header)).2 := by
  have ends : EndsInInk (normalize header) := endsInInk_stripRight visible
  have carried : carries (splitMark (insert text header)).2 (normalize header) = true := by
    rw [insert_eq_headed visible]
    exact carries_headed ends (normalize_clean header) fun marked => absurd marked unmarked
  exact ⟨carried, start_of_carries carried, fun region => (carries_of_region region).mp carried⟩

/-- A longer notice that starts with the header, and another comment below it. -/
def longer : Text := "\ufeff// h\n// old\r\n \r// note\r\nint a;\n".toList

theorem insert_establishes_longer :
    insert longer "// h \n".toList = mark :: "// h\n\n// note\r\nint a;\n".toList ∧
      Established "// h".toList "// h\n\n// note\r\nint a;\n".toList :=
  ⟨by decide, insert_establishes longer "// h \n".toList (by decide) (by decide)⟩

/-- A text as the header pass cuts it: a mark, the region, the blank lines below it and the body. -/
structure Parts (text : Text) where
  front : Text
  region : Text
  blanks : Text
  body : Text
  whole : text = front ++ (region ++ (blanks ++ body))
  marked : front = if text.head? = some mark then [mark] else []
  found : region = (find? (region ++ (blanks ++ body))).getD []
  blank : BlankBlock blanks
  longest : ∀ block, BlankBlock block → block <+: blanks ++ body → block <+: blanks

namespace Parts

variable {text : Text}

theorem splitMark_eq (parts : Parts text) :
    splitMark text = (parts.front, parts.region ++ (parts.blanks ++ parts.body)) := by
  have marked := parts.marked
  have cut : parts.front = [] ∨ parts.front = [mark] := by
    split at marked
    · exact .inr marked
    · exact .inl marked
  have unmarked : parts.front = [] →
      (parts.region ++ (parts.blanks ++ parts.body)).head? ≠ some mark := by
    intro bare first
    have same := parts.whole
    rw [bare, List.nil_append] at same
    rw [if_pos ((congrArg List.head? same).trans first), bare] at marked
    cases marked
  have split := splitMark_append cut unmarked
  rwa [← parts.whole] at split

/-- A block right below the blank lines would make them longer. -/
theorem block_below (parts : Parts text) {block : Text} (blank : BlankBlock block)
    (start : block <+: parts.body) : block = [] := by
  have more : parts.blanks ++ block <+: parts.blanks :=
    parts.longest _ (parts.blank.append blank) ((List.prefix_append_right_inj _).mpr start)
  have short := more.length_le
  rw [List.length_append] at short
  exact List.length_eq_zero_iff.mp (by omega)

theorem body_eq (parts : Parts text) :
    Header.body (parts.region ++ (parts.blanks ++ parts.body)) = parts.body := by
  obtain ⟨gone, block, whole⟩ := dropBlankLines_split parts.body
  have empty : gone = [] := parts.block_below block ⟨_, whole.symm⟩
  rw [Header.body, ← parts.found, List.drop_left, parts.blank.dropBlankLines]
  rw [empty] at whole
  exact whole.symm

theorem not_blank_line (parts : Parts text) {line : Text} (blank : IsBlankLine line) :
    ¬ line <+: parts.body := by
  intro start
  have block : BlankBlock line := List.append_nil line ▸ .cons blank .nil
  have empty := parts.block_below block start
  obtain ⟨indent, s, _, rfl⟩ := blank
  cases s <;> simp [LineSeparator.sequence] at empty

end Parts

theorem block_le_dropped {t gone block : Text} (split : t = gone ++ dropBlankLines t)
    (blank : BlankBlock block) (start : block <+: t) : block <+: gone := by
  obtain ⟨rest, whole⟩ := start
  obtain ⟨more, _, below⟩ := dropBlankLines_split rest
  have same : dropBlankLines t = dropBlankLines rest := by rw [← whole, blank.dropBlankLines]
  have lengths := congrArg List.length split
  have lengths' := congrArg List.length whole
  have lengths'' := congrArg List.length below
  simp only [List.length_append, same] at lengths lengths' lengths''
  exact List.prefix_of_prefix_length_le ⟨rest, whole⟩ ⟨_, split.symm⟩ (by omega)

theorem exists_parts (text : Text) : Nonempty (Parts text) := by
  obtain ⟨whole, _⟩ := splitMark_spec text
  have marked : (splitMark text).1 = if text.head? = some mark then [mark] else [] := by
    by_cases first : text.head? = some mark
    · obtain ⟨rest, rfl⟩ := List.head?_eq_some_iff.mp first
      rw [splitMark_mark, if_pos first]
    · rw [splitMark_unmarked first, if_neg first]
  generalize splitMark text = cut at whole marked
  obtain ⟨front, t⟩ := cut
  obtain ⟨rest, split⟩ : ∃ rest, t = (find? t).getD [] ++ rest := by
    cases look : find? t with
    | none => exact ⟨t, rfl⟩
    | some region => exact find_start look
  obtain ⟨gone, block, below⟩ := dropBlankLines_split rest
  have same : t = (find? t).getD [] ++ (gone ++ dropBlankLines rest) := by rw [← below, ← split]
  exact ⟨{
    front, region := (find? t).getD [], blanks := gone, body := dropBlankLines rest
    whole := by rw [← same, ← whole]
    marked
    found := by rw [← same]
    blank := block
    longest := fun other blank start => block_le_dropped below blank (below ▸ start) }⟩

/-- The header pass leaves a text alone exactly if there is no header or the text carries it.
Otherwise it writes the header for the region and the blank lines, and keeps the mark and the
body. -/
theorem insert_parts (text header : Text) :
    Nonempty (Parts text) ∧ ∀ parts : Parts text,
      (insert text header = text ∨ insert text header =
        parts.front ++ (normalize header ++
          if parts.body = [] then ['\n'] else ['\n', '\n'] ++ parts.body)) ∧
      (insert text header = text ↔ normalize header = [] ∨
        carries (parts.region ++ (parts.blanks ++ parts.body)) (normalize header) = true) ∧
      ∀ line, IsBlankLine line → ¬ line <+: parts.body := by
  refine ⟨exists_parts text, fun parts => ?_⟩
  have cut := parts.splitMark_eq
  have written : above (normalize header) (parts.region ++ (parts.blanks ++ parts.body)) =
      normalize header ++ if parts.body = [] then ['\n'] else ['\n', '\n'] ++ parts.body := by
    rw [above, parts.body_eq]
    cases parts.body with
    | nil => rfl
    | cons c rest => simp
  have settled : isSettled (splitMark text).2 (normalize header) = true ↔ normalize header = [] ∨
      carries (parts.region ++ (parts.blanks ++ parts.body)) (normalize header) = true := by
    simp [isSettled, cut]
  by_cases done : isSettled (splitMark text).2 (normalize header) = true
  · have kept : insert text header = text := by simp only [insert, if_pos done]
    exact ⟨.inl kept, iff_of_true kept (settled.mp done), fun line => parts.not_blank_line⟩
  · have wrote : insert text header = parts.front ++
        above (normalize header) (parts.region ++ (parts.blanks ++ parts.body)) := by
      simp only [insert, if_neg done]
      rw [cut]
    refine ⟨.inr (by rw [wrote, written]), ?_, fun line => parts.not_blank_line⟩
    -- A text that came out as it was would carry what was written at its top.
    refine iff_of_false (fun same => done (settled.mpr (.inr ?_))) (mt settled.mpr done)
    have visible : normalize header ≠ [] := fun empty => done (settled.mpr (.inl empty))
    have top := List.append_cancel_left (parts.whole.symm.trans (same.symm.trans wrote))
    rw [top, above_eq]
    exact carries_spaced _ (endsInInk_stripRight visible) (normalize_clean header)

example : insert "// old\r\n \t\r\n\r  int a;\r".toList "/* h */\n".toList =
    "/* h */\n\n  int a;\r".toList := by
  decide

end SourceTidy.Header
