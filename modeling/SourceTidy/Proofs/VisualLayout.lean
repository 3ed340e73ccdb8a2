import SourceTidy.Proofs.NormalForm

namespace SourceTidy.Java.Indentation

open Text

/-- The lines of a source before and after indenting, row by row. -/
structure SameLayout (tabSize : Int) (isProtected : Nat → Bool) (before after : List Text) :
    Prop where
  count : after.length = before.length
  untouched : ∀ (row : Nat) (line : Text), before[row]? = some line →
    isProtected row = true ∨ line.all isBlank = true → after[row]? = some line
  kept : ∀ (row : Nat) (line : Text), before[row]? = some line → ∃ (line' : Text) (width : Int),
    after[row]? = some line' ∧ line'.dropWhile isBlank = line.dropWhile isBlank ∧
    visualWidth tabSize (line.takeWhile isBlank) = some width ∧
    visualWidth tabSize (line'.takeWhile isBlank) = some width
  /-- Lines of code that look alike become alike. -/
  uniform : ∀ (row row' : Nat) (line line' : Text), before[row]? = some line →
    before[row']? = some line' →
    isProtected row = false → isProtected row' = false → line.all isBlank = false →
    line.dropWhile isBlank = line'.dropWhile isBlank →
    visualWidth tabSize (line.takeWhile isBlank) = visualWidth tabSize (line'.takeWhile isBlank) →
    after[row]? = after[row']?

theorem dropWhile_of_code {indent : Text} {d : Char} (rest : Text) (all : ∀ c ∈ indent, isBlank c)
    (code : ¬ isBlank d) : (indent ++ d :: rest).dropWhile isBlank = d :: rest := by
  rw [List.dropWhile_append_of_pos all]
  simp [code]

section Lines

variable {settings : Settings} (positive : 1 ≤ settings.tabSize)

include positive

theorem reindent_keeps {line line' : Text} (done : reindent settings line = some line') :
    line'.dropWhile isBlank = line.dropWhile isBlank ∧
      visualWidth settings.tabSize (line'.takeWhile isBlank) =
        visualWidth settings.tabSize (line.takeWhile isBlank) := by
  rcases line_shape line with all | ⟨indent, d, rest, rfl, all, code⟩
  · cases (reindent_of_blank settings all).symm.trans done
    exact ⟨rfl, rfl⟩
  · obtain ⟨width, new, measured, rendered, again, known⟩ :=
      reindent_rendered positive rest all code
    cases known.symm.trans done
    have blank := render_blank rendered
    rw [dropWhile_of_code rest blank code, dropWhile_of_code rest all code,
      takeWhile_of_code rest blank code, takeWhile_of_code rest all code, again, measured]
    exact ⟨rfl, rfl⟩

/-- A line of code is written from its code and the width of its indentation alone. -/
theorem reindent_of_solid {line : Text} (solid : line.all isBlank = false) :
    reindent settings line =
      (visualWidth settings.tabSize (line.takeWhile isBlank)).bind fun width =>
        (render settings width).map (· ++ line.dropWhile isBlank) := by
  rcases line_shape line with all | ⟨indent, d, rest, rfl, all, code⟩
  · rw [List.all_eq_true.mpr all] at solid
    cases solid
  · obtain ⟨width, new, measured, rendered, _, done⟩ := reindent_rendered positive rest all code
    rw [done, takeWhile_of_code rest all code, dropWhile_of_code rest all code, measured,
      Option.bind_some, rendered, Option.map_some]

theorem reindent_uniform {line line' : Text} (solid : line.all isBlank = false)
    (code : line.dropWhile isBlank = line'.dropWhile isBlank)
    (width : visualWidth settings.tabSize (line.takeWhile isBlank) =
      visualWidth settings.tabSize (line'.takeWhile isBlank)) :
    reindent settings line = reindent settings line' := by
  have solid' : line'.all isBlank = false := by
    rw [← Bool.not_eq_true, List.all_eq_true, ← List.dropWhile_eq_nil_iff] at solid ⊢
    rwa [← code]
  rw [reindent_of_solid positive solid, reindent_of_solid positive solid', code, width]

theorem sameLayout_of_reindentFrom {isProtected : Nat → Bool} {ls out : List Text}
    (done : reindentFrom settings isProtected 0 ls = some out) :
    SameLayout settings.tabSize isProtected ls out := by
  have at_row (n : Nat) := getElem?_reindentFrom done n
  simp only [Nat.zero_add] at at_row
  constructor
  · simpa using congrArg List.length (reindentFrom_trim done)
  · intro row line there still
    rw [at_row, there, Option.bind_some]
    split
    · rfl
    · rename_i free
      exact reindent_of_blank settings (List.all_eq_true.mp (still.resolve_left free))
  · intro row line there
    obtain ⟨width, measured, _⟩ := widthFrom_advances positive 0 (line.takeWhile isBlank)
    cases guarded : isProtected row with
    | true => exact ⟨line, width, by simp [at_row, there, guarded], rfl, measured, measured⟩
    | false =>
      obtain ⟨line', changed, _⟩ := reindent_total positive line
      obtain ⟨code, same⟩ := reindent_keeps positive changed
      exact ⟨line',
        width, by simp [at_row, there, guarded, changed], code, measured, same.trans measured⟩
  · intro row row' line line' there there' free free' solid code width
    rw [at_row, at_row, there, there', Option.bind_some, Option.bind_some, free, free']
    simpa using reindent_uniform positive solid code width

end Lines

/-- Rendering a width and measuring it are inverse. So indenting keeps the layout of a source and
leaves protected and blank lines alone, and a second pass changes nothing. -/
theorem apply_keeps_layout (settings : Settings) (positive : 1 ≤ settings.tabSize) :
    (∀ width, 0 ≤ width → ∃ indent, render settings width = some indent ∧
      visualWidth settings.tabSize indent = some width) ∧
    ∀ isProtected source, ∃ result, apply settings isProtected source = some result ∧
      SameLayout settings.tabSize isProtected (lines source) (lines result) ∧
      apply settings isProtected result = some result := by
  refine ⟨?_, ?_⟩
  · intro width wide
    obtain ⟨indent, rendered, _, measured⟩ := render_spec positive wide
    exact ⟨indent, rendered, measured⟩
  · intro isProtected source
    obtain ⟨out, rewritten⟩ := reindentFrom_total positive isProtected 0 (lines source)
    have done : apply settings isProtected source = some (unlines out) := by
      rw [apply, rewritten, Option.map_some]
    have onLines := apply_lines done
    refine ⟨_, done, sameLayout_of_reindentFrom positive onLines, ?_⟩
    rw [apply, reindentFrom_of_fixed (reindentFrom_fixed positive onLines), Option.map_some,
      unlines_lines]

def narrow : Settings where
  tabulation := .mixed
  tabSize := 3

/-- A space before a tab is absorbed, also next to a protected line that keeps both. -/
theorem apply_keeps_layout_absorbed :
    apply narrow (· == 1) " \t x\n \t x\n    x\n \t".toList = some "\t x\n \t x\n\t x\n \t".toList ∧
    SameLayout 3 (· == 1) (lines " \t x\n \t x\n    x\n \t".toList)
      (lines "\t x\n \t x\n\t x\n \t".toList) ∧
    apply narrow (· == 1) "\t x\n \t x\n\t x\n \t".toList =
      some "\t x\n \t x\n\t x\n \t".toList := by
  have written : apply narrow (· == 1) " \t x\n \t x\n    x\n \t".toList =
      some "\t x\n \t x\n\t x\n \t".toList := by decide
  obtain ⟨result, done, same, again⟩ :=
    (apply_keeps_layout narrow (by decide)).2 (· == 1) " \t x\n \t x\n    x\n \t".toList
  cases written.symm.trans done
  exact ⟨written, same, again⟩

end SourceTidy.Java.Indentation
