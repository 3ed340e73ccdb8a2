import SourceTidy.Proofs.BlankRuns
import SourceTidy.Proofs.StartUp

namespace SourceTidy.Java

open Text

/-- The settings write an indentation like this: spaces, or tabs and then fewer spaces than a tab
has. -/
def IsIndent (settings : Settings) (indent : Text) : Prop :=
  if settings.tabulation = .space then ∃ n, indent = List.replicate n ' '
  else ∃ tabs spaces : Nat, indent = List.replicate tabs '\t' ++ List.replicate spaces ' ' ∧
    spaces < settings.tabSize

def indentWidths (tabSize : Int) (ls : List Text) : List (Option Int) :=
  (ls.filter fun l => !l.all isBlank).map fun l =>
    Indentation.visualWidth tabSize (l.takeWhile isBlank)

/-- The normal form of a source. Line feeds end its lines, so what comes after the last one is no
line. -/
structure IsNormal (settings : Settings) (t : Text) : Prop where
  ends : t = [] ∨ ∃ body, t = body ++ ['\n'] ∧ body.getLast? ≠ some '\n'
  opens : t = [] ∨ ∃ l ls, lines t = l :: ls ∧ l.all isBlank = false
  clean : '\r' ∉ t
  tight : ∀ l ∈ lines t, ∀ c ∈ l.getLast?, isBlank c = false
  sparse : ∀ k : Nat, List.replicate k [] <:+: (lines t).dropLast → k ≤ settings.blankLines
  indented : ∀ l ∈ lines t, IsIndent settings (l.takeWhile isBlank)

/- One line. -/

theorem takeWhile_of_code {indent : Text} {d : Char} (rest : Text) (all : ∀ c ∈ indent, isBlank c)
    (code : ¬ isBlank d) : (indent ++ d :: rest).takeWhile isBlank = indent := by
  rw [List.takeWhile_append_of_pos all]
  simp [code]

theorem trimRight_last {p : Char → Bool} {t : Text} {c : Char}
    (last : (trimRight p t).getLast? = some c) :
    p c = false := by
  obtain ⟨front, whole⟩ := List.getLast?_eq_some_iff.mp last
  have same : t.rdropWhile p = front ++ [c] := whole
  have stops := List.rdropWhile_last_not p t (by simp [same])
  simpa [same] using stops

namespace Indentation

theorem render_zero {settings : Settings} (positive : 1 ≤ settings.tabSize) :
    render settings 0 = some [] := by
  unfold render
  split
  · rfl
  · rw [if_neg (by omega)]
    simp [times]

theorem reindent_rendered {settings : Settings} (positive : 1 ≤ settings.tabSize) {indent : Text}
    {d : Char} (rest : Text) (all : ∀ c ∈ indent, isBlank c) (code : ¬ isBlank d) :
    ∃ width new, visualWidth settings.tabSize indent = some width ∧
    render settings width = some new ∧
      visualWidth settings.tabSize new = some width ∧
      reindent settings (indent ++ d :: rest) = some (new ++ d :: rest) := by
  obtain ⟨width, measured, far⟩ := widthFrom_advances positive 0 indent
  obtain ⟨new, rendered, blank, again⟩ := render_spec positive (by omega : 0 ≤ width)
  refine ⟨width, new, measured, rendered, again, ?_⟩
  rw [reindent_of_code settings rest all code]
  by_cases empty : indent = []
  · subst empty
    cases Option.some.inj measured
    cases (render_zero positive).symm.trans rendered
    rfl
  · rw [if_neg empty, visualWidth, measured, Option.bind_some, rendered, Option.map_some]

theorem isIndent_of_render {settings : Settings} (positive : 1 ≤ settings.tabSize) {width : Int}
    {new : Text} (rendered : render settings width = some new) : IsIndent settings new := by
  unfold render at rendered
  unfold IsIndent
  split
  · rename_i space
    rw [if_pos space] at rendered
    exact ⟨width.toNat, (Option.some.inj rendered).symm⟩
  · rename_i other
    rw [if_neg other, if_neg (by omega)] at rendered
    refine ⟨_, _, (Option.some.inj rendered).symm, ?_⟩
    have low : 0 ≤ width.fmod settings.tabSize := Int.fmod_nonneg_of_pos _ (by omega)
    have high : width.fmod settings.tabSize < settings.tabSize := Int.fmod_lt_of_pos _ (by omega)
    omega

end Indentation

section Lines

variable {settings : Settings} (positive : 1 ≤ settings.tabSize)

include positive

theorem tidy_rendered {indent : Text} {d : Char} (rest : Text) (all : ∀ c ∈ indent, isBlank c)
    (code : ¬ isBlank d) :
    ∃ width new, Indentation.visualWidth settings.tabSize indent = some width ∧
      Indentation.render settings width = some new ∧
      Indentation.visualWidth settings.tabSize new = some width ∧
      tidy settings (indent ++ d :: rest) = new ++ d :: trimRight isBlank rest := by
  obtain ⟨width, new, measured, rendered, again, done⟩ :=
    Indentation.reindent_rendered positive rest all code
  refine ⟨width, new, measured, rendered, again, ?_⟩
  rw [tidy, done, Option.getD_some, trimRight_append_of_kept new ⟨d, by simp, code⟩,
    trimRight_cons rest code]

theorem tidy_indented (line : Text) :
    IsIndent settings ((tidy settings line).takeWhile isBlank) := by
  rcases line_shape line with all | ⟨indent, d, rest, rfl, all, code⟩
  · rw [tidy_of_blank settings all]
    exact Indentation.isIndent_of_render positive (Indentation.render_zero positive)
  · obtain ⟨width, new, _, rendered, _, same⟩ := tidy_rendered positive rest all code
    rw [same, takeWhile_of_code _ (Indentation.render_blank rendered) code]
    exact Indentation.isIndent_of_render positive rendered

theorem tidy_width {line : Text} (solid : line.all isBlank = false) :
    Indentation.visualWidth settings.tabSize ((tidy settings line).takeWhile isBlank) =
      Indentation.visualWidth settings.tabSize (line.takeWhile isBlank) := by
  rcases line_shape line with all | ⟨indent, d, rest, rfl, all, code⟩
  · rw [List.all_eq_true.mpr all] at solid
    cases solid
  · obtain ⟨width, new, measured, rendered, again, same⟩ := tidy_rendered positive rest all code
    rw [same, takeWhile_of_code _ (Indentation.render_blank rendered) code,
      takeWhile_of_code _ all code, again, measured]

theorem indentWidths_tidy (ls : List Text) :
    indentWidths settings.tabSize (ls.map (tidy settings)) = indentWidths settings.tabSize ls := by
  unfold indentWidths
  rw [List.filter_map, List.map_map]
  have same : ((fun l => !l.all isBlank) ∘ tidy settings) = fun l => !l.all isBlank := by
    funext l
    simp [tidy_solid]
  rw [same]
  apply List.map_congr_left
  intro l member
  have solid : l.all isBlank = false := by simpa using (List.mem_filter.mp member).2
  exact tidy_width positive solid

end Lines

/- Capped lines. -/

theorem mem_cap {keep : Int} {begun : Bool} {run : Nat} {ls : List Text} {l : Text}
    (member : l ∈ cap keep begun run ls) : l = [] ∨ l ∈ ls := by
  induction ls generalizing begun run with
  | nil => cases member
  | cons k ls ih =>
    cases blank : k.all isBlank with
    | true =>
      rw [cap_blank keep begun run ls blank] at member
      rcases List.mem_append.mp member with member | member
      · split at member
        · exact .inl (List.mem_singleton.mp member)
        · cases member
      · exact (ih member).imp_right (List.mem_cons_of_mem k)
    | false =>
      rw [cap_solid keep begun run ls blank] at member
      rcases List.mem_cons.mp member with rfl | member
      · exact .inr (by simp)
      · exact (ih member).imp_right (List.mem_cons_of_mem k)

theorem cap_top {keep : Int} {run : Nat} {ls rest : List Text} {l : Text}
    (whole : cap keep false run ls = l :: rest) : l.all isBlank = false := by
  induction ls generalizing run with
  | nil => cases whole
  | cons k ls ih =>
    cases blank : k.all isBlank with
    | true =>
      rw [cap_blank keep false run ls blank] at whole
      exact ih (by simpa using whole)
    | false =>
      rw [cap_solid keep false run ls blank] at whole
      rwa [← (List.cons.inj whole).1]

theorem cap_start {keep : Int} {begun : Bool} {run k : Nat} {ls : List Text}
    (start : List.replicate k [] <+: cap keep begun run ls) : k = 0 ∨ (run + k : Nat) ≤ keep := by
  induction ls generalizing run k with
  | nil => exact .inl (by simpa [cap_nil] using start)
  | cons l ls ih =>
    cases k with
    | zero => exact .inl rfl
    | succ k =>
      right
      cases blank : l.all isBlank with
      | true =>
        rw [cap_blank keep begun run ls blank] at start
        split at start
        · rename_i fits
          simp only [Bool.and_eq_true, decide_eq_true_eq] at fits
          rw [List.replicate_succ, List.singleton_append, List.cons_prefix_cons] at start
          rcases ih start.2 with nothing | further
          · omega
          · omega
        · rcases ih start with empty | further
          · cases empty
          · omega
      | false =>
        rw [cap_solid keep begun run ls blank, List.replicate_succ, List.cons_prefix_cons] at start
        rw [← start.1] at blank
        cases blank

theorem cap_sparse {keep : Int} (nonneg : 0 ≤ keep) {begun : Bool} {run k : Nat} {ls : List Text}
    (inside : List.replicate k [] <:+: cap keep begun run ls) : k ≤ keep := by
  have bound {begun : Bool} {run : Nat} {ls : List Text}
      (start : List.replicate k [] <+: cap keep begun run ls) : k ≤ keep := by
    rcases cap_start start with nothing | further
    · omega
    · omega
  induction ls generalizing begun run with
  | nil =>
    have empty : k = 0 := by simpa [cap_nil] using inside
    omega
  | cons l ls ih =>
    have first : List.replicate k [] <+: cap keep begun run (l :: ls) ∨
        ∃ begun run, List.replicate k [] <:+: cap keep begun run ls := by
      cases blank : l.all isBlank with
      | true =>
        rw [cap_blank keep begun run ls blank] at inside ⊢
        split at inside
        · rename_i fits
          rw [if_pos fits]
          exact (List.infix_cons_iff.mp inside).imp_right fun tail => ⟨_, _, tail⟩
        · exact .inr ⟨_, _, inside⟩
      | false =>
        rw [cap_solid keep begun run ls blank] at inside ⊢
        exact (List.infix_cons_iff.mp inside).imp_right fun tail => ⟨_, _, tail⟩
    rcases first with start | ⟨_, _, tail⟩
    · exact bound start
    · exact ih tail

theorem indentWidths_cons (size : Int) (l : Text) (ls : List Text) :
    indentWidths size (l :: ls) =
      (if l.all isBlank then [] else [Indentation.visualWidth size (l.takeWhile isBlank)]) ++
        indentWidths size ls := by
  cases blank : l.all isBlank <;> simp [indentWidths, blank]

theorem indentWidths_measured {size : Int} (positive : 1 ≤ size) (ls : List Text) :
    ∃ widths : List Int, indentWidths size ls = widths.map some := by
  induction ls with
  | nil => exact ⟨[], rfl⟩
  | cons l ls ih =>
    obtain ⟨widths, rest⟩ := ih
    rw [indentWidths_cons, rest]
    split
    · exact ⟨widths, rfl⟩
    · obtain ⟨width, measured, _⟩ := Indentation.widthFrom_advances positive 0 (l.takeWhile isBlank)
      exact ⟨width :: widths, by simp [Indentation.visualWidth, measured]⟩

theorem indentWidths_cap (size keep : Int) (begun : Bool) (run : Nat) (ls : List Text) :
    indentWidths size (cap keep begun run ls) = indentWidths size ls := by
  induction ls generalizing begun run with
  | nil => rfl
  | cons l ls ih =>
    cases blank : l.all isBlank with
    | true =>
      rw [cap_blank keep begun run ls blank, indentWidths_cons size l, blank]
      split
      · rw [List.singleton_append, indentWidths_cons, ih]
        rfl
      · exact ih begun (run + 1)
    | false => rw [cap_solid keep begun run ls blank, indentWidths_cons, indentWidths_cons, ih]

theorem indentWidths_append_empty (size : Int) (ls : List Text) {empty : List Text}
    (all : ∀ l ∈ empty, l = []) : indentWidths size (ls ++ empty) = indentWidths size ls := by
  have nothing : empty.filter (fun l => !l.all isBlank) = [] := by
    rw [List.filter_eq_nil_iff]
    intro l member
    simp [all l member]
  simp [indentWidths, nothing]

/- The whole source. -/

def keptLines (settings : Settings) (source : Text) : List Text :=
  BlankLines.dropEmptyEnd (cap settings.blankLines false 0 ((lines source).map (tidy settings)))

theorem keptLines_start (settings : Settings) (source : Text) :
    keptLines settings source <+: cap settings.blankLines false 0
    ((lines source).map (tidy settings)) :=
  List.rdropWhile_prefix _ _

theorem lines_layout_kept (settings : Settings) (source : Text) :
    lines (layout settings source) = keptLines settings source ++ [[]] :=
  lines_layout settings source

theorem tidy_of_mem_layout {settings : Settings} {source l : Text}
    (member : l ∈ lines (layout settings source)) : ∃ line, l = tidy settings line := by
  have empty : [] = tidy settings [] := (tidy_of_blank settings (by simp)).symm
  rw [lines_layout_kept] at member
  rcases List.mem_append.mp member with member | member
  · rcases mem_cap ((keptLines_start settings source).subset member) with rfl | member
    · exact ⟨[], empty⟩
    · obtain ⟨line, _, rfl⟩ := List.mem_map.mp member
      exact ⟨line, rfl⟩
  · rw [List.mem_singleton.mp member]
    exact ⟨[], empty⟩

theorem layout_ends (settings : Settings) (source : Text) :
    layout settings source = [] ∨
      ∃ body, layout settings source = body ++ ['\n'] ∧ body.getLast? ≠ some '\n' := by
  have free : ∀ l ∈ keptLines settings source, '\n' ∉ l := by
    intro l member
    apply @free_of_mem_lines (layout settings source)
    simp [lines_layout_kept, member]
  rcases BlankLines.endLines_cases free (BlankLines.dropEmptyEnd_last _)
    with ⟨_, empty⟩ | ⟨_, ended⟩
  · exact .inl empty
  · exact .inr ⟨_, ended⟩

theorem layout_starts (settings : Settings) (source : Text) :
    layout settings source = [] ∨
      ∃ l ls, lines (layout settings source) = l :: ls ∧ l.all isBlank = false := by
  have written : layout settings source = BlankLines.endLines (keptLines settings source) := rfl
  have start := keptLines_start settings source
  have whole := lines_layout_kept settings source
  cases top : keptLines settings source with
  | nil => exact .inl (by simp [written, top, BlankLines.endLines])
  | cons l rest =>
    rw [top] at start whole
    obtain ⟨more, same⟩ := start
    exact .inr ⟨l, rest ++ [[]], by rw [whole, List.cons_append], cap_top same.symm⟩

section Sources

variable {settings : Settings} (positive : 1 ≤ settings.tabSize)

include positive

theorem layout_normal (nonneg : 0 ≤ settings.blankLines) {source : Text} (clean : '\r' ∉ source) :
    IsNormal settings (layout settings source) := by
  constructor
  case ends => exact layout_ends settings source
  case opens => exact layout_starts settings source
  case clean => exact layout_clean positive clean
  case tight =>
    intro l member c last
    obtain ⟨line, rfl⟩ := tidy_of_mem_layout member
    exact trimRight_last last
  case sparse =>
    intro k inside
    rw [lines_layout_kept, List.dropLast_concat] at inside
    exact cap_sparse nonneg (inside.trans (keptLines_start settings source).isInfix)
  case indented =>
    intro l member
    obtain ⟨line, rfl⟩ := tidy_of_mem_layout member
    exact tidy_indented positive line

theorem indentWidths_layout (source : Text) :
    indentWidths settings.tabSize (lines (layout settings source)) =
      indentWidths settings.tabSize (lines source) := by
  obtain ⟨empty, all, whole⟩ := dropEmptyEnd_split
    (cap settings.blankLines false 0 ((lines source).map (tidy settings)))
  rw [lines_layout, indentWidths_append_empty _ _ (by simp), ← indentWidths_append_empty _ _ all,
    whole, indentWidths_cap, indentWidths_tidy positive]

end Sources

/- Formatting, with or without a source level. -/

theorem Rule.apply_unlevelled (settings : Settings) (level : Option Int) {rule : Rule}
    (other : rule ≠ .sourceLevel) (source : Text) (tree : Node) :
    rule.apply settings level source tree = rule.apply settings none source tree := by
  cases rule with
  | sourceLevel => exact absurd rfl other
  | indentation | trailingBlanks | blankLines => rfl

theorem applyRules_unlevelled (parser : Parser) (settings : Settings) (level : Option Int)
    {rules : List Rule} (others : Rule.sourceLevel ∉ rules) (calls : Nat) (source : Text)
    (tree : Node) :
    applyRules parser settings level rules calls source tree =
      applyRules parser settings none rules calls source tree := by
  induction rules generalizing calls source tree with
  | nil => rfl
  | cons rule rules ih =>
    rw [List.mem_cons, not_or] at others
    simp only [applyRules, Rule.apply_unlevelled settings level (Ne.symm others.1), ih others.2]

/-- The source level keeps a text from being formatted: it cannot be read, or the text is newer. -/
inductive LevelRefuses (parser : Parser) (settings : Settings) (runLevel : Option Text)
    (source : Text) :
    FormatFault → Prop
  | illegible {level : Text} {fault : LevelFault} : effectiveLevel settings runLevel = some level →
      SourceLevel.ofText level = .error fault →
      LevelRefuses parser settings runLevel source (.rejected (.level fault))
  | exceeded {level : Text} {n : Nat} {found : Anachronism} :
      effectiveLevel settings runLevel = some level →
      SourceLevel.ofText level = .ok n → SourceLevel.check n (parser 0 source) = some found →
      LevelRefuses parser settings runLevel source (.rejected (.anachronism found))

theorem format_plain_cases {parser : Parser} (plain : parser.Plain) {settings : Settings}
    (positive : 1 ≤ settings.tabSize) (runLevel : Option Text) (text : Text) :
    (format parser settings Rule.all runLevel text).result =
      .ok (layout settings (canonicalBreaks text)) ∨
      ∃ fault, (format parser settings Rule.all runLevel text).result = .error fault ∧
        LevelRefuses parser settings runLevel (lineFeeds text) fault := by
  cases level : effectiveLevel settings runLevel with
  | none => exact .inl (format_plain plain positive level text)
  | some raw =>
    cases read : SourceLevel.ofText raw with
    | error fault => exact .inr ⟨_, by simp [format, level, read], .illegible level read⟩
    | ok n =>
      have ran : (format parser settings Rule.all runLevel text).result =
          (applyRules parser settings (some n) Rule.all 1 (lineFeeds text)
            (parser 0 (lineFeeds text))).result := by
        simp [format, level, read, plain.accepts]
      rw [Rule.all, applyRules_levelled, Option.bind_some] at ran
      cases refused : SourceLevel.check n (parser 0 (lineFeeds text)) with
      | some found => exact .inr ⟨_, by rw [Rule.all, ran, refused], .exceeded level read refused⟩
      | none =>
        left
        rw [Rule.all, ran, refused, ← lineFeeds_eq_canonicalBreaks]
        dsimp only
        rw [applyRules_unlevelled _ _ _ (by decide),
          applyRules_plain plain _ _ _ _ (plain.unquoted 0 _)]
        exact runRules_bare positive _

/-- With a parser that accepts every source and finds no string of several lines, formatting gives a
source in normal form whose lines of code are indented as wide as before, unless the source level
refuses it. -/
theorem format_normal (parser : Parser) (settings : Settings) (runLevel : Option Text) (text : Text)
    (plain : parser.Plain) (positive : 1 ≤ settings.tabSize) (nonneg : 0 ≤ settings.blankLines) :
    (∃ result, (format parser settings Rule.all runLevel text).result = .ok result ∧
      IsNormal settings result ∧
      ∃ widths : List Int, indentWidths settings.tabSize (lines result) = widths.map some ∧
        indentWidths settings.tabSize (lines (canonicalBreaks text)) = widths.map some) ∨
    ∃ fault, (format parser settings Rule.all runLevel text).result = .error fault ∧
      LevelRefuses parser settings runLevel (lineFeeds text) fault := by
  rcases format_plain_cases plain positive runLevel text with done | refused
  · obtain ⟨widths, measured⟩ := indentWidths_measured positive (lines (canonicalBreaks text))
    exact .inl ⟨_, done, layout_normal positive nonneg (canonicalBreaks_clean text), widths,
      (indentWidths_layout positive _).trans measured, measured⟩
  · exact .inr refused

def straySource : Text := "\t\r\n  \tclass A \x7b  \r\r\n \n\t   \t x; \n\x7d\r\n\t".toList

theorem format_normal_stray :
    Parser.Plain (fun _ _ => bare) ∧
    (format (fun _ _ => bare) {} Rule.all none straySource).result =
      .ok "\tclass A \x7b\n\n\t\t x;\n\x7d\n".toList ∧
    ((∃ result, (format (fun _ _ => bare) {} Rule.all none straySource).result = .ok result ∧
      IsNormal {} result ∧
      ∃ widths : List Int, indentWidths 4 (lines result) = widths.map some ∧
        indentWidths 4 (lines (canonicalBreaks straySource)) = widths.map some) ∨
    ∃ fault, (format (fun _ _ => bare) {} Rule.all none straySource).result = .error fault ∧
      LevelRefuses (fun _ _ => bare) {} none (lineFeeds straySource) fault) :=
  ⟨plain_bare, by cbv, format_normal _ {} none straySource plain_bare (by decide) (by decide)⟩

end SourceTidy.Java
