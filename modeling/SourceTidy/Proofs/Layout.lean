import SourceTidy.Proofs.CommentRegion
import SourceTidy.Proofs.Formatting
import SourceTidy.Proofs.Utf8

/-!
The layout of a source without strings of several lines, as a function of the settings.

A parser that accepts every source and reports no such string makes the formatter a function of the
text alone. That function keeps the ink, and it works on two texts with a blank line between them as
it does on each, except that the blank line may go.
-/
namespace SourceTidy.Java

open Text Header

/-- The parser accepts every source and finds no string of several lines in it. -/
structure Parser.Plain (parser : Parser) : Prop where
  accepts : ∀ calls source, SyntaxError.ofTree? (parser calls source) = none
  unquoted : ∀ calls source, (parser calls source).stringRows = []

/-- A line as the first two rules leave it. -/
def tidy (settings : Settings) (line : Text) : Text :=
  trimRight isBlank ((Indentation.reindent settings line).getD line)

def cap (keep : Int) (begun : Bool) (run : Nat) (ls : List Text) : List Text :=
  BlankLines.capFrom keep (fun _ => false) 0 begun run ls

def layout (settings : Settings) (source : Text) : Text :=
  BlankLines.endLines
    (BlankLines.dropEmptyEnd (cap settings.blankLines false 0 ((lines source).map (tidy settings))))

def bare : Node := { kind := "program", start := ⟨0, 0⟩, stop := ⟨0, 0⟩ }

theorem bare_stringRows : bare.stringRows = [] := by
  simp [bare, Node.stringRows, Node.nodes, Node.nodesOn, Node.laterRows, Node.stringKinds]

theorem plain_bare : Parser.Plain fun _ _ => bare where
  accepts _ _ := by cbv
  unquoted _ _ := bare_stringRows

theorem protects_bare (source : Text) : protects (fun _ => bare) source = fun _ => false := by
  funext row
  simp [protects, bare_stringRows]

/-- Without a level, a rule asks a tree for its strings only. -/
theorem Rule.apply_unquoted (settings : Settings) (rule : Rule) (source : Text) {tree : Node}
    (unquoted : tree.stringRows = []) :
    rule.apply settings none source tree = rule.apply settings none source bare := by
  cases rule <;> simp only [Rule.apply, unquoted, bare_stringRows, Option.bind_none]

theorem applyRules_plain {parser : Parser} (plain : parser.Plain) (settings : Settings)
    (rules : List Rule) (calls : Nat) (source : Text) {tree : Node}
    (unquoted : tree.stringRows = []) :
    (applyRules parser settings none rules calls source tree).result =
      runRules (fun _ => bare) settings none rules source := by
  induction rules generalizing calls source tree with
  | nil => rfl
  | cons rule rules ih =>
    rw [applyRules, runRules, Rule.apply_unquoted settings rule source unquoted]
    cases rule.apply settings none source bare with
    | error fault => rfl
    | ok next =>
      by_cases same : next = source
      · simp [same, ih calls source unquoted]
      · simp [same, ih (calls + 1) next (plain.unquoted calls next)]

theorem reindentFrom_bare {settings : Settings} (positive : 1 ≤ settings.tabSize) (row : Nat)
    (ls : List Text) :
    Indentation.reindentFrom settings (fun _ => false) row ls =
      some (ls.map fun l => (Indentation.reindent settings l).getD l) := by
  induction ls generalizing row with
  | nil => rfl
  | cons l ls ih =>
    obtain ⟨l', done, _⟩ := Indentation.reindent_total positive l
    simp [Indentation.reindentFrom_eq, done, ih]

theorem trimFrom_bare (row : Nat) (ls : List Text) :
    TrailingBlanks.trimFrom (fun _ => false) row ls = ls.map (trimRight isBlank) := by
  induction ls generalizing row with
  | nil => rfl
  | cons l ls ih => simp [TrailingBlanks.trimFrom, ih]

theorem runRules_bare {settings : Settings} (positive : 1 ≤ settings.tabSize) (source : Text) :
    runRules (fun _ => bare) settings none Rule.all source = .ok (layout settings source) := by
  obtain ⟨indented, first⟩ : ∃ indented,
      Indentation.apply settings (fun _ => false) source = some indented := by
    simp [Indentation.apply, reindentFrom_bare positive]
  have rewritten := Indentation.apply_lines first
  rw [reindentFrom_bare positive] at rewritten
  refine runRules_all_iff.mpr ⟨indented, by rw [protects_bare, first], ?_⟩
  rw [capped, protects_bare, BlankLines.apply, trimmed, protects_bare, TrailingBlanks.apply_lines,
    trimFrom_bare, ← Option.some.inj rewritten, List.map_map]
  rfl

/-- With a plain parser and no level, formatting is the layout of the text with line feeds. -/
theorem format_plain {parser : Parser} (plain : parser.Plain) {settings : Settings}
    (positive : 1 ≤ settings.tabSize) {runLevel : Option Text}
    (unlevelled : effectiveLevel settings runLevel = none) (text : Text) :
    (format parser settings Rule.all runLevel text).result =
      .ok (layout settings (canonicalBreaks text)) := by
  rw [← lineFeeds_eq_canonicalBreaks]
  refine format_ok_iff.mpr ⟨none, by rw [unlevelled]; rfl, plain.accepts 0 _, ?_⟩
  rw [Option.map_none, applyRules_plain plain settings _ _ _ (plain.unquoted 0 _)]
  exact runRules_bare positive _

theorem tracksLines_bare (settings : Settings) (rules : List Rule) (source : Text) :
    tracksLines (fun _ => bare) settings rules source = true := by
  induction rules generalizing source with
  | nil => rfl
  | cons rule rules ih =>
    rw [tracksLines]
    split
    · rfl
    · simp [protects_bare, ih]

theorem layout_layout {settings : Settings} (positive : 1 ≤ settings.tabSize) (source : Text) :
    layout settings (layout settings source) = layout settings source := by
  have again := runRules_again positive (tracksLines_bare settings Rule.all source)
    (runRules_bare positive source)
  rw [runRules_bare positive] at again
  exact Except.ok.inj again

theorem layout_clean {settings : Settings} (positive : 1 ≤ settings.tabSize) {source : Text}
    (clean : '\r' ∉ source) : '\r' ∉ layout settings source :=
  runRules_clean clean (runRules_bare positive source)

/- One line. -/

theorem not_isBlank_of_not_isSpace {c : Char} (solid : ¬ isSpace c) : ¬ isBlank c :=
  fun blank => solid (isSpace_of_blank blank)

theorem tidy_exchanges (settings : Settings) (line : Text) :
    ∃ old new code, (∀ c ∈ old, isBlank c) ∧ (∀ c ∈ new, isBlank c) ∧ line = old ++ code ∧
      tidy settings line = trimRight isBlank (new ++ code) := by
  unfold tidy
  cases done : Indentation.reindent settings line with
  | none => exact ⟨[], [], line, by simp, by simp, rfl, rfl⟩
  | some line' =>
    obtain ⟨old, new, code, before, after, whole, rfl⟩ := Indentation.reindent_exchanges done
    exact ⟨old, new, code, before, after, whole, rfl⟩

theorem ink_tidy (settings : Settings) (line : Text) : ink (tidy settings line) = ink line := by
  obtain ⟨old, new, code, before, after, rfl, same⟩ := tidy_exchanges settings line
  rw [same, ink_trimRight (fun _ => isSpace_of_blank), ink_append, ink_append, ink_of_blank before,
    ink_of_blank after]

theorem tidy_of_blank (settings : Settings) {line : Text} (all : ∀ c ∈ line, isBlank c) :
    tidy settings line = [] := by
  rw [tidy, Indentation.reindent_of_blank settings all]
  exact List.rdropWhile_eq_nil_iff.mpr all

theorem tidy_of_code (settings : Settings) {indent : Text} {d : Char} (rest : Text)
    (all : ∀ c ∈ indent, isBlank c) (code : ¬ isBlank d) :
    ∃ new, (∀ c ∈ new, isBlank c) ∧ (indent = [] → new = []) ∧
      tidy settings (indent ++ d :: rest) = new ++ d :: trimRight isBlank rest := by
  have shape : ∃ new, (∀ c ∈ new, isBlank c) ∧ (indent = [] → new = []) ∧
      (Indentation.reindent settings (indent ++ d :: rest)).getD (indent ++ d :: rest) =
        new ++ d :: rest := by
    rw [Indentation.reindent_of_code settings rest all code]
    by_cases empty : indent = []
    · exact ⟨[], by simp, fun _ => rfl, by simp [empty]⟩
    · rw [if_neg empty]
      cases Indentation.visualWidth settings.tabSize indent with
      | none => exact ⟨indent, all, id, rfl⟩
      | some width =>
        rw [Option.bind_some]
        cases rendered : Indentation.render settings width with
        | none => exact ⟨indent, all, id, rfl⟩
        | some new =>
          exact ⟨new, Indentation.render_blank rendered, fun h => absurd h empty, rfl⟩
  obtain ⟨new, blank, empty, same⟩ := shape
  refine ⟨new, blank, empty, ?_⟩
  rw [tidy, same, trimRight_append_of_kept new ⟨d, by simp, code⟩, trimRight_cons rest code]

theorem tidy_of_first (settings : Settings) {d : Char} (rest : Text) (code : ¬ isBlank d) :
    tidy settings (d :: rest) = d :: trimRight isBlank rest := by
  have nothing : ∀ c ∈ ([] : Text), isBlank c := by simp
  obtain ⟨new, _, empty, same⟩ := tidy_of_code settings rest nothing code
  rw [empty rfl] at same
  exact same

theorem tidy_of_last (settings : Settings) (line : Text) {c : Char} (code : ¬ isBlank c) :
    ∃ front, tidy settings (line ++ [c]) = front ++ [c] := by
  obtain ⟨old, new, rest, before, _, whole, same⟩ := tidy_exchanges settings (line ++ [c])
  rcases List.eq_nil_or_concat' rest with rfl | ⟨front, d, rfl⟩
  · rw [List.append_nil] at whole
    exact absurd (before c (by simp [← whole])) code
  · rw [← List.append_assoc] at whole
    cases List.singleton_inj.mp (List.append_inj' whole rfl).2
    exact ⟨new ++ front, by rw [same, ← List.append_assoc, trimRight_of_last code]⟩

theorem tidy_solid (settings : Settings) (line : Text) :
    (tidy settings line).all isBlank = line.all isBlank := by
  rcases line_shape line with all | ⟨indent, d, rest, rfl, all, code⟩
  · rw [tidy_of_blank settings all]
    exact (List.all_eq_true.mpr all).symm
  · obtain ⟨new, _, _, same⟩ := tidy_of_code settings rest all code
    rw [same]
    simp [code]

/- Capped lines. A solid line starts the count anew, so what stands before it and what stands after
it are capped apart. -/

theorem capFrom_row (keep : Int) (row : Nat) (begun : Bool) (run : Nat) (ls : List Text) :
    BlankLines.capFrom keep (fun _ => false) row begun run ls = cap keep begun run ls := by
  unfold cap
  have same (row row' : Nat) : BlankLines.capFrom keep (fun _ => false) row begun run ls =
      BlankLines.capFrom keep (fun _ => false) row' begun run ls := by
    induction ls generalizing row row' begun run with
    | nil => rfl
    | cons l ls ih =>
      rw [BlankLines.capFrom, BlankLines.capFrom, ih begun (run + 1) (row + 1) (row' + 1),
        ih true 0 (row + 1) (row' + 1)]
  exact same row 0

theorem cap_nil (keep : Int) (begun : Bool) (run : Nat) : cap keep begun run [] = [] := rfl

theorem cap_blank (keep : Int) (begun : Bool) (run : Nat) {l : Text} (ls : List Text)
    (blank : l.all isBlank) :
    cap keep begun run (l :: ls) =
      (if begun && ((run + 1 : Nat) : Int) ≤ keep then [[]] else []) ++ cap keep begun
      (run + 1) ls := by
  rw [cap, BlankLines.capFrom, blank, capFrom_row]
  split
  · split <;> rfl
  · contradiction

theorem cap_solid (keep : Int) (begun : Bool) (run : Nat) {l : Text} (ls : List Text)
    (solid : l.all isBlank = false) :
    cap keep begun run (l :: ls) = l :: cap keep true 0 ls := by
  rw [cap, BlankLines.capFrom, solid, capFrom_row, capFrom_row]
  rfl

theorem cap_append (keep : Int) (begun : Bool) (run : Nat) (ls : List Text) {l : Text}
    (ms : List Text) (solid : l.all isBlank = false) :
    cap keep begun run (ls ++ l :: ms) = cap keep begun run ls ++ l :: cap keep true 0 ms := by
  induction ls generalizing begun run with
  | nil => exact cap_solid keep begun run ms solid
  | cons k ls ih =>
    rw [List.cons_append]
    cases blank : k.all isBlank with
    | true =>
      rw [cap_blank keep begun run _ blank, cap_blank keep begun run _ blank, ih, List.append_assoc]
    | false =>
      rw [cap_solid keep begun run _ blank, cap_solid keep begun run _ blank, ih, List.cons_append]

theorem flatMap_ink_cap (keep : Int) (begun : Bool) (run : Nat) (ls : List Text) :
    (cap keep begun run ls).flatMap ink = ls.flatMap ink := by
  induction ls generalizing begun run with
  | nil => rfl
  | cons l ls ih =>
    cases blank : l.all isBlank with
    | true =>
      have empty : ink l = [] := ink_of_blank (List.all_eq_true.mp blank)
      rw [cap_blank keep begun run ls blank, List.flatMap_append, ih, List.flatMap_cons, empty]
      split <;> rfl
    | false => rw [cap_solid keep begun run ls blank, List.flatMap_cons, List.flatMap_cons, ih]

/- Lines with their feeds. -/

theorem endLines_eq (ls : List Text) : BlankLines.endLines ls = ls.flatMap (· ++ ['\n']) := by
  induction ls with
  | nil => rfl
  | cons l ls ih =>
    rw [List.flatMap_cons, ← ih]
    cases ls with
    | nil => simp [BlankLines.endLines]
    | cons k ls => simp [BlankLines.endLines, unlines_cons l (List.cons_ne_nil k ls)]

theorem endLines_append (ls ms : List Text) :
    BlankLines.endLines (ls ++ ms) = BlankLines.endLines ls ++ BlankLines.endLines ms := by
  simp only [endLines_eq, List.flatMap_append]

theorem endLines_cons (l : Text) (ls : List Text) :
    BlankLines.endLines (l :: ls) = l ++ '\n' :: BlankLines.endLines ls := by
  simp [endLines_eq]

theorem ink_endLines (ls : List Text) : ink (BlankLines.endLines ls) = ls.flatMap ink := by
  induction ls with
  | nil => rfl
  | cons l ls ih => rw [endLines_cons, ink_append, ink_newline, ih, List.flatMap_cons]

theorem flatMap_ink_lines (t : Text) : (lines t).flatMap ink = ink t := by
  have ends : BlankLines.endLines (lines t) = t ++ ['\n'] := by
    simp [BlankLines.endLines, lines_ne_nil]
  rw [← ink_endLines, ends, ink_append, ink_newline, ink_nil, List.append_nil]

theorem dropEmptyEnd_solid (ls : List Text) {l : Text} (ms : List Text) (nonempty : l ≠ []) :
    BlankLines.dropEmptyEnd (ls ++ l :: ms) = ls ++ l :: BlankLines.dropEmptyEnd ms := by
  unfold BlankLines.dropEmptyEnd
  rw [List.reverse_append, List.reverse_cons, List.append_assoc, List.dropWhile_append]
  split
  · rename_i empty
    have gone : ms.reverse.dropWhile List.isEmpty = [] := by simpa using empty
    simp [gone, nonempty]
  · simp

theorem dropEmptyEnd_split (ls : List Text) :
    ∃ empty, (∀ l ∈ empty, l = []) ∧ BlankLines.dropEmptyEnd ls ++ empty = ls :=
  ⟨ls.rtakeWhile List.isEmpty, fun _ member => List.isEmpty_iff.mp (List.mem_rtakeWhile_imp member),
    List.rdropWhile_append_rtakeWhile⟩

theorem flatMap_ink_dropEmptyEnd (ls : List Text) :
    (BlankLines.dropEmptyEnd ls).flatMap ink = ls.flatMap ink := by
  obtain ⟨empty, all, whole⟩ := dropEmptyEnd_split ls
  have gone : empty.flatMap ink = [] := by
    rw [List.flatMap_eq_nil_iff]
    intro l member
    rw [all l member, ink_nil]
  have same := congrArg (List.flatMap ink) whole
  rw [List.flatMap_append, gone, List.append_nil] at same
  exact same

theorem ink_layout (settings : Settings) (t : Text) : ink (layout settings t) = ink t := by
  rw [layout, ink_endLines, flatMap_ink_dropEmptyEnd, flatMap_ink_cap, List.flatMap_map]
  simp only [ink_tidy]
  exact flatMap_ink_lines t

theorem lines_layout (settings : Settings) (t : Text) :
    lines (layout settings t) =
      BlankLines.dropEmptyEnd (cap settings.blankLines false 0 ((lines t).map (tidy settings))) ++
        [[]] := by
  apply BlankLines.lines_endLines
  have free : ∀ l ∈ (lines t).map (tidy settings), '\n' ∉ l := by
    intro l member inside
    obtain ⟨k, found, rfl⟩ := List.mem_map.mp member
    obtain ⟨old, new, code, _, after, rfl, same⟩ := tidy_exchanges settings k
    rw [same] at inside
    rcases List.mem_append.mp (mem_of_mem_trimRight inside) with inside | inside
    · exact absurd (after _ inside) (by decide)
    · exact free_of_mem_lines found (by simp [inside])
  intro l member
  exact BlankLines.capFrom_free _ _ _ _ _ free l ((List.rdropWhile_prefix _ _).subset member)

theorem layout_nil (settings : Settings) : layout settings [] = [] := rfl

theorem layout_complete (settings : Settings) (t : Text) :
    layout settings t = [] ∨ ∃ front, layout settings t = front ++ ['\n'] := by
  unfold layout BlankLines.endLines
  split
  · exact .inl rfl
  · exact .inr ⟨_, rfl⟩

/- Where a line is solid, the layout falls into what comes before it and what comes after it. -/

theorem layout_of_solid (settings : Settings) {t : Text} (ls : List Text) {ms : List Text}
    {l : Text} (split : lines t = ls ++ l :: ms) (solid : l.all isBlank = false) :
    layout settings t =
      BlankLines.endLines (cap settings.blankLines false 0 (ls.map (tidy settings))) ++
        tidy settings l ++ '\n' :: BlankLines.endLines (BlankLines.dropEmptyEnd
          (cap settings.blankLines true 0 (ms.map (tidy settings)))) := by
  have kept : (tidy settings l).all isBlank = false := by rw [tidy_solid, solid]
  have nonempty : tidy settings l ≠ [] := by
    intro empty
    simp [empty] at kept
  rw [layout, split, List.map_append, List.map_cons, cap_append _ _ _ _ _ kept,
    dropEmptyEnd_solid _ _ nonempty, endLines_append, endLines_cons, List.append_assoc]

theorem layout_of_top (settings : Settings) {t l : Text} {ls : List Text}
    (split : lines t = l :: ls) (solid : l.all isBlank = false) :
    layout settings t =
      tidy settings l ++ '\n' :: BlankLines.endLines (BlankLines.dropEmptyEnd
        (cap settings.blankLines true 0 (ls.map (tidy settings)))) :=
  layout_of_solid settings [] split solid

theorem lines_of_opens {t : Text} (opens : Opens t) :
    ∃ indent d rest ls, lines t = (indent ++ d :: rest) :: ls ∧ (∀ c ∈ indent, isBlank c) ∧
      ¬ isBlank d ∧ d ≠ '\r' ∧ d ≠ '\n' := by
  obtain ⟨indent, d, rest, rfl, blank, solid, inner, plain⟩ := opens
  obtain ⟨l, ls, split⟩ := List.exists_cons_of_ne_nil (lines_ne_nil rest)
  have free : '\n' ∉ indent ++ [d] := by
    intro member
    rcases List.mem_append.mp member with member | member
    · exact absurd (blank _ member) (by decide)
    · exact plain (List.mem_singleton.mp member).symm
  refine ⟨indent, d, l, ls, ?_, blank, solid, inner, plain⟩
  simpa using lines_free_append free split

/-- What is left of the blank line between two texts. -/
def gap (settings : Settings) : Text :=
  if 1 ≤ settings.blankLines then ['\n'] else []

theorem endLines_cap_gap (settings : Settings) :
    BlankLines.endLines (cap settings.blankLines true 0 [[]]) = gap settings := by
  rw [cap_blank _ _ _ _ rfl, cap_nil, List.append_nil, gap]
  by_cases room : 1 ≤ settings.blankLines
  · simp [room, BlankLines.endLines]
  · simp [room, BlankLines.endLines]

/-- Two texts with a blank line between them are laid out one by one. -/
theorem layout_append (settings : Settings) {a b : Text} (ends : EndsInInk a) (opens : Opens b) :
    layout settings (a ++ '\n' :: '\n' :: b) =
      layout settings a ++ (gap settings ++ layout settings b) := by
  obtain ⟨front, last, c, above, code⟩ := lines_of_endsInInk ends
  obtain ⟨indent, d, rest, ls, below, _, first, _⟩ := lines_of_opens opens
  have upper : (last ++ [c]).all isBlank = false := by simp [not_isBlank_of_not_isSpace code]
  have lower : (indent ++ d :: rest).all isBlank = false := by simp [first]
  have split : lines (a ++ '\n' :: '\n' :: b) =
      (front ++ (last ++ [c]) :: [[]]) ++ (indent ++ d :: rest) :: ls := by
    rw [lines_append, show ('\n' :: b) = [] ++ '\n' :: b from rfl, lines_append, above, below]
    simp [lines]
  have kept : (tidy settings (last ++ [c])).all isBlank = false := by rw [tidy_solid, upper]
  have empty : tidy settings [] = [] := tidy_of_blank settings (by simp)
  rw [layout_of_solid settings _ split lower, layout_of_solid settings _ above upper,
    layout_of_top settings below lower, List.map_append, List.map_cons, List.map_cons,
    List.map_nil, empty, cap_append _ _ _ _ _ kept, endLines_append, endLines_cons,
    endLines_cap_gap]
  simp [cap_nil, BlankLines.endLines, BlankLines.dropEmptyEnd]

theorem layout_of_endsInInk (settings : Settings) {t : Text} (ends : EndsInInk t) :
    ∃ front, layout settings t = front ++ ['\n'] ∧ EndsInInk front := by
  obtain ⟨front, last, c, split, code⟩ := lines_of_endsInInk ends
  have solid : (last ++ [c]).all isBlank = false := by simp [not_isBlank_of_not_isSpace code]
  obtain ⟨start, same⟩ := tidy_of_last settings last (not_isBlank_of_not_isSpace code)
  rw [layout_of_solid settings front split solid, same]
  exact ⟨_, rfl, _, c, (List.append_assoc _ _ _).symm, code⟩

theorem layout_of_first (settings : Settings) {d : Char} (t : Text) (solid : ¬ isBlank d)
    (plain : d ≠ '\n') : ∃ rest, layout settings (d :: t) = d :: rest := by
  obtain ⟨l, ls, split⟩ := List.exists_cons_of_ne_nil (lines_ne_nil t)
  have whole : lines (d :: t) = (d :: l) :: ls :=
    lines_free_append (p := [d]) (by simpa using Ne.symm plain) split
  rw [layout_of_top settings whole (by simp [solid]), tidy_of_first settings l solid]
  exact ⟨_, rfl⟩

theorem layout_of_opens (settings : Settings) {t : Text} (opens : Opens t) :
    Opens (layout settings t) := by
  obtain ⟨indent, d, rest, ls, split, blank, solid, inner, plain⟩ := lines_of_opens opens
  obtain ⟨new, blank', _, same⟩ := tidy_of_code settings rest blank solid
  rw [layout_of_top settings split (by simp [solid]), same]
  exact ⟨new, d, _, List.append_assoc _ _ _, blank', solid, inner, plain⟩

/-- The last line feed of a text is no line of its own. -/
theorem layout_newline (settings : Settings) {t : Text} (ends : EndsInInk t) :
    layout settings (t ++ ['\n']) = layout settings t := by
  obtain ⟨front, last, c, split, code⟩ := lines_of_endsInInk ends
  have solid : (last ++ [c]).all isBlank = false := by simp [not_isBlank_of_not_isSpace code]
  have longer : lines (t ++ ['\n']) = front ++ (last ++ [c]) :: [[]] := by
    rw [lines_append, split, List.append_assoc]
    rfl
  have empty : tidy settings [] = [] := tidy_of_blank settings (by simp)
  have nothing : BlankLines.dropEmptyEnd (cap settings.blankLines true 0 [[]]) = [] := by
    rw [cap_blank _ _ _ _ rfl, cap_nil, List.append_nil]
    split <;> rfl
  rw [layout_of_solid settings front longer solid, layout_of_solid settings front split solid,
    List.map_singleton, empty, nothing]
  rfl

/- The run of a file. -/

theorem finish_header {config : Configuration} {header : Text}
    (configured : config.header = some header) (nonempty : header ≠ []) (t : Text) :
    Pipeline.finish config t = normalizeBreaks config.lineSeparator (Header.insert t header) := by
  have present : Pipeline.headerOf config = Option.some header := by
    simp [Pipeline.headerOf, configured, nonempty]
  rw [Pipeline.finish, present]

/-- A file that can be decoded comes out as its layout, with the header and the breaks of the
run. -/
theorem apply_plain {parser : Parser} (plain : parser.Plain) {settings : Settings}
    (positive : 1 ≤ settings.tabSize) {config : Configuration}
    (encoded : config.encoding = "utf-8".toList)
    (unlevelled : effectiveLevel settings config.sourceLevel = none) {content : Bytes} {text : Text}
    (read : Utf8.decode content = .ok text) :
    (Pipeline.apply (.ofName Charset.codecs config.encoding) config
      [formatter parser settings] content).result =
      .ok (Utf8.encode (Pipeline.finish config (layout settings (canonicalBreaks text)))) := by
  have decoded : (Conversion.ofName Charset.codecs config.encoding).decode content = .ok text := by
    rw [encoded, Utf8.ofName_decode, read]
    rfl
  have formatted : (formatter parser settings).format config text =
      .ok (layout settings (canonicalBreaks text)) := format_plain plain positive unlevelled text
  simp only [Pipeline.apply, decoded, Pipeline.formatAll, formatted]
  rw [encoded, Utf8.ofName_encode]

end SourceTidy.Java
