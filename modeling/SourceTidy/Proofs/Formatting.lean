import Mathlib
import SourceTidy.Java.Reader
import SourceTidy.Proofs.Rules

/-!
What formatting a Java source keeps, and that formatting it again changes nothing.

The code of a source is the list of its lines without their outer blanks, blank lines apart. It is
kept by every rule and for every answer of the parser. Idempotence asks more of the parser: it must
be a function of the source, and a line must be protected after a rule just when it was before.
-/
namespace SourceTidy.Java

open Text

/-- The lines between their outer blanks, without those that have nothing else. -/
def codeOf (ls : List Text) : List Text :=
  (ls.map (trim isBlank)).filter (· ≠ [])

def codeLines (source : Text) : List Text :=
  codeOf (lines source)

theorem codeOf_append (ls ms : List Text) : codeOf (ls ++ ms) = codeOf ls ++ codeOf ms := by
  simp [codeOf]

theorem codeOf_cons (l : Text) (ls : List Text) : codeOf (l :: ls) = codeOf [l] ++ codeOf ls :=
  codeOf_append [l] ls

theorem codeOf_blank {l : Text} (all : ∀ c ∈ l, isBlank c) : codeOf [l] = [] := by
  simp [codeOf, trim_eq_nil_iff.mpr all]

theorem codeOf_empty {ls : List Text} (empty : ∀ l ∈ ls, l = []) : codeOf ls = [] := by
  induction ls with
  | nil => rfl
  | cons l ls ih =>
    rw [codeOf_cons, ih fun k member => empty k (by simp [member]), empty l (by simp),
      codeOf_blank (by simp)]
    rfl

theorem codeOf_of_trim {ls ms : List Text} (same : ls.map (trim isBlank) = ms.map (trim isBlank)) :
    codeOf ls = codeOf ms := by
  rw [codeOf, codeOf, same]

theorem codeOf_capFrom (keep : Int) (isProtected : Nat → Bool) (row : Nat) (begun : Bool)
    (run : Nat) (ls : List Text) :
    codeOf (BlankLines.capFrom keep isProtected row begun run ls) = codeOf ls := by
  induction ls generalizing row begun run with
  | nil => rfl
  | cons l ls ih =>
    rw [BlankLines.capFrom]
    split
    · rename_i blank
      have all : ∀ c ∈ l, isBlank c := List.all_eq_true.mp (Bool.and_eq_true_iff.mp blank).2
      split
      · rw [codeOf_cons, ih, codeOf_cons l, codeOf_blank all, codeOf_blank (by simp)]
      · rw [ih, codeOf_cons l, codeOf_blank all, List.nil_append]
    · rw [codeOf_cons, ih, ← codeOf_cons]

theorem codeOf_dropEmptyEnd (ls : List Text) : codeOf (BlankLines.dropEmptyEnd ls) = codeOf ls := by
  have empty : ∀ l ∈ ls.rtakeWhile List.isEmpty, l = [] := fun l member =>
    List.isEmpty_iff.mp (List.mem_rtakeWhile_imp member)
  have whole : BlankLines.dropEmptyEnd ls ++ ls.rtakeWhile List.isEmpty = ls :=
    List.rdropWhile_append_rtakeWhile
  calc codeOf (BlankLines.dropEmptyEnd ls)
      = codeOf (BlankLines.dropEmptyEnd ls ++ ls.rtakeWhile List.isEmpty) := by
        rw [codeOf_append, codeOf_empty empty, List.append_nil]
    _ = codeOf ls := by rw [whole]

theorem codeLines_blankLines (keep : Int) (isProtected : Nat → Bool) (source : Text) :
    codeLines (BlankLines.apply keep isProtected source) = codeLines source := by
  have free : ∀ l ∈ BlankLines.dropEmptyEnd
      (BlankLines.capFrom keep isProtected 0 false 0 (lines source)), '\n' ∉ l := by
    intro l member
    apply BlankLines.capFrom_free keep isProtected 0 false 0 (fun k => free_of_mem_lines) l
    exact (List.rdropWhile_prefix _ _).subset member
  rw [codeLines, BlankLines.apply, BlankLines.lines_endLines free, codeOf_append,
    codeOf_dropEmptyEnd, codeOf_capFrom, codeOf_blank (by simp), List.append_nil, codeLines]

/-- One rule keeps the code, whatever tree it is given. -/
theorem Rule.apply_code {settings : Settings} {level : Option Int} {rule : Rule}
    {source next : Text} {tree : Node} (done : rule.apply settings level source tree = .ok next) :
    codeLines next = codeLines source := by
  cases rule with
  | sourceLevel =>
    simp only [Rule.apply] at done
    split at done
    · contradiction
    · cases done
      rfl
  | indentation =>
    simp only [Rule.apply] at done
    split at done
    · rename_i result rewritten
      cases done
      exact codeOf_of_trim (Indentation.reindentFrom_trim (Indentation.apply_lines rewritten))
    · contradiction
  | trailingBlanks =>
    cases done
    rw [codeLines, TrailingBlanks.apply_lines]
    exact codeOf_of_trim (TrailingBlanks.trimFrom_trim _ 0 _)
  | blankLines =>
    cases done
    exact codeLines_blankLines _ _ source

theorem applyRules_code {parser : Parser} {settings : Settings} {level : Option Int}
    {rules : List Rule} {calls : Nat} {source result : Text} {tree : Node}
    (done : (applyRules parser settings level rules calls source tree).result = .ok result) :
    codeLines result = codeLines source := by
  induction rules generalizing calls source tree with
  | nil =>
    cases done
    rfl
  | cons rule rules ih =>
    rw [applyRules] at done
    split at done
    · contradiction
    · rename_i next applied
      have first := Rule.apply_code applied
      split at done
      · exact ih done
      · exact (ih done).trans first

/-- A text is formatted if its level can be read, it has no error, and no rule refuses it. -/
theorem format_ok_iff {parser : Parser} {settings : Settings} {rules : List Rule}
    {runLevel : Option Text} {text result : Text} :
    (format parser settings rules runLevel text).result = .ok result ↔
      ∃ level, (effectiveLevel settings runLevel).mapM SourceLevel.ofText = .ok level ∧
        SyntaxError.ofTree? (parser 0 (lineFeeds text)) = none ∧
        (applyRules parser settings (level.map Int.ofNat) rules 1 (lineFeeds text)
          (parser 0 (lineFeeds text))).result = .ok result := by
  dsimp only [format]
  cases read : (effectiveLevel settings runLevel).mapM SourceLevel.ofText with
  | error fault => simp
  | ok level => cases faulty : SyntaxError.ofTree? (parser 0 (lineFeeds text)) <;> simp

/-- Formatting keeps the lines of code, in their order, for every parser, level and profile. -/
theorem format_code (parser : Parser) (settings : Settings) (rules : List Rule)
    (runLevel : Option Text) (text result : Text)
    (done : (format parser settings rules runLevel text).result = .ok result) :
    codeLines result = codeLines (canonicalBreaks text) := by
  obtain ⟨level, _, _, ran⟩ := format_ok_iff.mp done
  rw [← lineFeeds_eq_canonicalBreaks]
  exact applyRules_code ran

/-- A parser that does not look at the source, and protects other rows each time it is called. -/
def fickleParser : Parser := fun calls _ =>
  { kind := "string_literal", start := ⟨calls, 0⟩, stop := ⟨calls + 2, 0⟩ }

def fickleSource : Text := "\r\n\t// a  \r\r\n\t b; \n \n\t\n\x7d".toList

def fickleResult : Text := "\t// a\n   b; \n\n\x7d\n".toList

def fickleSettings : Settings := { tabulation := .space, tabSize := 2, blankLines := 0 }

theorem format_code_fickle :
    (format fickleParser fickleSettings Rule.all (some ['1', '7']) fickleSource).result =
      .ok fickleResult ∧ codeLines fickleResult = codeLines (canonicalBreaks fickleSource) := by
  have done : (format fickleParser fickleSettings Rule.all (some ['1', '7']) fickleSource).result =
      .ok fickleResult := by cbv
  exact ⟨done, format_code _ _ _ _ _ _ done⟩

theorem clean_of_lines {t : Text} {c : Char} (inner : c ≠ '\n') (clean : ∀ l ∈ lines t, c ∉ l) :
    c ∉ t := by
  intro member
  rw [← unlines_lines t] at member
  rcases mem_unlines member with h | ⟨l, found, inside⟩
  · exact inner h
  · exact clean l found inside

theorem Rule.apply_clean {settings : Settings} {level : Option Int} {rule : Rule}
    {source next : Text} {tree : Node} (clean : '\r' ∉ source)
    (done : rule.apply settings level source tree = .ok next) : '\r' ∉ next := by
  have free : ∀ l ∈ lines source, '\r' ∉ l := fun l found inside =>
    clean (mem_of_mem_lines found inside)
  cases rule with
  | sourceLevel =>
    simp only [Rule.apply] at done
    split at done
    · contradiction
    · cases done
      exact clean
  | indentation =>
    simp only [Rule.apply] at done
    split at done
    · rename_i result rewritten
      cases done
      exact clean_of_lines (by decide)
        (Indentation.reindentFrom_free (by decide) free (Indentation.apply_lines rewritten))
    · contradiction
  | trailingBlanks =>
    cases done
    apply clean_of_lines (by decide)
    rw [TrailingBlanks.apply_lines]
    exact TrailingBlanks.trimFrom_free _ 0 free
  | blankLines =>
    cases done
    apply clean_of_lines (by decide)
    rw [BlankLines.apply_lines]
    intro l member
    rcases List.mem_append.mp member with member | member
    · exact BlankLines.survivors_free _ _ free l member
    · simp [List.mem_singleton.mp member]

/- A parser that is a function of the source needs no count of its calls, and the tree at hand is
always that of the source at hand. -/

/-- The rules one after the other, each with the tree of its own source. -/
def runRules (read : Text → Node) (settings : Settings) (level : Option Int) :
    List Rule → Text → Except FormatFault Text
  | [], source => .ok source
  | rule :: rules, source =>
    match rule.apply settings level source (read source) with
    | .error fault => .error fault
    | .ok next => runRules read settings level rules next

theorem applyRules_result (read : Text → Node) (settings : Settings) (level : Option Int)
    (rules : List Rule) (calls : Nat) (source : Text) :
    (applyRules (fun _ => read) settings level rules calls source (read source)).result =
      runRules read settings level rules source := by
  induction rules generalizing calls source with
  | nil => rfl
  | cons rule rules ih =>
    rw [applyRules, runRules]
    cases rule.apply settings level source (read source) with
    | error fault => rfl
    | ok next =>
      by_cases same : next = source
      · simp [same, ih]
      · simp [same, ih]

theorem runRules_clean {read : Text → Node} {settings : Settings} {level : Option Int}
    {rules : List Rule} {source result : Text} (clean : '\r' ∉ source)
    (done : runRules read settings level rules source = .ok result) : '\r' ∉ result := by
  induction rules generalizing source with
  | nil =>
    cases done
    exact clean
  | cons rule rules ih =>
    rw [runRules] at done
    split at done
    · contradiction
    · rename_i next applied
      exact ih (Rule.apply_clean clean applied) done

def protects (read : Text → Node) (source : Text) (row : Nat) : Bool :=
  (read source).stringRows.contains row

/-- The rows whose lines a rule keeps, in the order in which the lines stand afterwards. Only the
rule for blank lines drops any. -/
def Rule.keptRows (settings : Settings) (isProtected : Nat → Bool) (source : Text) :
    Rule → List Nat
  | blankLines => (BlankLines.survivors settings.blankLines isProtected source).map Prod.fst
  | _ => List.range (lines source).length

/-- Along a run of rules, each line that a rule keeps is protected afterwards just when it was
before. Nothing is asked of rows on which no kept line stands. -/
def tracksLines (read : Text → Node) (settings : Settings) : List Rule → Text → Bool
  | [], _ => true
  | rule :: rules, source =>
    match rule.apply settings none source (read source) with
    | .error _ => true
    | .ok next =>
      (rule.keptRows settings (protects read source) source).zipIdx.all (fun e =>
        protects read next e.2 = protects read source e.1) &&
      tracksLines read settings rules next

theorem tracksLines_step {read : Text → Node} {settings : Settings} {rule : Rule}
    {rules : List Rule} {source next : Text}
    (tracks : tracksLines read settings (rule :: rules) source)
    (applied : rule.apply settings none source (read source) = .ok next) :
    (∀ j i, (rule.keptRows settings (protects read source) source)[j]? = some i →
      protects read next j = protects read source i) ∧ tracksLines read settings rules next := by
  rw [tracksLines, applied] at tracks
  simp only [Bool.and_eq_true, List.all_eq_true, decide_eq_true_eq] at tracks
  exact ⟨fun j i found => tracks.1 (i, j) (List.mem_zipIdx_iff_getElem?.mpr found), tracks.2⟩

def trimmed (read : Text → Node) (source : Text) : Text :=
  TrailingBlanks.apply (protects read source) source

def capped (read : Text → Node) (settings : Settings) (source : Text) : Text :=
  BlankLines.apply settings.blankLines (protects read source) source

/-- Without a level, the four rules are three, of which only the first can fail. -/
theorem runRules_all_iff {read : Text → Node} {settings : Settings} {source result : Text} :
    runRules read settings none Rule.all source = .ok result ↔
      ∃ indented, Indentation.apply settings (protects read source) source = some indented ∧
        capped read settings (trimmed read indented) = result := by
  have known : (fun row => (read source).stringRows.contains row) = protects read source := rfl
  simp only [Rule.all, runRules, Rule.apply, Option.bind_none, known]
  cases Indentation.apply settings (protects read source) source with
  | none => simp
  | some indented =>
    constructor
    · exact fun done => ⟨indented, rfl, Except.ok.inj done⟩
    · rintro ⟨_, same, rfl⟩
      cases Option.some.inj same
      rfl

/-- The lines of a tracked run: after each rule, a line that was kept is protected as it was. -/
theorem tracksLines_steps {read : Text → Node} {settings : Settings} {source indented : Text}
    (tracks : tracksLines read settings Rule.all source)
    (first : Indentation.apply settings (protects read source) source = some indented) :
    (∀ j < (lines source).length, protects read indented j = protects read source j) ∧
    (∀ j < (lines indented).length,
      protects read (trimmed read indented) j = protects read indented j) ∧
    ∀ j k, (BlankLines.survivors settings.blankLines (protects read (trimmed read indented))
        (trimmed read indented))[j]? = some k →
      protects read (capped read settings (trimmed read indented)) j =
        protects read (trimmed read indented) k.1 := by
  have indents : Rule.indentation.apply settings none source (read source) = .ok indented := by
    have known : (fun row => (read source).stringRows.contains row) = protects read source := rfl
    simp only [Rule.apply, known, first]
  have trims : Rule.trailingBlanks.apply settings none indented (read indented) =
      .ok (trimmed read indented) := rfl
  have caps : Rule.blankLines.apply settings none (trimmed read indented)
      (read (trimmed read indented)) = .ok (capped read settings (trimmed read indented)) := rfl
  obtain ⟨_, unlevelled⟩ := tracksLines_step tracks rfl
  obtain ⟨moved, rest⟩ := tracksLines_step unlevelled indents
  obtain ⟨moved', rest'⟩ := tracksLines_step rest trims
  obtain ⟨moved'', _⟩ := tracksLines_step rest' caps
  refine ⟨fun j small => moved j j ?_, fun j small => moved' j j ?_,
    fun j k found => moved'' j k.1 ?_⟩
  · simp [Rule.keptRows, small]
  · simp [Rule.keptRows, small]
  · simp [Rule.keptRows, found]

theorem unprotected_concat {p : Nat → Bool} {Q : Text → Prop} {row : Nat} {ls : List Text}
    {l : Text} (holds : Unprotected p Q row ls) (last : Q l) : Unprotected p Q row (ls ++ [l]) := by
  induction ls generalizing row with
  | nil => exact ⟨fun _ => last, trivial⟩
  | cons k ls ih => exact ⟨holds.1, ih holds.2⟩

theorem tracked_neat {read : Text → Node} {settings : Settings} (positive : 1 ≤ settings.tabSize)
    {source indented : Text} (tracks : tracksLines read settings Rule.all source)
    (first : Indentation.apply settings (protects read source) source = some indented) :
    Unprotected (protects read (capped read settings (trimmed read indented)))
      (TrailingBlanks.Neat settings) 0 (lines (capped read settings (trimmed read indented))) := by
  obtain ⟨moved, moved', moved''⟩ := tracksLines_steps tracks first
  have rewritten := Indentation.apply_lines first
  have lengths : (lines indented).length = (lines source).length := by
    simpa using congrArg List.length (Indentation.reindentFrom_trim rewritten)
  have lengths' : (lines (trimmed read indented)).length = (lines indented).length := by
    rw [trimmed, TrailingBlanks.apply_lines]
    simpa using congrArg List.length
      (TrailingBlanks.trimFrom_trim (protects read indented) 0 (lines indented))
  have fixed : Unprotected (protects read indented) (Indentation.Fixed settings) 0
      (lines indented) :=
    (Indentation.reindentFrom_fixed positive rewritten).congr
      (by simpa [lengths] using moved)
  have neat : Unprotected (protects read (trimmed read indented)) (TrailingBlanks.Neat settings) 0
      (lines (trimmed read indented)) := by
    have now := TrailingBlanks.trimFrom_neat fixed
    rw [← TrailingBlanks.apply_lines] at now
    exact now.congr (by simpa [← trimmed.eq_def, lengths'] using moved')
  have empty : TrailingBlanks.Neat settings [] :=
    ⟨Indentation.reindent_of_blank settings (by simp), rfl⟩
  have all : ∀ k ∈ BlankLines.survivors settings.blankLines (protects read (trimmed read indented))
      (trimmed read indented),
      protects read (trimmed read indented) k.1 = false → TrailingBlanks.Neat settings k.2 :=
    fun k member =>
      BlankLines.keepFrom_unprotected empty neat k ((List.rdropWhile_prefix _ _).subset member)
  have whole : lines (capped read settings (trimmed read indented)) =
      (BlankLines.survivors settings.blankLines (protects read (trimmed read indented))
        (trimmed read indented)).map Prod.snd ++ [[]] := BlankLines.apply_lines _ _ _
  rw [whole]
  exact unprotected_concat (BlankLines.unprotected_of_moved (by simpa using moved'') all) empty

/-- The four rules change nothing in what they made of a source, if lines were tracked then. -/
theorem runRules_again {read : Text → Node} {settings : Settings} (positive : 1 ≤ settings.tabSize)
    {source result : Text} (tracks : tracksLines read settings Rule.all source)
    (done : runRules read settings none Rule.all source = .ok result) :
    runRules read settings none Rule.all result = .ok result := by
  obtain ⟨indented, first, rfl⟩ := runRules_all_iff.mp done
  have neat := tracked_neat positive tracks first
  have still : Indentation.apply settings _ (capped read settings (trimmed read indented)) =
      some _ :=
    congrArg (Option.map unlines) (Indentation.reindentFrom_of_fixed (neat.imp fun l h => h.1))
  rw [unlines_lines] at still
  have quiet : trimmed read (capped read settings (trimmed read indented)) =
      capped read settings (trimmed read indented) := by
    rw [trimmed, TrailingBlanks.apply, TrailingBlanks.trimFrom_of_neat neat, unlines_lines]
  refine runRules_all_iff.mpr ⟨_, still, ?_⟩
  rw [quiet]
  exact BlankLines.apply_again (tracksLines_steps tracks first).2.2

/-- Formatting is idempotent, text blocks included. -/
theorem format_idempotent (read : Text → Node) (settings : Settings) (runLevel : Option Text)
    (text result : Text) (positive : 1 ≤ settings.tabSize)
    (unlevelled : effectiveLevel settings runLevel = none)
    (tracks : tracksLines read settings Rule.all (lineFeeds text))
    (accepts : SyntaxError.ofTree? (read result) = none)
    (done : (format (fun _ => read) settings Rule.all runLevel text).result = .ok result) :
    (format (fun _ => read) settings Rule.all runLevel result).result = .ok result := by
  obtain ⟨level, known, _, ran⟩ := format_ok_iff.mp done
  have unset : level = none := by
    rw [unlevelled] at known
    exact (Except.ok.inj known).symm
  subst unset
  rw [Option.map_none, applyRules_result] at ran
  have clean : lineFeeds result = result := by
    rw [lineFeeds_eq_canonicalBreaks] at ran ⊢
    exact canonicalBreaks_of_clean (runRules_clean (canonicalBreaks_clean text) ran)
  refine format_ok_iff.mpr ⟨none, known, ?_, ?_⟩
  · rw [clean]
    exact accepts
  · rw [clean, Option.map_none, applyRules_result]
    exact runRules_again positive tracks ran

/-- A reader that finds the first text block of a source and nothing else. -/
def blockReader (source : Text) : Node :=
  let isQuoted := occurs ['"', '"', '"']
  let first := (lines source).findIdx isQuoted
  let last := first + 1 + ((lines source).drop (first + 1)).findIdx isQuoted
  { kind := "program", start := ⟨0, 0⟩, stop := ⟨(lines source).length, 0⟩,
    children := [{ kind := "string_literal", start := ⟨first, 0⟩, stop := ⟨last, 0⟩ }] }

def blockSource : Text :=
  "\r\n    s = \"\"\"\r\n  x \r\n\r\n\r\n \"\"\";\r\n\r\n \r\nt();".toList

def blockResult : Text := "\ts = \"\"\"\n  x \n\n\n \"\"\";\n\nt();\n".toList

/-- The block moves up by one row, and the blank lines in it stay. -/
theorem format_idempotent_block :
    tracksLines blockReader {} Rule.all (lineFeeds blockSource) ∧
    (format (fun _ => blockReader) {} Rule.all none blockSource).result = .ok blockResult ∧
    (format (fun _ => blockReader) {} Rule.all none blockResult).result = .ok blockResult := by
  have tracks : tracksLines blockReader {} Rule.all (lineFeeds blockSource) := by cbv
  have done : (format (fun _ => blockReader) {} Rule.all none blockSource).result =
      .ok blockResult := by cbv
  exact ⟨tracks, done,
    format_idempotent blockReader {} none _ _ (by decide) rfl tracks (by cbv) done⟩

end SourceTidy.Java
