import SourceTidy.Java.Formatter
import SourceTidy.Proofs.LogicalLines

namespace SourceTidy

namespace Text

theorem replaceAll_char (old new : Char) (t : Text) :
    replaceAll [old] [new] t = t.map fun c => if c = old then new else c := by
  change replaceFrom [old] [new] 0 t = _
  induction t with
  | nil => rfl
  | cons c t ih =>
    rw [replaceFrom, List.map_cons]
    by_cases same : c = old
    · simpa [same] using ih
    · simpa [same, Ne.symm same] using ih

theorem replaceAll_pair (t : Text) : replaceAll ['\r', '\n'] ['\n'] t = joinPairs t := by
  change replaceFrom ['\r', '\n'] ['\n'] 0 t = _
  fun_induction joinPairs t with
  | case1 => rfl
  | case2 rest ih =>
    -- the line feed of the pair is skipped, as part of what was replaced
    simpa [replaceFrom] using ih
  | case3 c rest single ih =>
    have alone : ['\r', '\n'].isPrefixOf (c :: rest) = false := by
      rw [Bool.eq_false_iff, ne_eq, List.isPrefixOf_iff_prefix]
      rintro ⟨more, split⟩
      cases split
      exact single more rfl rfl
    rw [replaceFrom, alone, ih]
    rfl

theorem lineFeeds_eq_replaceAll (t : Text) :
    lineFeeds t = replaceAll ['\r'] ['\n'] (replaceAll ['\r', '\n'] ['\n'] t) := by
  rw [replaceAll_pair, replaceAll_char, lineFeeds]

theorem lineFeeds_normalizeBreaks (s : LineSeparator) (t : Text) :
    lineFeeds (normalizeBreaks s t) = lineFeeds t := by
  rw [lineFeeds_eq_canonicalBreaks, canonicalBreaks_normalizeBreaks, lineFeeds_eq_canonicalBreaks]

end Text

namespace Java

open Text

/-- Two replacements one after the other find the breaks that one pass finds. So a text may be given
to the formatter with any breaks: the answer is the same, and the same sources are parsed for it. -/
theorem format_any_breaks (t : Text) :
    lineFeeds t = replaceAll ['\r'] ['\n'] (replaceAll ['\r', '\n'] ['\n'] t) ∧
    lineFeeds t = canonicalBreaks t ∧
    ∀ (parser : Parser) (settings : Settings) (rules : List Rule) (runLevel : Option Text)
    (s : LineSeparator),
      format parser settings rules runLevel (normalizeBreaks s t) =
        format parser settings rules runLevel t := by
  refine ⟨lineFeeds_eq_replaceAll t, lineFeeds_eq_canonicalBreaks t, ?_⟩
  intro parser settings rules runLevel s
  simp only [format, lineFeeds_normalizeBreaks]

end Java

end SourceTidy
