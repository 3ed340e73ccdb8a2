import SourceTidy.Proofs.RepeatedHeader
import SourceTidy.Proofs.Utf8

/-!
The header pass and the line breaks of a text.

The pass finds the same region, the same blank lines and the same header whichever breaks a text
has, so it may be done before the breaks are changed or after. With the header pass on its own
result, this makes the two passes at the end of the pipeline stable.
-/
namespace SourceTidy

namespace Text

theorem canonicalBreaks_canonicalBreaks (t : Text) :
    canonicalBreaks (canonicalBreaks t) = canonicalBreaks t :=
  canonicalBreaks_of_clean (canonicalBreaks_clean t)

end Text

namespace Header

open Text Java

/-- A text may be cut anywhere but inside a pair. -/
theorem canonicalBreaks_cut {a b : Text} (apart : a.getLast? = some '\r' → b.head? ≠ some '\n') :
    canonicalBreaks (a ++ b) = canonicalBreaks a ++ canonicalBreaks b := by
  induction a with
  | nil => rfl
  | cons c a ih =>
    have tail : canonicalBreaks (a ++ b) = canonicalBreaks a ++ canonicalBreaks b := by
      apply ih
      intro last
      cases a with
      | nil => cases last
      | cons d a => exact apart (by simpa using last)
    by_cases feed : c = '\n'
    · rw [feed, List.cons_append, canonicalBreaks_feed, canonicalBreaks_feed, tail]
      rfl
    · by_cases back : c = '\r'
      · subst back
        cases a with
        | nil =>
          rw [List.singleton_append, canonicalBreaks_return (apart rfl)]
          rfl
        | cons d a =>
          by_cases pair : d = '\n'
          · subst pair
            rw [List.cons_append, canonicalBreaks_feed] at tail
            rw [List.cons_append, List.cons_append, canonicalBreaks_pair, canonicalBreaks_pair,
              tail, canonicalBreaks_feed]
          · have lone : ((d :: a) ++ b).head? ≠ some '\n' := by simpa using pair
            have still : (d :: a).head? ≠ some '\n' := by simpa using pair
            rw [List.cons_append, canonicalBreaks_return lone, canonicalBreaks_return still, tail]
            rfl
      · rw [List.cons_append, canonicalBreaks_other _ back feed, canonicalBreaks_other _ back feed,
          tail]
        rfl

theorem commentLines_apart {inside : Bool} {t rest : Text}
    (split : commentLines inside t ++ rest = t)
    (last : (commentLines inside t).getLast? = some '\r') : rest.head? ≠ some '\n' := by
  -- A region that ends in a return has read what follows, and would have taken a line feed, too.
  fun_induction commentLines inside t with
  | case1 => cases last
  | case2 more ih =>
    simp only [List.cons_append, List.cons.injEq, true_and] at split
    apply ih split
    cases region : commentLines false more with
    | nil => simp [region] at last
    | cons d region' => simpa [region] using last
  | case3 => cases last
  | case4 inside more ih =>
    simp only [List.cons_append, List.cons.injEq, true_and] at split
    apply ih split
    cases region : commentLines true more with
    | nil => simp [region] at last
    | cons d region' => simpa [region] using last
  | case5 c more single pair ih =>
    simp only [List.cons_append, List.cons.injEq, true_and] at split
    cases region : commentLines (c != '\r' && c != '\n') more with
    | nil =>
      rw [region, List.nil_append] at split
      subst split
      rw [region] at last
      obtain rfl : c = '\r' := by simpa using last
      intro first
      obtain ⟨after, rfl⟩ := List.head?_eq_some_iff.mp first
      exact single after rfl rfl
    | cons d region' =>
      apply ih split
      simpa [region] using last
  | case6 => cases last

theorem find_apart {t region rest : Text} (found : find? t = some region)
    (split : t = region ++ rest) :
    region.getLast? = some '\r' → rest.head? ≠ some '\n' := by
  rcases find_shape t with ⟨more, rfl⟩ | ⟨more, rfl⟩ | ⟨unfound, _⟩
  · rw [find_block] at found
    obtain ⟨inner, inside, rfl⟩ := Option.map_eq_some_iff.mp found
    obtain ⟨front, _, rfl, _⟩ := throughClose_split inside
    have ends : '/' :: '*' :: (front ++ ['*', '/']) = ('/' :: '*' :: (front ++ ['*'])) ++
        ['/'] := by simp
    intro last
    rw [ends, List.getLast?_concat] at last
    exact absurd (Option.some.inj last) (by decide)
  · rw [find_comment] at found
    cases Option.some.inj found
    exact commentLines_apart split.symm
  · simp [unfound] at found

theorem dropBlankLinesFrom_canonicalBreaks (start t : Text) :
    dropBlankLinesFrom (canonicalBreaks start) (canonicalBreaks t) =
      canonicalBreaks (dropBlankLinesFrom start t) := by
  fun_induction dropBlankLinesFrom start t with
  | case1 start rest ih =>
    rw [canonicalBreaks_pair, dropBlankLinesFrom]
    · simpa using ih
    · simp
  | case2 start c rest single brk ih =>
    have read : canonicalBreaks (c :: rest) = '\n' :: canonicalBreaks rest := by
      rw [canonicalBreaks, replaceBreaks.eq_3 _ _ _ single, if_pos brk]
      rfl
    rw [read, dropBlankLinesFrom]
    · simpa using ih
    · simp
  | case3 start c rest single inner blank ih =>
    have apart : c ≠ '\r' ∧ c ≠ '\n' := by simpa using inner
    rw [canonicalBreaks_other rest apart.1 apart.2, dropBlankLinesFrom]
    · simpa [apart, blank] using ih
    · simp [apart]
  | case4 start c rest single inner solid =>
    have apart : c ≠ '\r' ∧ c ≠ '\n' := by simpa using inner
    rw [canonicalBreaks_other rest apart.1 apart.2, dropBlankLinesFrom]
    · simp [apart, solid]
    · simp [apart]
  | case5 start => rfl

theorem dropBlankLines_canonicalBreaks (t : Text) :
    dropBlankLines (canonicalBreaks t) = canonicalBreaks (dropBlankLines t) :=
  dropBlankLinesFrom_canonicalBreaks t t

theorem body_canonicalBreaks (t : Text) : body (canonicalBreaks t) = canonicalBreaks (body t) := by
  have found := find_canonicalBreaks_map t
  cases region : find? t with
  | none =>
    rw [region] at found
    rw [body_of_none region, body_of_none found, dropBlankLines_canonicalBreaks]
  | some r =>
    rw [region] at found
    obtain ⟨rest, split⟩ := find_start region
    have whole : canonicalBreaks t = canonicalBreaks r ++ canonicalBreaks rest := by
      rw [split, canonicalBreaks_cut (find_apart region split)]
    rw [body_of_find region split, body_of_find found whole, dropBlankLines_canonicalBreaks]

theorem carries_canonicalBreaks (t header : Text) :
    carries (canonicalBreaks t) header = carries t header := by
  unfold carries
  rw [find_canonicalBreaks_map, canonicalBreaks_canonicalBreaks]
  cases find? t with
  | none => rfl
  | some region =>
    have same : normalize (canonicalBreaks region) = normalize region := by
      rw [normalize, canonicalBreaks_canonicalBreaks, normalize]
    simp only [Option.map_some, same]

theorem splitMark_canonicalBreaks (t : Text) :
    splitMark (canonicalBreaks t) = ((splitMark t).1, canonicalBreaks (splitMark t).2) := by
  by_cases marked : t.head? = some mark
  · obtain ⟨rest, rfl⟩ := List.head?_eq_some_iff.mp marked
    rw [canonicalBreaks_other rest (by decide) (by decide), splitMark_mark, splitMark_mark]
  · have still : (canonicalBreaks t).head? ≠ some mark :=
      fun first => marked ((head_canonicalBreaks (by decide) (by decide)).mp first)
    rw [splitMark_unmarked marked, splitMark_unmarked still]

theorem spaced_canonicalBreaks {t : Text} :
    spaced (canonicalBreaks t) = canonicalBreaks (spaced t) := by
  cases t with
  | nil => rfl
  | cons c rest =>
    obtain ⟨d, more, whole⟩ : ∃ d more, canonicalBreaks (c :: rest) = d :: more := by
      rw [canonicalBreaks, replaceBreaks.eq_def]
      split
      · contradiction
      · exact ⟨_, _, rfl⟩
      · split
        · exact ⟨_, _, rfl⟩
        · exact ⟨_, _, rfl⟩
    rw [spaced, canonicalBreaks_feed, whole]
    rfl

theorem headed_canonicalBreaks {header : Text} (clean : '\r' ∉ header) (t : Text) :
    headed header (canonicalBreaks t) = canonicalBreaks (headed header t) := by
  unfold headed
  rw [splitMark_canonicalBreaks, carries_canonicalBreaks, body_canonicalBreaks,
    spaced_canonicalBreaks]
  by_cases carried : carries (splitMark t).2 header = true
  · rw [if_pos carried, if_pos carried]
  · have front : '\r' ∉ (splitMark t).1 := by
      rcases (splitMark_spec t).2 with bare | marked
      · simp [bare]
      · rw [marked]
        decide
    rw [if_neg carried, if_neg carried, canonicalBreaks_append _ front,
      canonicalBreaks_append _ clean, canonicalBreaks_feed]

/-- The header pass commutes with the reading of breaks as line feeds. -/
theorem insert_canonicalBreaks (t header : Text) :
    Header.insert (canonicalBreaks t) header = canonicalBreaks (Header.insert t header) := by
  by_cases visible : normalize header = []
  · simp [Header.insert, isSettled, visible]
  · rw [insert_eq_headed visible, insert_eq_headed visible,
      headed_canonicalBreaks (normalize_clean header)]

theorem normalizeBreaks_insert (s first : LineSeparator) (t header : Text) :
    normalizeBreaks s (Header.insert (normalizeBreaks first t) header) =
      normalizeBreaks s (Header.insert t header) := by
  calc normalizeBreaks s (Header.insert (normalizeBreaks first t) header)
      = normalizeBreaks s (canonicalBreaks (Header.insert (normalizeBreaks first t) header)) :=
        (normalizeBreaks_canonicalBreaks s _).symm
    _ = normalizeBreaks s (canonicalBreaks (Header.insert t header)) := by
        rw [← insert_canonicalBreaks, canonicalBreaks_normalizeBreaks, insert_canonicalBreaks]
    _ = normalizeBreaks s (Header.insert t header) := normalizeBreaks_canonicalBreaks s _

/-- The header pass does not depend on the breaks of the text: it may be done before they are
changed or after, and texts that differ in their breaks only carry the same headers. -/
theorem insert_any_breaks (t header : Text) :
    (∀ s first, normalizeBreaks s (Header.insert (normalizeBreaks first t) header) =
      normalizeBreaks s (Header.insert t header)) ∧
      canonicalBreaks (Header.insert t header) = Header.insert (canonicalBreaks t) header ∧
      ∀ u, canonicalBreaks u = canonicalBreaks t → carries u header = carries t header := by
  refine ⟨fun s first => normalizeBreaks_insert s first t header,
    (insert_canonicalBreaks t header).symm, ?_⟩
  intro u same
  rw [← carries_canonicalBreaks u, same, carries_canonicalBreaks]

/-- A region of two lines whose last break is a return before a pair. -/
def returned : Text := "// a\r// b\r\r\nint c;\r".toList

theorem insert_any_breaks_returned :
    canonicalBreaks "// a\n// b\n\nint c;\n".toList = canonicalBreaks returned ∧
      carries "// a\n// b\n\nint c;\n".toList "// a\n// b".toList =
        carries returned "// a\n// b".toList ∧
      canonicalBreaks (Header.insert returned "/* h */".toList) = "/* h */\n\nint c;\n".toList := by
  have same : canonicalBreaks "// a\n// b\n\nint c;\n".toList = canonicalBreaks returned := by
    decide
  have other := (insert_any_breaks returned "/* h */".toList).2.1
  exact ⟨same, (insert_any_breaks returned "// a\n// b".toList).2.2 _ same, other.trans (by decide)⟩

end Header

namespace Pipeline

open Text

theorem insert_insert {header : Text}
    (unmarked : (Header.normalize header).head? ≠ some Header.mark) (t : Text) :
    Header.insert (Header.insert t header) header = Header.insert t header := by
  by_cases visible : Header.normalize header = []
  · simp [Header.insert, Header.isSettled, visible]
  · rw [Java.insert_eq_headed visible, Java.insert_eq_headed visible]
    exact Header.headed_headed (endsInInk_stripRight visible) (Header.normalize_clean header)
      fun marked => absurd marked unmarked

theorem finish_finish {config : Configuration}
    (unmarked : ∀ header, config.header = some header →
      (Header.normalize header).head? ≠ some Header.mark) (t : Text) :
    finish config (finish config t) = finish config t := by
  cases configured : headerOf config with
  | none =>
    simp only [finish, configured]
    exact normalizeBreaks_normalizeBreaks _ _ t
  | some header =>
    have there : config.header = some header := by
      rw [headerOf, Option.filter_eq_some_iff] at configured
      exact configured.1
    simp only [finish, configured]
    rw [Header.normalizeBreaks_insert, insert_insert (unmarked header there)]

theorem apply_nil (conversion : Conversion) (config : Configuration) (content : Bytes) :
    (apply conversion config [] content).result =
      (conversion.decode content).bind fun t => conversion.encode (finish config t) := by
  unfold apply
  cases conversion.decode content with
  | error fault => rfl
  | ok t => rfl

/-- Without formatters, a second run gives the bytes of the first one. -/
theorem apply_nil_stable (conversion : Conversion) (config : Configuration) (content bytes : Bytes)
    (inverts : ∀ t b, conversion.encode t = .ok b → conversion.decode b = .ok t)
    (unmarked : ∀ header, config.header = some header →
      (Header.normalize header).head? ≠ some Header.mark)
    (done : (apply conversion config [] content).result = .ok bytes) :
    (apply conversion config [] bytes).result = .ok bytes := by
  rw [apply_nil] at done ⊢
  cases read : conversion.decode content with
  | error fault =>
    rw [read] at done
    cases done
  | ok t =>
    rw [read] at done
    have written : conversion.encode (finish config t) = .ok bytes := done
    rw [inverts _ _ written]
    calc conversion.encode (finish config (finish config t))
        = conversion.encode (finish config t) := by rw [finish_finish unmarked]
      _ = .ok bytes := written

def paired : Configuration where
  lineSeparator := .crlf
  header := some "// a\r// b\n \n".toList

def motley : Text := "\ufeff/* old\r */ \r\n\t\n\rint a;\r\rint b;\n".toList

def motleyResult : Text := "\ufeff// a\r\n// b\r\n\r\nint a;\r\n\r\nint b;\r\n".toList

theorem apply_nil_stable_motley :
    (apply (.ofName Charset.codecs paired.encoding) paired [] (Utf8.encode motley)).result =
        .ok (Utf8.encode motleyResult) ∧
      (apply (.ofName Charset.codecs paired.encoding) paired [] (Utf8.encode motleyResult)).result =
        .ok (Utf8.encode motleyResult) := by
  have inverts (t : Text) (b : Bytes)
    (written : (Conversion.ofName Charset.codecs paired.encoding).encode t = .ok b) :
      (Conversion.ofName Charset.codecs paired.encoding).decode b = .ok t :=
        Utf8.ofName_inverts written
  have unmarked (header : Text) (there : paired.header = some header) :
      (Header.normalize header).head? ≠ some Header.mark := by
    cases there
    decide
  have done : (apply (.ofName Charset.codecs paired.encoding) paired []
    (Utf8.encode motley)).result =
      .ok (Utf8.encode motleyResult) := by
    have finished : finish paired motley = motleyResult := by decide
    rw [apply_nil, inverts motley _ (Utf8.ofName_encode motley)]
    exact finished ▸ Utf8.ofName_encode (finish paired motley)
  exact ⟨done, apply_nil_stable _ _ _ _ inverts unmarked done⟩

end Pipeline

end SourceTidy
