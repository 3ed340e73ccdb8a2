import SourceTidy.Proofs.HeaderPass
import SourceTidy.Proofs.Layout
import SourceTidy.Proofs.LogicalLines

/-!
When a second run leaves a file as the first one wrote it.

The formatter comes before the header pass. A second run therefore lays out the header that the
first one wrote, and the text below it once more as the text after a header. `Steady` says of the
formatted text of the first run what must hold of both.
-/
namespace SourceTidy.Java

open Text Header

/- The mark in front of a text. -/

theorem splitMark_spec (t : Text) :
    t = (splitMark t).1 ++ (splitMark t).2 ∧ ((splitMark t).1 = [] ∨ (splitMark t).1 = [mark]) := by
  cases t with
  | nil => exact ⟨rfl, .inl rfl⟩
  | cons c rest =>
    by_cases first : c = mark
    · simp [splitMark, first]
    · simp [splitMark, first]

theorem splitMark_mark (t : Text) : splitMark (mark :: t) = ([mark], t) := by
  simp [splitMark]

theorem splitMark_unmarked {t : Text} (unmarked : t.head? ≠ some mark) : splitMark t = ([], t) := by
  cases t with
  | nil => rfl
  | cons c rest =>
    have other : c ≠ mark := by simpa using unmarked
    simp [splitMark, other]

theorem splitMark_append {front t : Text} (isFront : front = [] ∨ front = [mark])
    (unmarked : front = [] → t.head? ≠ some mark) : splitMark (front ++ t) = (front, t) := by
  rcases isFront with rfl | rfl
  · exact splitMark_unmarked (unmarked rfl)
  · exact splitMark_mark t

theorem splitMark_complete {t : Text} (complete : t = [] ∨ ∃ front, t = front ++ ['\n']) :
    (splitMark t).2 = [] ∨ ∃ front, (splitMark t).2 = front ++ ['\n'] := by
  rcases complete with rfl | ⟨front, rfl⟩
  · exact .inl rfl
  · cases front with
    | nil => exact .inr ⟨[], rfl⟩
    | cons c front =>
      by_cases first : c = mark
      · exact .inr ⟨front, by simp [splitMark, first]⟩
      · exact .inr ⟨c :: front, by simp [splitMark, first]⟩

/- What the header pass writes. -/

/-- What stands below the line of a header, with a blank line unless there is nothing. -/
def spaced : Text → Text
  | [] => []
  | c :: rest => '\n' :: c :: rest

theorem spaced_injective {s t : Text} (same : spaced s = spaced t) : s = t := by
  cases s with
  | nil =>
    cases t with
    | nil => rfl
    | cons d t => cases same
  | cons c s =>
    cases t with
    | nil => cases same
    | cons d t => exact (List.cons.inj same).2

theorem above_eq (header t : Text) : above header t = header ++ '\n' :: spaced (body t) := by
  unfold above
  cases body t with
  | nil => rfl
  | cons c rest => simp [spaced]

def headed (header t : Text) : Text :=
  if carries (splitMark t).2 header then t
  else (splitMark t).1 ++ (header ++ '\n' :: spaced (body (splitMark t).2))

theorem insert_eq_headed {header : Text} (visible : normalize header ≠ []) (t : Text) :
    Header.insert t header = headed (normalize header) t := by
  have nonempty : (normalize header).isEmpty = false := by simpa using visible
  simp only [Header.insert, isSettled, nonempty, Bool.false_or, above_eq, headed]

theorem headed_of_carries {header front t : Text} (isFront : front = [] ∨ front = [mark])
    (unmarked : front = [] → t.head? ≠ some mark) (carried : carries t header = true) :
    headed header (front ++ t) = front ++ t := by
  rw [headed, splitMark_append isFront unmarked, if_pos carried]

theorem headed_of_not_carries {header front t : Text} (isFront : front = [] ∨ front = [mark])
    (unmarked : front = [] → t.head? ≠ some mark) (other : carries t header ≠ true) :
    headed header (front ++ t) = front ++ (header ++ '\n' :: spaced (body t)) := by
  rw [headed, splitMark_append isFront unmarked, if_neg other]

theorem body_suffix (t : Text) : body t <:+ t := by
  obtain ⟨gone, _, whole⟩ := dropBlankLines_split (t.drop ((find? t).getD []).length)
  have inner : body t <:+ t.drop ((find? t).getD []).length := ⟨gone, whole.symm⟩
  exact inner.trans (List.drop_suffix _ t)

theorem body_opens {t : Text} (complete : t = [] ∨ ∃ front, t = front ++ ['\n']) :
    body t = [] ∨ Opens (body t) := by
  apply dropBlankLinesFrom_opens _ _ [] rfl (by simp)
  have suffix := List.drop_suffix ((find? t).getD []).length t
  rcases complete with rfl | ⟨front, rfl⟩
  · exact .inl ⟨rfl, List.suffix_nil.mp suffix⟩
  · rcases List.suffix_concat_iff.mp suffix with empty | ⟨rest, whole, _⟩
    · exact .inl ⟨rfl, empty⟩
    · exact .inr ⟨rest, by simpa using whole⟩

/- What the second run reads. -/

/-- A header as the formatter leaves it behind `front`, without the last line feed. -/
def reread (settings : Settings) (front header : Text) : Text :=
  ((layout settings (front ++ header)).drop front.length).dropLast

theorem reread_spec (settings : Settings) {front header : Text}
    (isFront : front = [] ∨ front = [mark]) (ends : EndsInInk header) :
    layout settings (front ++ header) = front ++ (reread settings front header ++ ['\n']) ∧
      EndsInInk (reread settings front header) ∧
      ink (reread settings front header) = ink header := by
  have whole := ends.append front
  obtain ⟨inner, split, tight⟩ := layout_of_endsInInk settings whole
  have kept : ink inner = ink (front ++ header) := by
    have same := ink_layout settings (front ++ header)
    rw [split, ink_append, ink_newline, ink_nil, List.append_nil] at same
    exact same
  have starts : ∃ found, inner = front ++ found := by
    rcases isFront with rfl | rfl
    · exact ⟨inner, rfl⟩
    · obtain ⟨rest, first⟩ := layout_of_first settings header (d := mark) (by decide) (by decide)
      rw [List.singleton_append, first] at split
      cases inner with
      | nil => exact absurd rfl tight.ne_nil
      | cons c inner =>
        cases (List.cons.inj split).1
        exact ⟨inner, rfl⟩
  obtain ⟨found, rfl⟩ := starts
  have same : reread settings front header = found := by simp [reread, split]
  have inked : ink found = ink header := by
    rw [ink_append, ink_append] at kept
    exact List.append_cancel_left kept
  have nonempty : found ≠ [] := by
    rintro rfl
    exact ends.ink_ne_nil inked.symm
  rw [same]
  exact ⟨by rw [split, List.append_assoc], tight.of_append nonempty, inked⟩

theorem reread_clean {settings : Settings} (positive : 1 ≤ settings.tabSize) {front header : Text}
    (isFront : front = [] ∨ front = [mark]) (clean : '\r' ∉ header) :
    '\r' ∉ reread settings front header := by
  have whole : '\r' ∉ front ++ header := by
    rcases isFront with rfl | rfl
    · exact clean
    · simpa [mark] using clean
  intro inside
  exact layout_clean positive whole (List.mem_of_mem_drop ((List.dropLast_prefix _).subset inside))

def remains (settings : Settings) (rest : Text) : Text :=
  if rest = [] then [] else gap settings ++ layout settings rest

theorem layout_spaced (settings : Settings) {front header rest : Text}
    (isFront : front = [] ∨ front = [mark]) (ends : EndsInInk header)
    (shape : rest = [] ∨ Opens rest) :
    layout settings (front ++ (header ++ '\n' :: spaced rest)) =
      front ++ (reread settings front header ++ '\n' :: remains settings rest) := by
  have whole := ends.append front
  have first := (reread_spec settings isFront ends).1
  rw [← List.append_assoc]
  cases rest with
  | nil =>
    rw [spaced, layout_newline settings whole, first]
    rfl
  | cons c rest =>
    have opens : Opens (c :: rest) := shape.resolve_left (by simp)
    rw [spaced, layout_append settings whole opens, first]
    simp [remains]

theorem ink_remains (settings : Settings) (rest : Text) :
    ink (remains settings rest) = ink rest := by
  unfold remains gap
  split
  · rename_i empty
    rw [empty]
  · rw [ink_append, ink_layout]
    split <;> simp

theorem remains_clean {settings : Settings} (positive : 1 ≤ settings.tabSize) {rest : Text}
    (clean : '\r' ∉ rest) : '\r' ∉ remains settings rest := by
  have below := layout_clean positive clean
  unfold remains gap
  split
  · simp
  · split
    · simpa using below
    · simpa using below

theorem dropBlankLines_remains (settings : Settings) {rest : Text}
    (shape : rest = [] ∨ Opens rest) :
    dropBlankLines (remains settings rest) = layout settings rest := by
  rcases shape with rfl | opens
  · rfl
  · have nonempty : rest ≠ [] := by
      rintro rfl
      obtain ⟨indent, d, more, whole, _⟩ := opens
      simp at whole
    have same := dropBlankLines_of_opens (layout_of_opens settings opens)
    unfold remains gap
    rw [if_neg nonempty]
    split
    · exact (dropBlankLines_newline _).trans same
    · exact same

/-- A line comment stands right below the header only where no blank line was kept. -/
theorem isComment_remains (settings : Settings) (rest : Text) :
    isComment (remains settings rest) = true ↔
      settings.blankLines < 1 ∧ isComment (layout settings rest) = true := by
  unfold remains gap
  by_cases empty : rest = []
  · simp [empty, layout_nil, isComment]
  · rw [if_neg empty]
    by_cases room : 1 ≤ settings.blankLines
    · have full : ¬ settings.blankLines < 1 := by omega
      simp [room, full, isComment]
    · simp [room, Int.not_le.mp room]

theorem head_headed_mark (header t : Text) : (headed header (mark :: t)).head? = some mark := by
  rw [headed, splitMark_mark]
  split <;> rfl

/-- A header in normal form that is not taken for a mark. -/
structure Normal (header : Text) : Prop where
  ends : EndsInInk header
  clean : '\r' ∉ header
  unmarked : header.head? ≠ some mark

theorem normal_normalize {header : Text} (visible : normalize header ≠ [])
    (unmarked : (normalize header).head? ≠ some mark) : Normal (normalize header) where
  ends := endsInInk_stripRight visible
  clean := normalize_clean header
  unmarked := unmarked

theorem not_newline_of_opens {t : Text} (opens : Opens t) (rest : Text) : t ≠ '\n' :: rest := by
  obtain ⟨indent, d, more, rfl, blank, _, _, plain⟩ := opens
  cases indent with
  | nil =>
    intro same
    exact plain (List.cons.inj same).1
  | cons c indent =>
    intro same
    have first := blank c (by simp)
    rw [(List.cons.inj same).1] at first
    exact absurd first (by decide)

theorem remains_eq_spaced_iff (settings : Settings) {rest : Text} (shape : rest = [] ∨ Opens rest) :
    remains settings rest = spaced rest ↔
      rest = [] ∨ 1 ≤ settings.blankLines ∧ layout settings rest = rest := by
  cases rest with
  | nil => simp [remains, spaced]
  | cons c rest =>
    have opens : Opens (c :: rest) := shape.resolve_left (by simp)
    have below := layout_of_opens settings opens
    by_cases room : 1 ≤ settings.blankLines
    · simp [remains, spaced, gap, room]
    · simp [remains, spaced, gap, room, not_newline_of_opens below]

section SecondRun

variable {settings : Settings} {header front rest : Text} (positive : 1 ≤ settings.tabSize)
  (normal : Normal header) (isFront : front = [] ∨ front = [mark]) (clean : '\r' ∉ rest)
  (shape : rest = [] ∨ Opens rest)

include positive normal isFront clean shape

/-- The header is read as it was written. Then it is carried, unless it runs into the text below,
and a blank line that went is not written again. -/
theorem headed_again_of_same (same : reread settings front header = header) :
    headed header (layout settings (front ++ (header ++ '\n' :: spaced rest))) =
        front ++ (header ++ '\n' :: spaced rest) ↔
      rest = [] ∨ 1 ≤ settings.blankLines ∧ layout settings rest = rest := by
  have unmarked : front = [] → (header ++ '\n' :: remains settings rest).head? ≠ some mark := by
    intro _
    rw [List.head?_append_of_ne_nil _ normal.ends.ne_nil]
    exact normal.unmarked
  have below := remains_clean positive clean
  rw [layout_spaced settings isFront normal.ends shape, same]
  by_cases carried : carries (header ++ '\n' :: remains settings rest) header = true
  · rw [headed_of_carries isFront unmarked carried, List.append_cancel_left_eq,
      List.append_cancel_left_eq, List.cons.injEq, remains_eq_spaced_iff settings shape]
    simp
  · -- The text below lost its blank line and its first comment.
    have merges : IsRegion header ∧ isComment header = true ∧
        isComment (remains settings rest) = true := by
      by_contra apart
      apply carried
      apply carries_self normal.ends normal.clean
      intro region comment
      simpa [region, comment] using apart
    obtain ⟨region, comment, more⟩ := merges
    have tight := ((isComment_remains settings rest).mp more).1
    have less := body_of_merge region normal.ends normal.clean comment more
    rw [ink_remains] at less
    rw [headed_of_not_carries isFront unmarked carried]
    constructor
    · intro stays
      have bodies : spaced (body (header ++ '\n' :: remains settings rest)) = spaced rest := by
        simpa using stays
      rw [spaced_injective bodies] at less
      exact absurd less (Nat.lt_irrefl _)
    · rintro (rfl | ⟨room, _⟩)
      · simp [remains, isComment] at more
      · omega

/-- The header is read as another one. Then it must be replaced by the one that was written, with
the same text below. -/
theorem headed_again_of_other (other : reread settings front header ≠ header) :
    headed header (layout settings (front ++ (header ++ '\n' :: spaced rest))) =
        front ++ (header ++ '\n' :: spaced rest) ↔
      IsRegion (reread settings front header) ∧ layout settings rest = rest ∧
        ¬ (settings.blankLines < 1 ∧ isComment (reread settings front header) = true ∧
          isComment rest = true) := by
  obtain ⟨_, tight, inked⟩ := reread_spec settings isFront normal.ends
  have solid := reread_clean positive isFront normal.clean
  have below := remains_clean positive clean
  have equal : (ink (reread settings front header)).length = (ink header).length := by rw [inked]
  rw [layout_spaced settings isFront normal.ends shape]
  generalize reread settings front header = found at *
  constructor
  · intro stays
    have unmarked : front = [] → (found ++ '\n' :: remains settings rest).head? ≠ some mark := by
      rintro rfl marked
      obtain ⟨more, starts⟩ : ∃ more, found ++ '\n' :: remains settings rest = mark :: more :=
        ⟨_, List.eq_cons_of_mem_head? marked⟩
      have first := head_headed_mark header more
      rw [← starts, ← List.nil_append (found ++ _), stays, List.nil_append,
        List.head?_append_of_ne_nil _ normal.ends.ne_nil] at first
      exact normal.unmarked first
    have replaced : carries (found ++ '\n' :: remains settings rest) header ≠ true := by
      intro carried
      rw [headed_of_carries isFront unmarked carried] at stays
      exact other (eq_of_equal_ink tight normal.ends equal (List.append_cancel_left stays))
    rw [headed_of_not_carries isFront unmarked replaced] at stays
    have bodies : body (found ++ '\n' :: remains settings rest) = rest :=
      spaced_injective (by simpa using stays)
    have region : IsRegion found := by
      by_contra none
      apply body_of_no_region (remains settings rest) none tight solid
      rw [bodies, ink_remains]
    have away : isComment found → isComment (remains settings rest) = false := by
      intro comment
      by_contra more
      have less := body_of_merge region tight solid comment (by simpa using more)
      rw [bodies, ink_remains] at less
      exact Nat.lt_irrefl _ less
    have settled : layout settings rest = rest := by
      rw [body_of_region region tight solid away, dropBlankLines_remains settings shape] at bodies
      exact bodies
    refine ⟨region, settled, ?_⟩
    rintro ⟨close, comment, next⟩
    have more := (isComment_remains settings rest).mpr ⟨close, by rw [settled, next]⟩
    rw [away comment] at more
    contradiction
  · rintro ⟨region, settled, apart⟩
    have unmarked : front = [] → (found ++ '\n' :: remains settings rest).head? ≠ some mark := by
      intro _
      rw [List.head?_append_of_ne_nil _ tight.ne_nil]
      rcases find_shape found with ⟨more, rfl⟩ | ⟨more, rfl⟩ | ⟨unfound, _⟩
      · simp [mark]
      · simp [mark]
      · simp [IsRegion, unfound] at region
    have away : isComment found → isComment (remains settings rest) = false := by
      intro comment
      by_contra more
      obtain ⟨close, next⟩ := (isComment_remains settings rest).mp (by simpa using more)
      exact apart ⟨close, comment, settled ▸ next⟩
    have replaced : carries (found ++ '\n' :: remains settings rest) header ≠ true := by
      intro carried
      exact other (eq_of_carries normal.ends tight solid below region away equal carried)
    rw [headed_of_not_carries isFront unmarked replaced, body_of_region region tight solid away,
      dropBlankLines_remains settings shape, settled]

end SecondRun

/-- The formatted text of a first run whose result is left alone by the second. Either the header
was there already, so the first run wrote nothing. Or it is laid out as itself, and so is the text
below it, with the blank line between them, if there is one. Or it is laid out as another comment
region, which does not run into the text below, and that text is laid out as itself. -/
def Steady (settings : Settings) (header formatted : Text) : Prop :=
  let front := (splitMark formatted).1
  let rest := body (splitMark formatted).2
  let found := reread settings front header
  carries (splitMark formatted).2 header = true ∨
    found = header ∧ (rest = [] ∨ 1 ≤ settings.blankLines ∧ layout settings rest = rest) ∨
    found ≠ header ∧ IsRegion found ∧ layout settings rest = rest ∧
      ¬ (settings.blankLines < 1 ∧ isComment found = true ∧ isComment rest = true)

instance (settings : Settings) (header formatted : Text) :
    Decidable (Steady settings header formatted) := by
  unfold Steady
  infer_instance

theorem headed_clean {header t : Text} (normal : Normal header) (clean : '\r' ∉ t) :
    '\r' ∉ headed header t := by
  obtain ⟨whole, _⟩ := splitMark_spec t
  rw [whole] at clean
  simp only [List.mem_append, not_or] at clean
  have below : '\r' ∉ spaced (body (splitMark t).2) := by
    intro inside
    have member : '\r' ∈ body (splitMark t).2 := by
      cases rest : body (splitMark t).2 with
      | nil => simp [rest, spaced] at inside
      | cons c more => simpa [rest, spaced] using inside
    exact clean.2 ((body_suffix _).subset member)
  unfold headed
  split
  · rw [whole]
    simp [clean]
  · simp [clean, normal.clean, below]

theorem headed_again_iff {settings : Settings} (positive : 1 ≤ settings.tabSize)
    {header source : Text} (normal : Normal header) (clean : '\r' ∉ source) :
    headed header (layout settings (headed header (layout settings source))) =
        headed header (layout settings source) ↔
      Steady settings header (layout settings source) := by
  have formatted := layout_clean positive clean
  have complete := layout_complete settings source
  have again := layout_layout positive source
  generalize layout settings source = s at *
  obtain ⟨whole, isFront⟩ := splitMark_spec s
  by_cases carried : carries (splitMark s).2 header = true
  · have kept : headed header s = s := by rw [headed, if_pos carried]
    rw [kept, again, kept]
    exact iff_of_true rfl (.inl carried)
  · have wrote : headed header s =
        (splitMark s).1 ++ (header ++ '\n' :: spaced (body (splitMark s).2)) := by
      rw [headed, if_neg carried]
    have below : '\r' ∉ body (splitMark s).2 := by
      intro inside
      rw [whole] at formatted
      exact formatted (List.mem_append_right _ ((body_suffix _).subset inside))
    have shape := body_opens (splitMark_complete complete)
    rw [wrote, Steady]
    by_cases same : reread settings (splitMark s).1 header = header
    · rw [headed_again_of_same positive normal isFront below shape same]
      simp [carried, same]
    · rw [headed_again_of_other positive normal isFront below shape same]
      simp [carried, same]

theorem normalizeBreaks_inj {s : LineSeparator} {a b : Text} (left : '\r' ∉ a) (right : '\r' ∉ b)
    (same : normalizeBreaks s a = normalizeBreaks s b) : a = b := by
  have canonical := congrArg canonicalBreaks same
  rwa [canonicalBreaks_normalizeBreaks, canonicalBreaks_normalizeBreaks,
    canonicalBreaks_of_clean left, canonicalBreaks_of_clean right] at canonical

/-- A second run gives the bytes of the first one exactly if the text that the first run formatted
is steady. -/
theorem apply_again_iff (parser : Parser) (settings : Settings) (config : Configuration)
    (header : Text) (content bytes : Bytes) (plain : parser.Plain) (positive : 1 ≤ settings.tabSize)
    (encoded : config.encoding = "utf-8".toList)
    (unlevelled : effectiveLevel settings config.sourceLevel = none)
    (configured : config.header = some header) (visible : normalize header ≠ [])
    (unmarked : (normalize header).head? ≠ some mark)
    (done : (Pipeline.apply (.ofName Charset.codecs config.encoding) config
      [formatter parser settings] content).result =
      .ok bytes) :
    ∃ text formatted, Utf8.decode content = .ok text ∧
      (format parser settings Rule.all config.sourceLevel text).result = .ok formatted ∧
      ((Pipeline.apply (.ofName Charset.codecs config.encoding) config
        [formatter parser settings] bytes).result =
          .ok bytes ↔
        Steady settings (normalize header) formatted) := by
  have normal := normal_normalize visible unmarked
  have nonempty : header ≠ [] := by
    rintro rfl
    exact visible rfl
  cases read : Utf8.decode content with
  | error fault =>
    have failed : (Conversion.ofName Charset.codecs config.encoding).decode content =
        .error (.file (.undecodable "utf-8".toList fault) none) := by
      rw [encoded, Utf8.ofName_decode, read]
      rfl
    simp [Pipeline.apply, failed] at done
  | ok text =>
    have clean := canonicalBreaks_clean text
    have run {content : Bytes} {text : Text} (read : Utf8.decode content = .ok text) :=
      apply_plain plain positive encoded unlevelled read
    refine ⟨text, _, rfl, format_plain plain positive unlevelled text, ?_⟩
    rw [run read, finish_header configured nonempty, insert_eq_headed visible] at done
    have first := headed_clean normal (layout_clean positive clean)
    cases Except.ok.inj done
    rw [run (Utf8.decode_encode _), finish_header configured nonempty, insert_eq_headed visible,
      canonicalBreaks_normalizeBreaks, canonicalBreaks_of_clean first,
      ← headed_again_iff positive normal clean]
    constructor
    · intro same
      have second := headed_clean normal (layout_clean positive first)
      exact normalizeBreaks_inj second first (Utf8.encode_injective (Except.ok.inj same))
    · intro same
      rw [same]

/-- A header that replaces a comment with code behind it. The code becomes a line of its own, with
an indentation that only the second run sees. -/
def replacing : Configuration := { header := some "/* new */".toList }

def inlineSource : Text := "/* old */     class A \x7b\x7d\n".toList

def inlineResult : Text := "/* new */\n\n     class A \x7b\x7d\n".toList

theorem apply_again_iff_inline :
    (Pipeline.apply (.ofName Charset.codecs replacing.encoding) replacing
      [formatter (fun _ _ => bare) {}] (Utf8.encode inlineSource)).result =
        .ok (Utf8.encode inlineResult) ∧
    (Pipeline.apply (.ofName Charset.codecs replacing.encoding) replacing
      [formatter (fun _ _ => bare) {}] (Utf8.encode inlineResult)).result ≠ .ok
      (Utf8.encode inlineResult) := by
  have done : (Pipeline.apply (.ofName Charset.codecs replacing.encoding) replacing
    [formatter (fun _ _ => bare) {}]
      (Utf8.encode inlineSource)).result = .ok (Utf8.encode inlineResult) := by
    rw [apply_plain plain_bare (by decide) rfl rfl (Utf8.decode_encode _)]
    cbv
  obtain ⟨text, formatted, read, laid, iff⟩ := apply_again_iff (fun _ _ => bare) {} replacing _ _ _
    plain_bare (by decide) rfl rfl rfl (by decide) (by decide) done
  refine ⟨done, fun same => ?_⟩
  rw [Utf8.decode_encode] at read
  cases Except.ok.inj read
  rw [format_plain plain_bare (by decide) rfl] at laid
  cases Except.ok.inj laid
  exact absurd (iff.mp same) (by decide)

end SourceTidy.Java
