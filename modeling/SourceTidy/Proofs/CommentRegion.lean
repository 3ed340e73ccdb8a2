import SourceTidy.Header
import SourceTidy.Proofs.Lines

/-!
Comment regions at the top of a text, and the blank lines after them.

What a pass over white space must not lose is the ink of a text, its characters that are no white
space. Two texts of equal ink that both end in ink cannot be proper starts of one another, which is
how headers are told apart below.
-/
namespace SourceTidy.Text

/-- The characters of a text that are no white space. -/
def ink (t : Text) : Text :=
  t.filter fun c => !isSpace c

@[simp] theorem ink_nil : ink [] = [] := rfl

@[simp] theorem ink_append (s t : Text) : ink (s ++ t) = ink s ++ ink t := by
  simp [ink]

theorem ink_of_space {t : Text} (all : ∀ c ∈ t, isSpace c) : ink t = [] := by
  simpa [ink] using all

@[simp] theorem ink_newline (t : Text) : ink ('\n' :: t) = ink t := by
  have space : isSpace '\n' = true := by decide
  simp [ink, space]

theorem isSpace_of_blank {c : Char} (blank : isBlank c) : isSpace c := by
  simp only [isBlank, Bool.or_eq_true, decide_eq_true_eq] at blank
  rcases blank with rfl | rfl <;> decide

theorem ink_of_blank {t : Text} (all : ∀ c ∈ t, isBlank c) : ink t = [] :=
  ink_of_space fun c member => isSpace_of_blank (all c member)

theorem ink_trimRight {p : Char → Bool} (blank : ∀ c, p c → isSpace c) (t : Text) :
    ink (trimRight p t) = ink t := by
  obtain ⟨rest, all, whole⟩ := trimRight_append_rest p t
  have gone : ink rest = [] := ink_of_space fun c member => blank c (all c member)
  calc ink (trimRight p t)
    _ = ink (trimRight p t ++ rest) := by rw [ink_append, gone, List.append_nil]
    _ = ink t := by rw [whole]

theorem ink_stripRight (t : Text) : ink (stripRight t) = ink t :=
  ink_trimRight (fun _ h => h) t

def EndsInInk (t : Text) : Prop :=
  ∃ start c, t = start ++ [c] ∧ ¬ isSpace c

theorem EndsInInk.ne_nil {t : Text} (ends : EndsInInk t) : t ≠ [] := by
  obtain ⟨start, c, rfl, _⟩ := ends
  simp

theorem EndsInInk.of_append {s t : Text} (ends : EndsInInk (s ++ t)) (more : t ≠ []) :
    EndsInInk t := by
  obtain ⟨start, c, whole, solid⟩ := ends
  obtain ⟨front, d, rfl⟩ := (List.eq_nil_or_concat' t).resolve_left more
  rw [← List.append_assoc] at whole
  obtain ⟨_, same⟩ := List.append_inj' whole rfl
  cases same
  exact ⟨front, c, rfl, solid⟩

theorem EndsInInk.append (s : Text) {t : Text} (ends : EndsInInk t) : EndsInInk (s ++ t) := by
  obtain ⟨start, c, rfl, solid⟩ := ends
  exact ⟨s ++ start, c, by simp, solid⟩

theorem EndsInInk.ink_ne_nil {t : Text} (ends : EndsInInk t) : ink t ≠ [] := by
  obtain ⟨start, c, rfl, solid⟩ := ends
  simp [ink, solid]

theorem EndsInInk.stripRight {t : Text} (ends : EndsInInk t) : Text.stripRight t = t := by
  obtain ⟨start, c, rfl, solid⟩ := ends
  exact trimRight_of_last solid

theorem endsInInk_stripRight {t : Text} (nonempty : Text.stripRight t ≠ []) :
    EndsInInk (Text.stripRight t) := by
  refine ⟨(Text.stripRight t).dropLast, (Text.stripRight t).getLast nonempty, ?_, ?_⟩
  · exact (List.dropLast_append_getLast nonempty).symm
  · exact List.rdropWhile_last_not isSpace t nonempty

theorem lines_of_endsInInk {t : Text} (ends : EndsInInk t) :
    ∃ front last c, lines t = front ++ [last ++ [c]] ∧ ¬ isSpace c := by
  obtain ⟨start, c, rfl, solid⟩ := ends
  rcases List.eq_nil_or_concat' (lines start) with empty | ⟨front, last, split⟩
  · exact absurd empty (lines_ne_nil start)
  · have inner : c ≠ '\n' := by
      rintro rfl
      exact solid (by decide)
    exact ⟨front, last, c, lines_concat inner split, solid⟩

/-- Starts of one text that have equal ink and end in it are the same. -/
theorem eq_of_equal_ink {a b x y : Text} (left : EndsInInk a) (right : EndsInInk b)
    (equal : (ink a).length = (ink b).length) (whole : a ++ x = b ++ y) : a = b := by
  rcases List.append_eq_append_iff.mp whole with ⟨z, rfl, _⟩ | ⟨z, rfl, _⟩
  · by_contra differ
    have more : z ≠ [] := by
      rintro rfl
      simp at differ
    have solid := (right.of_append more).ink_ne_nil
    simp only [ink_append, List.length_append] at equal
    exact solid (List.length_eq_zero_iff.mp (by omega))
  · by_contra differ
    have more : z ≠ [] := by
      rintro rfl
      simp at differ
    have solid := (left.of_append more).ink_ne_nil
    simp only [ink_append, List.length_append] at equal
    exact solid (List.length_eq_zero_iff.mp (by omega))

end SourceTidy.Text

namespace SourceTidy.Header

open Text

/- Blank lines. `start` of the definition is the text from the line being read, so it is what was
read of that line, which is blank, before what is left. -/

/-- The first line has a character that is no blank. -/
def Opens (t : Text) : Prop :=
  ∃ indent d rest, t = indent ++ d :: rest ∧ (∀ c ∈ indent, isBlank c) ∧
    ¬ isBlank d ∧ d ≠ '\r' ∧ d ≠ '\n'

theorem isSpace_of_break {c : Char} (brk : c = '\r' ∨ c = '\n') : isSpace c := by
  rcases brk with rfl | rfl <;> decide

def IsBlankLine (line : Text) : Prop :=
  ∃ indent, ∃ s : LineSeparator, (∀ c ∈ indent, isBlank c) ∧ line = indent ++ s.sequence

inductive BlankBlock : Text → Prop
  | nil : BlankBlock []
  | cons {line rest : Text} (first : IsBlankLine line) (others : BlankBlock rest) :
      BlankBlock (line ++ rest)

theorem isSpace_of_sequence {s : LineSeparator} {c : Char} (member : c ∈ s.sequence) :
    isSpace c := by
  apply isSpace_of_break
  cases s with
  | lf => exact .inr (List.mem_singleton.mp member)
  | cr => exact .inl (List.mem_singleton.mp member)
  | crlf => simpa [LineSeparator.sequence] using member

theorem IsBlankLine.isSpace {line : Text} (blank : IsBlankLine line) : ∀ c ∈ line, isSpace c := by
  obtain ⟨indent, s, all, rfl⟩ := blank
  intro c member
  rcases List.mem_append.mp member with member | member
  · exact isSpace_of_blank (all c member)
  · exact isSpace_of_sequence member

theorem BlankBlock.isSpace {block : Text} (blank : BlankBlock block) : ∀ c ∈ block, isSpace c := by
  induction blank with
  | nil => simp
  | cons first _ ih =>
    intro c member
    rcases List.mem_append.mp member with member | member
    · exact first.isSpace c member
    · exact ih c member

theorem BlankBlock.append {block more : Text} (blank : BlankBlock block) (below : BlankBlock more) :
    BlankBlock (block ++ more) := by
  induction blank with
  | nil => exact below
  | cons first _ ih =>
    rw [List.append_assoc]
    exact .cons first ih

theorem dropBlankLinesFrom_split (start t read : Text) (split : start = read ++ t)
    (blank : ∀ c ∈ read, isBlank c) :
    ∃ gone, BlankBlock gone ∧ start = gone ++ dropBlankLinesFrom start t := by
  fun_induction dropBlankLinesFrom start t generalizing read with
  | case1 start rest ih =>
    obtain ⟨gone, block, whole⟩ := ih [] rfl (by simp)
    refine ⟨(read ++ ['\r', '\n']) ++ gone, .cons ⟨read, .crlf, blank, rfl⟩ block, ?_⟩
    rw [List.append_assoc, ← whole, split, List.append_assoc]
    rfl
  | case2 start c rest _ brk ih =>
    obtain ⟨gone, block, whole⟩ := ih [] rfl (by simp)
    have ended : IsBlankLine (read ++ [c]) := by
      have feed : c = '\r' ∨ c = '\n' := by simpa using brk
      rcases feed with rfl | rfl
      · exact ⟨read, .cr, blank, rfl⟩
      · exact ⟨read, .lf, blank, rfl⟩
    refine ⟨(read ++ [c]) ++ gone, .cons ended block, ?_⟩
    rw [List.append_assoc, ← whole, split, List.append_assoc]
    rfl
  | case3 start c rest _ _ inner ih =>
    apply ih (read ++ [c]) (by simp [split])
    intro d member
    rcases List.mem_append.mp member with member | member
    · exact blank d member
    · rw [List.mem_singleton.mp member]
      exact inner
  | case4 start c rest _ _ _ => exact ⟨[], .nil, rfl⟩
  | case5 start => exact ⟨[], .nil, rfl⟩

theorem dropBlankLines_split (t : Text) : ∃ gone, BlankBlock gone ∧ t = gone ++ dropBlankLines t :=
  dropBlankLinesFrom_split t t [] rfl (by simp)

theorem ink_dropBlankLines (t : Text) : ink (dropBlankLines t) = ink t := by
  obtain ⟨gone, block, whole⟩ := dropBlankLines_split t
  have same := congrArg ink whole
  rw [ink_append, ink_of_space block.isSpace] at same
  exact same.symm

theorem dropBlankLines_newline (t : Text) : dropBlankLines ('\n' :: t) = dropBlankLines t :=
  rfl

theorem dropBlankLinesFrom_blank (start : Text) {l : Text} (rest : Text)
    (blank : ∀ c ∈ l, isBlank c) :
    dropBlankLinesFrom start (l ++ rest) = dropBlankLinesFrom start rest := by
  induction l with
  | nil => rfl
  | cons c l ih =>
    have first : isBlank c := blank c (by simp)
    have apart : c ≠ '\r' ∧ c ≠ '\n' := ⟨blank_ne_return first, blank_ne_newline first⟩
    rw [List.cons_append, dropBlankLinesFrom]
    · simp only [apart, decide_false, Bool.or_self, Bool.false_eq_true, if_false, first, if_true]
      exact ih fun d member => blank d (by simp [member])
    · simp [apart]

theorem dropBlankLines_line {line : Text} (rest : Text) (blank : IsBlankLine line) :
    dropBlankLines (line ++ rest) = dropBlankLines rest := by
  obtain ⟨indent, s, all, rfl⟩ := blank
  rw [List.append_assoc, dropBlankLines, dropBlankLinesFrom_blank _ _ all]
  cases s with
  | lf => rfl
  | crlf => rfl
  | cr =>
    -- A line feed after a lone return is read with it, and is a blank line by itself.
    by_cases pair : rest.head? = some '\n'
    · obtain ⟨more, rfl⟩ := List.head?_eq_some_iff.mp pair
      rfl
    · have lone (more : Text) : rest ≠ '\n' :: more := by
        rintro rfl
        exact pair rfl
      rw [LineSeparator.sequence, List.singleton_append, dropBlankLinesFrom]
      · simp [dropBlankLines]
      · simpa using lone

theorem BlankBlock.dropBlankLines {block : Text} (rest : Text) (blank : BlankBlock block) :
    Header.dropBlankLines (block ++ rest) = Header.dropBlankLines rest := by
  induction blank with
  | nil => rfl
  | cons first _ ih => rw [List.append_assoc, dropBlankLines_line _ first, ih]

theorem dropBlankLinesFrom_of_opens {start t : Text} (opens : Opens t) :
    dropBlankLinesFrom start t = start := by
  obtain ⟨indent, d, rest, rfl, blank, solid, inner, plain⟩ := opens
  rw [dropBlankLinesFrom_blank start _ blank, dropBlankLinesFrom]
  · simp [inner, plain, solid]
  · simp [inner]

theorem dropBlankLines_of_opens {t : Text} (opens : Opens t) : dropBlankLines t = t :=
  dropBlankLinesFrom_of_opens opens

/-- In a text of complete lines, what follows the blank ones is nothing or a line that is not. -/
theorem dropBlankLinesFrom_opens (start t read : Text) (split : start = read ++ t)
    (blank : ∀ c ∈ read, isBlank c)
    (complete : (read = [] ∧ t = []) ∨ ∃ front, t = front ++ ['\n']) :
    dropBlankLinesFrom start t = [] ∨ Opens (dropBlankLinesFrom start t) := by
  have tail {c : Char} {rest : Text} (ends : ∃ front, c :: rest = front ++ ['\n']) :
      rest = [] ∧ c = '\n' ∨ ∃ front, rest = front ++ ['\n'] := by
    obtain ⟨front, whole⟩ := ends
    cases front with
    | nil =>
      cases whole
      exact .inl ⟨rfl, rfl⟩
    | cons d front => exact .inr ⟨front, (List.cons.inj whole).2⟩
  fun_induction dropBlankLinesFrom start t generalizing read with
  | case1 start rest ih =>
    refine ih [] rfl (by simp) ?_
    rcases tail (complete.resolve_left (by simp)) with ⟨h, _⟩ | ends
    · simp at h
    · rcases tail ends with ⟨h, _⟩ | ends
      · exact .inl ⟨rfl, h⟩
      · exact .inr ends
  | case2 start c rest _ _ ih =>
    refine ih [] rfl (by simp) ?_
    rcases tail (complete.resolve_left (by simp)) with ⟨h, _⟩ | ends
    · exact .inl ⟨rfl, h⟩
    · exact .inr ends
  | case3 start c rest _ plain inner ih =>
    refine ih (read ++ [c]) (by simp [split]) ?_ ?_
    · intro d member
      rcases List.mem_append.mp member with member | member
      · exact blank d member
      · rw [List.mem_singleton.mp member]
        exact inner
    · rcases tail (complete.resolve_left (by simp)) with ⟨_, rfl⟩ | ends
      · simp at plain
      · exact .inr ends
  | case4 start c rest _ plain solid =>
    have apart : c ≠ '\r' ∧ c ≠ '\n' := by simpa using plain
    exact .inr ⟨read, c, rest, split, blank, solid, apart.1, apart.2⟩
  | case5 start =>
    rcases complete with ⟨rfl, _⟩ | ⟨front, h⟩
    · exact .inl (by simpa using split)
    · simp at h

/- Block comments. -/

theorem throughClose_cons {c : Char} {rest : Text} (apart : c = '*' → rest.head? ≠ some '/') :
    throughClose (c :: rest) = (throughClose rest).map (c :: ·) := by
  rw [throughClose]
  rintro more rfl rfl
  exact apart rfl rfl

/-- The end of a comment is never cut by a line break, so it lies in one line. -/
theorem throughClose_line (l rest : Text) :
    throughClose (l ++ '\n' :: rest) =
      match throughClose l with
      | some region => some region
      | none => (throughClose rest).map (l ++ '\n' :: ·) := by
  fun_induction throughClose l with
  | case1 =>
    rw [List.nil_append, throughClose_cons fun star => absurd star (by decide)]
    rfl
  | case2 more => rfl
  | case3 c more single ih =>
    have apart : c = '*' → (more ++ '\n' :: rest).head? ≠ some '/' := by
      rintro rfl
      cases more with
      | nil => simp
      | cons d more => simpa using fun e => single more rfl (by rw [e])
    rw [List.cons_append, throughClose_cons apart, ih]
    cases throughClose more with
    | none => simp [Function.comp_def]
    | some region => rfl

theorem throughClose_append {t region : Text} (rest : Text) (found : throughClose t = some region) :
    throughClose (t ++ rest) = some region := by
  fun_induction throughClose t generalizing region with
  | case1 => contradiction
  | case2 more => exact found
  | case3 c more single ih =>
    obtain ⟨inner, inside, rfl⟩ := Option.map_eq_some_iff.mp found
    have apart : c = '*' → (more ++ rest).head? ≠ some '/' := by
      rintro rfl
      cases more with
      | nil => simp [throughClose] at inside
      | cons d more => simpa using fun e => single more rfl (by rw [e])
    rw [List.cons_append, throughClose_cons apart, ih inside]
    rfl

theorem throughClose_split {t region : Text} (found : throughClose t = some region) :
    ∃ front rest, region = front ++ ['*', '/'] ∧ t = region ++ rest := by
  fun_induction throughClose t generalizing region with
  | case1 => contradiction
  | case2 more =>
    cases Option.some.inj found
    exact ⟨[], more, rfl, rfl⟩
  | case3 c more single ih =>
    obtain ⟨inner, inside, rfl⟩ := Option.map_eq_some_iff.mp found
    obtain ⟨front, rest, ends, whole⟩ := ih inside
    exact ⟨c :: front, rest, by simp [ends], by simp [← whole]⟩

/- Line comments. A run of them is read line by line. -/

def isComment (line : Text) : Bool :=
  ['/', '/'].isPrefixOf line

theorem commentLines_inner {c : Char} (rest : Text) (inner : c ≠ '\r') (plain : c ≠ '\n') :
    commentLines true (c :: rest) = c :: commentLines true rest := by
  have stays : (c != '\r' && c != '\n') = true := by simp [inner, plain]
  induction rest generalizing c with
  | nil => simp [commentLines]
  | cons d rest ih =>
    by_cases slashes : c = '/' ∧ d = '/'
    · obtain ⟨rfl, rfl⟩ := slashes
      rw [commentLines, ih (by decide) (by decide) (by decide)]
    · rw [commentLines, stays]
      · rfl
      · simp [inner]
      · rintro more rfl h
        exact slashes ⟨rfl, (List.cons.inj h).1⟩

theorem commentLines_inside {l : Text} (rest : Text) (clean : '\r' ∉ l) (free : '\n' ∉ l) :
    commentLines true (l ++ rest) = l ++ commentLines true rest := by
  induction l with
  | nil => rfl
  | cons c l ih =>
    simp only [List.mem_cons, not_or] at clean free
    rw [List.cons_append, commentLines_inner _ (Ne.symm clean.1) (Ne.symm free.1),
      ih clean.2 free.2, List.cons_append]

theorem commentLines_break (brk : LineSeparator) {rest : Text}
    (whole : brk = .cr → rest.head? ≠ some '\n') :
    commentLines true (brk.sequence ++ rest) = brk.sequence ++ commentLines false rest := by
  cases brk with
  | lf => rfl
  | crlf => rfl
  | cr =>
    have lone := whole rfl
    rw [LineSeparator.sequence, List.singleton_append, commentLines]
    · simp
    · rintro more _ rfl
      exact lone rfl
    · simp

theorem commentLines_stop {t : Text} (other : isComment t = false) : commentLines false t = [] := by
  unfold commentLines
  split
  · rfl
  · rfl
  · simp [isComment] at other
  · rfl

theorem commentLines_slashes (t : Text) :
    commentLines false ('/' :: '/' :: t) = '/' :: '/' :: commentLines true t :=
  rfl

theorem isComment_iff {t : Text} : isComment t = true ↔ ∃ rest, t = '/' :: '/' :: rest := by
  constructor
  · intro h
    obtain ⟨rest, whole⟩ := List.isPrefixOf_iff_prefix.mp h
    exact ⟨rest, whole.symm⟩
  · rintro ⟨rest, rfl⟩
    rfl

theorem commentLines_next {l rest : Text} (brk : LineSeparator) (comment : isComment l)
    (clean : '\r' ∉ l) (free : '\n' ∉ l) (whole : brk = .cr → rest.head? ≠ some '\n') :
    commentLines false (l ++ (brk.sequence ++ rest)) =
      l ++ (brk.sequence ++ commentLines false rest) := by
  obtain ⟨more, rfl⟩ := isComment_iff.mp comment
  simp only [List.mem_cons, not_or] at clean free
  rw [List.cons_append, List.cons_append, commentLines_slashes,
    commentLines_inside _ clean.2.2 free.2.2, commentLines_break brk whole]
  rfl

theorem commentLines_comment {l : Text} (rest : Text) (comment : isComment l) (clean : '\r' ∉ l)
    (free : '\n' ∉ l) :
    commentLines false (l ++ '\n' :: rest) = l ++ '\n' :: commentLines false rest :=
  commentLines_next .lf comment clean free (by simp)

theorem commentLines_only {l : Text} (comment : isComment l) (clean : '\r' ∉ l) (free : '\n' ∉ l) :
    commentLines false l = l := by
  obtain ⟨more, rfl⟩ := isComment_iff.mp comment
  simp only [List.mem_cons, not_or] at clean free
  have through : commentLines true more = more := by
    have read := commentLines_inside [] clean.2.2 free.2.2
    have ended : commentLines true [] = [] := rfl
    rwa [ended, List.append_nil] at read
  rw [commentLines_slashes, through]

theorem commentLines_run {ls : List Text} (nonempty : ls ≠ []) (rest : Text)
    (comments : ∀ l ∈ ls, isComment l) (clean : ∀ l ∈ ls, '\r' ∉ l) (free : ∀ l ∈ ls, '\n' ∉ l) :
    commentLines false (unlines ls ++ '\n' :: rest) =
      unlines ls ++ '\n' :: commentLines false rest := by
  induction ls with
  | nil => contradiction
  | cons l ls ih =>
    have first := commentLines_comment (l := l)
    cases ls with
    | nil =>
      rw [unlines_singleton]
      exact first rest (comments l (by simp)) (clean l (by simp)) (free l (by simp))
    | cons k ls =>
      have tail := ih (by simp) (fun m member => comments m (by simp [member]))
        (fun m member => clean m (by simp [member])) (fun m member => free m (by simp [member]))
      rw [unlines_cons l (by simp), List.append_assoc, List.cons_append,
        first _ (comments l (by simp)) (clean l (by simp)) (free l (by simp)), tail]
      simp

theorem commentLines_start (inside : Bool) (t : Text) : commentLines inside t <+: t := by
  fun_induction commentLines inside t with
  | case1 => exact List.prefix_refl []
  | case2 rest ih => exact (List.prefix_cons_inj _).mpr ((List.prefix_cons_inj _).mpr ih)
  | case3 => exact List.nil_prefix
  | case4 inside rest ih => exact (List.prefix_cons_inj _).mpr ((List.prefix_cons_inj _).mpr ih)
  | case5 c rest _ _ ih => exact (List.prefix_cons_inj _).mpr ih
  | case6 => exact List.nil_prefix

/-- A reading that stopped inside a text stops there with any further lines below, too. -/
theorem commentLines_stopped {inside : Bool} {t : Text} (rest : Text) (clean : '\r' ∉ t)
    (stopped : commentLines inside t ≠ t) :
    commentLines inside (t ++ '\n' :: rest) = commentLines inside t := by
  fun_induction commentLines inside t with
  | case1 => contradiction
  | case2 more ih => simp at clean
  | case3 => simp at clean
  | case4 inside more ih =>
    rw [List.cons_append, List.cons_append, commentLines, ih (fun h => clean (by simp [h]))]
    intro same
    exact stopped (by rw [same])
  | case5 c more single pair ih =>
    have inner : c ≠ '\r' := fun h => clean (by simp [h])
    rw [List.cons_append, commentLines]
    · rw [if_pos rfl, ih (fun h => clean (by simp [h]))]
      intro same
      exact stopped (by rw [same])
    · intro tail h
      exact absurd h inner
    · intro tail first h
      cases more with
      | nil => cases h
      | cons d more => exact pair more first (by rw [(List.cons.inj h).1])
  | case6 inside c more single pair outside =>
    have inner : c ≠ '\r' := fun h => clean (by simp [h])
    rw [List.cons_append, commentLines]
    · rw [if_neg outside]
    · intro tail h
      exact absurd h inner
    · intro tail first h
      cases more with
      | nil => cases h
      | cons d more => exact pair more first (by rw [(List.cons.inj h).1])

theorem isComment_break (l : Text) (brk : LineSeparator) (rest : Text) :
    isComment (l ++ (brk.sequence ++ rest)) = isComment l := by
  match l with
  | [] => cases brk <;> rfl
  | [c] => cases brk <;> simp [isComment, List.isPrefixOf, LineSeparator.sequence]
  | c :: d :: l => simp [isComment, List.isPrefixOf]

theorem isComment_line (l rest : Text) : isComment (l ++ '\n' :: rest) = isComment l :=
  isComment_break l .lf rest

/-- A text that is read through and does not end in a break is made of comment lines. -/
theorem comments_of_commentLines {ls : List Text} (nonempty : ls ≠ [])
    (last : ls.getLast nonempty ≠ []) (clean : ∀ l ∈ ls, '\r' ∉ l) (free : ∀ l ∈ ls, '\n' ∉ l)
    (through : commentLines false (unlines ls) = unlines ls) : ∀ l ∈ ls, isComment l := by
  induction ls with
  | nil => contradiction
  | cons l ls ih =>
    cases ls with
    | nil =>
      rw [unlines_singleton] at through
      have comment : isComment l := by
        by_contra other
        rw [commentLines_stop (by simpa using other)] at through
        exact last through.symm
      simpa using comment
    | cons k ls =>
      rw [unlines_cons l (by simp)] at through
      have comment : isComment l := by
        by_contra other
        rw [commentLines_stop (by simpa [isComment_line] using other)] at through
        simp at through
      rw [commentLines_comment _ comment (clean l (by simp)) (free l (by simp))] at through
      have tail := ih (by simp) (by simpa using last) (fun m member => clean m (by simp [member]))
        (fun m member => free m (by simp [member]))
        (List.cons.inj (List.append_cancel_left through)).2
      intro m member
      rcases List.mem_cons.mp member with rfl | member
      · exact comment
      · exact tail m member

/- Regions. A text opens a block comment, opens a line comment, or has no region. -/

theorem find_block (t : Text) :
    find? ('/' :: '*' :: t) = (throughClose t).map ('/' :: '*' :: ·) := by
  rw [find?]

theorem find_comment (t : Text) :
    find? ('/' :: '/' :: t) = some (commentLines false ('/' :: '/' :: t)) := by
  rw [find?]

theorem find_shape (t : Text) :
    (∃ rest, t = '/' :: '*' :: rest) ∨ (∃ rest, t = '/' :: '/' :: rest) ∨
      (find? t = none ∧ ∀ rest, find? (t ++ '\n' :: rest) = none) := by
  match t with
  | [] => exact .inr (.inr ⟨rfl, fun rest => by simp [find?]⟩)
  | [c] =>
    refine .inr (.inr ⟨by simp [find?], fun rest => ?_⟩)
    rw [List.cons_append, List.nil_append, find?]
    · simp
    · simp
  | c :: d :: t =>
    by_cases block : c = '/' ∧ d = '*'
    · obtain ⟨rfl, rfl⟩ := block
      exact .inl ⟨t, rfl⟩
    · by_cases comment : c = '/' ∧ d = '/'
      · obtain ⟨rfl, rfl⟩ := comment
        exact .inr (.inl ⟨t, rfl⟩)
      · have unfound (more : Text) : find? (c :: d :: more) = none := by
          rw [find?]
          · intro rest same
            cases same
            exact block ⟨rfl, rfl⟩
          · intro rest same
            cases same
            exact comment ⟨rfl, rfl⟩
        exact .inr (.inr ⟨unfound t, fun rest => unfound (t ++ '\n' :: rest)⟩)

theorem find_start {t region : Text} (found : find? t = some region) :
    ∃ rest, t = region ++ rest := by
  rcases find_shape t with ⟨more, rfl⟩ | ⟨more, rfl⟩ | ⟨unfound, _⟩
  · rw [find_block] at found
    obtain ⟨inner, inside, rfl⟩ := Option.map_eq_some_iff.mp found
    obtain ⟨_, rest, _, rfl⟩ := throughClose_split inside
    exact ⟨rest, rfl⟩
  · rw [find_comment] at found
    cases Option.some.inj found
    obtain ⟨rest, whole⟩ := commentLines_start false ('/' :: '/' :: more)
    exact ⟨rest, whole.symm⟩
  · simp [unfound] at found

theorem body_of_find {t region rest : Text} (found : find? t = some region)
    (whole : t = region ++ rest) :
    body t = dropBlankLines rest := by
  rw [body, found, Option.getD_some]
  conv => lhs; rw [whole]
  rw [List.drop_left]

theorem body_of_none {t : Text} (unfound : find? t = none) : body t = dropBlankLines t := by
  rw [body, unfound]
  rfl

theorem clean_lines {t : Text} (clean : '\r' ∉ t) : ∀ l ∈ lines t, '\r' ∉ l :=
  fun _ found inside => clean (mem_of_mem_lines found inside)

theorem last_line_of_endsInInk {t : Text} (ends : EndsInInk t) :
    (lines t).getLast (lines_ne_nil t) ≠ [] := by
  obtain ⟨front, last, c, split, _⟩ := lines_of_endsInInk ends
  simp [split]

end SourceTidy.Header
