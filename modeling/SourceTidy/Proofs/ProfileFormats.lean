import SourceTidy.Java.Profile
import SourceTidy.Proofs.FileFaults
import SourceTidy.Proofs.Lines
import SourceTidy.Proofs.Utf8

/-!
The two formats of profiles agree.

A file of preferences is described by how it is written: lines that carry a setting or none, and a
break of any kind after each but perhaps the last. Read back, it gives the settings in their order.
An element of an XML document that holds the same settings gives the same list, and all that follows
depends on the list only.
-/
namespace SourceTidy

namespace Text

def IsTight (t : Text) : Prop :=
  (∀ c ∈ t.head?, isSpace c = false) ∧ ∀ c ∈ t.getLast?, isSpace c = false

/-- A line break in the widest sense. -/
def IsBreak (b : Text) : Prop :=
  b = ['\r', '\n'] ∨ ∃ c, isLineEnd c = true ∧ b = [c]

def IsUnbroken (t : Text) : Prop :=
  ∀ c ∈ t, isLineEnd c = false

instance (t : Text) : Decidable t.IsTight :=
  decidable_of_iff (t.head?.all (fun c => !isSpace c) && t.getLast?.all fun c => !isSpace c)
    (by simp [IsTight, Option.all_eq_true])

instance (t : Text) : Decidable t.IsUnbroken :=
  decidable_of_iff (t.all fun c => !isLineEnd c) (by simp [IsUnbroken])

end Text

open Text

namespace Java.Profile

/-- A setting that a line of preferences can hold. -/
structure IsPlain (key value : Text) : Prop where
  named : key ≠ []
  key_unbroken : key.IsUnbroken
  value_unbroken : value.IsUnbroken
  key_tight : key.IsTight
  value_tight : value.IsTight
  unequal : '=' ∉ key
  uncommented : key.head? ≠ some '#' ∧ key.head? ≠ some '!'

/-- What a line of preferences carries: a setting with blanks around its parts, or nothing. -/
inductive Carries : Text → Option (Text × Text) → Prop
  | setting {key value a b c d : Text} (blank : (a ++ b ++ c ++ d).all isBlank = true) :
      Carries (a ++ (key ++ (b ++ '=' :: (c ++ (value ++ d))))) (some (key, value))
  | blank {line : Text} (all : line.all isSpace = true) : Carries line none
  | comment {before rest : Text} {mark : Char} (all : before.all isSpace = true)
      (marked : mark = '#' ∨ mark = '!') : Carries (before ++ mark :: rest) none
  | unequal {line : Text} (absent : '=' ∉ line) : Carries line none

inductive Lists : Text → List (Text × Text) → Prop
  | last {line : Text} {entry : Option (Text × Text)} (carries : Carries line entry)
      (unbroken : line.IsUnbroken) : Lists line entry.toList
  | line {line brk rest : Text} {entry : Option (Text × Text)} {pairs : List (Text × Text)}
      (carries : Carries line entry) (unbroken : line.IsUnbroken) (ends : IsBreak brk)
      (more : Lists rest pairs) : Lists (line ++ (brk ++ rest)) (entry.toList ++ pairs)

/-- An element writes a setting. A value that is left out is empty. -/
structure Writes (e : Xml.Element) (pair : Text × Text) : Prop where
  key : e.attribute? "id".toList = some pair.1
  value : (e.attribute? "value".toList).getD [] = pair.2

def isSetting (e : Xml.Element) : Bool :=
  e.name = "setting".toList

def Holds (profile : Xml.Element) (pairs : List (Text × Text)) : Prop :=
  List.Forall₂ Writes (profile.subtree.filter isSetting) pairs

def IsLast (pairs : List (Text × Text)) (key value : Text) : Prop :=
  ∃ before after, pairs = before ++ (key, value) :: after ∧ ∀ p ∈ after, p.1 ≠ key

/-- The integer that a key has: a default without a setting, else the value of its last setting. -/
def HasSize (pairs : List (Text × Text)) (key : String) (default least size : Int) : Prop :=
  (∀ value, ¬ IsLast pairs key.toList value) ∧ size = default ∨
    ∃ value, IsLast pairs key.toList value ∧ Numeral.int? value = some size ∧ least ≤ size

structure Denotes (pairs : List (Text × Text)) (settings : Settings) : Prop where
  tabulation : (∀ value, ¬ IsLast pairs tabulationKey.toList value) ∧ settings.tabulation = .tab ∨
    ∃ value, IsLast pairs tabulationKey.toList value ∧
      Tabulation.ofName? value = some settings.tabulation
  tabSize : HasSize pairs tabSizeKey 4 1 settings.tabSize
  blankLines : HasSize pairs blankLinesKey 1 0 settings.blankLines
  sourceLevel : ∀ level, settings.sourceLevel = some level ↔
    level ≠ [] ∧ IsLast pairs sourceLevelKey.toList level

end Java.Profile

/- White space at the ends. -/

namespace Text

theorem isSpace_of_isBlank {c : Char} (blank : isBlank c = true) : isSpace c = true := by
  simp only [isBlank, Bool.or_eq_true, decide_eq_true_eq] at blank
  rcases blank with rfl | rfl <;> decide

theorem strip_of_tight {t : Text} (tight : t.IsTight) : strip t = t := by
  have front : t.dropWhile isSpace = t := by
    cases t with
    | nil => rfl
    | cons c rest => simp [tight.1 c rfl]
  rw [strip, trim, front]
  rcases List.eq_nil_or_concat t with rfl | ⟨start, c, rfl⟩
  · rfl
  · rw [List.concat_eq_append] at tight ⊢
    exact trimRight_of_last (by simp [tight.2 c (by simp)])

theorem strip_padded {t a b : Text} (tight : t.IsTight) (before : ∀ c ∈ a, isSpace c = true)
    (after : ∀ c ∈ b, isSpace c = true) : strip (a ++ (t ++ b)) = t := by
  rw [strip, trim_blank_append _ before, trim_append_blank _ after]
  exact strip_of_tight tight

/- Lines in the widest sense. Returns are gone before a text is cut, so no pair has to be minded. -/

theorem wideLines_end {c : Char} (rest : Text) (ends : isLineEnd c = true) (inner : c ≠ '\r') :
    wideLines (c :: rest) = [] :: wideLines rest := by
  rw [wideLines]
  · simp [ends]
  · simp [inner]

theorem wideLines_line {line : Text} (unbroken : line.IsUnbroken) {c : Char} (rest : Text)
    (ends : isLineEnd c = true) (inner : c ≠ '\r') :
    wideLines (line ++ c :: rest) = line :: wideLines rest := by
  induction line with
  | nil => exact wideLines_end rest ends inner
  | cons d line ih =>
    have plain : isLineEnd d = false := unbroken d (by simp)
    have tail := ih fun x member => unbroken x (by simp [member])
    have single : d ≠ '\r' := by
      rintro rfl
      cases plain
    rw [List.cons_append, wideLines]
    · simp [plain, tail]
    · simp [single]

theorem wideLines_last {line : Text} (unbroken : line.IsUnbroken) (nonempty : line ≠ []) :
    wideLines line = [line] := by
  induction line with
  | nil => exact absurd rfl nonempty
  | cons d line ih =>
    have plain : isLineEnd d = false := unbroken d (by simp)
    have single : d ≠ '\r' := by
      rintro rfl
      cases plain
    rw [wideLines]
    · cases line with
      | nil => simp [plain, wideLines]
      | cons e line => simp [plain, ih (fun x member => unbroken x (by simp [member])) (by simp)]
    · simp [single]

theorem IsUnbroken.no_return {t : Text} (unbroken : t.IsUnbroken) : '\r' ∉ t := by
  intro member
  have plain := unbroken '\r' member
  cases plain

/-- A break becomes one character, or it is a return that the line feed after it swallows. -/
theorem canonicalBreaks_break {brk : Text} (ends : IsBreak brk) (rest : Text) :
    (∃ c, isLineEnd c = true ∧ c ≠ '\r' ∧
      canonicalBreaks (brk ++ rest) = c :: canonicalBreaks rest) ∨
      ∃ more, canonicalBreaks rest = '\n' :: more ∧
      canonicalBreaks (brk ++ rest) = '\n' :: more := by
  unfold canonicalBreaks
  rcases ends with rfl | ⟨c, lineEnd, rfl⟩
  · exact .inl ⟨'\n', rfl, by decide, replaceBreaks_pair _ rest⟩
  · by_cases isReturn : c = '\r'
    · subst isReturn
      by_cases followed : rest.head? = some '\n'
      · obtain ⟨more, rfl⟩ := List.head?_eq_some_iff.mp followed
        exact .inr ⟨_, replaceBreaks_feed _ more, replaceBreaks_pair _ more⟩
      · exact .inl ⟨'\n', rfl, by decide, replaceBreaks_return _ followed⟩
    · by_cases feed : c = '\n'
      · subst feed
        exact .inl ⟨'\n', rfl, by decide, replaceBreaks_feed _ rest⟩
      · exact .inl ⟨c, lineEnd, isReturn, replaceBreaks_other _ rest isReturn feed⟩

end Text

namespace Java.Profile

/- One line of preferences. -/

theorem preference?_of_equal {line key value : Text} {c : Char}
    (named : strip line = c :: key ++ '=' :: value) (uncommented : c ≠ '#' ∧ c ≠ '!')
    (unequal : '=' ∉ c :: key) :
    preference? line = some (strip (c :: key), strip value) := by
  have cut : (c :: key ++ '=' :: value).takeWhile (· ≠ '=') = c :: key := by
    rw [List.takeWhile_append_of_pos]
    · simp
    · intro x member
      simpa using fun same : x = '=' => unequal (same ▸ member)
  rw [preference?, named]
  split
  · contradiction
  · rename_i same
    exact absurd (List.cons.inj same).1 uncommented.1
  · rename_i same
    exact absurd (List.cons.inj same).1 uncommented.2
  · dsimp only
    rw [cut, List.drop_left]

theorem preference?_of_unequal {line : Text} (absent : '=' ∉ line) : preference? line = none := by
  have without : '=' ∉ strip line := fun member =>
    absent ((List.dropWhile_sublist _).subset (mem_of_mem_trimRight member))
  rw [preference?]
  split
  · rfl
  · rfl
  · rfl
  · have whole : (strip line).takeWhile (· ≠ '=') = strip line := by
      rw [List.takeWhile_eq_self_iff]
      intro x member
      simpa using fun same : x = '=' => without (same ▸ member)
    dsimp only
    rw [whole, List.drop_length]

theorem preference?_of_carries {line : Text} {entry : Option (Text × Text)}
    (carries : Carries line entry) (plain : ∀ p ∈ entry, IsPlain p.1 p.2) :
    preference? line = entry := by
  cases carries with
  | blank all =>
    have empty : strip line = [] := trim_eq_nil_iff.mpr (List.all_eq_true.mp all)
    simp [preference?, empty]
  | unequal absent => exact preference?_of_unequal absent
  | comment all marked =>
    rename_i before rest mark
    have solid : ¬ isSpace mark = true := by rcases marked with rfl | rfl <;> decide
    have opens : strip (before ++ mark :: rest) = mark :: trimRight isSpace rest := by
      rw [strip, trim_blank_append _ (List.all_eq_true.mp all), trim,
        List.dropWhile_cons_of_neg solid, trimRight_cons rest solid]
    rw [preference?, opens]
    rcases marked with rfl | rfl <;> rfl
  | setting blank =>
    rename_i key value a b c d
    rw [List.all_eq_true] at blank
    have spaced (x : Char) (member : x ∈ a ++ b ++ c ++ d) : isSpace x = true :=
      isSpace_of_isBlank (blank x member)
    obtain ⟨named, _, _, key_tight, value_tight, unequal, uncommented⟩ := plain (key, value) rfl
    obtain ⟨k, ks, rfl⟩ := List.exists_cons_of_ne_nil named
    have solid : ¬ isSpace k = true := by simp [key_tight.1 k rfl]
    -- the equals sign is no white space, so only what follows it is trimmed at the end
    have stripped : strip (a ++ (k :: ks ++ (b ++ '=' :: (c ++ (value ++ d))))) =
        k :: (ks ++ b) ++ '=' :: trimRight isSpace (c ++ (value ++ d)) := by
      rw [strip, trim_blank_append _ fun x member => spaced x (by simp [member]), trim,
        List.cons_append, List.dropWhile_cons_of_neg solid, trimRight_cons _ solid,
        ← List.append_assoc, trimRight_append_of_kept _ ⟨'=', by simp, by decide⟩,
        trimRight_cons _ (by decide)]
      rfl
    rw [preference?_of_equal stripped (by simpa using uncommented) ?_]
    · have key_back := strip_padded (a := []) (b := b) key_tight (by simp) fun x member =>
        spaced x (by simp [member])
      have value_back : strip (trimRight isSpace (c ++ (value ++ d))) = value := by
        rw [strip, trim_trimRight]
        exact strip_padded value_tight (fun x member => spaced x (by simp [member]))
          fun x member => spaced x (by simp [member])
      rw [value_back, ← List.cons_append, show strip (k :: ks ++ b) = k :: ks from key_back]
    · intro member
      rw [← List.cons_append, List.mem_append] at member
      rcases member with member | member
      · exact unequal member
      · have blanked := blank '=' (by simp [member])
        cases blanked

/- A whole text of preferences. -/

theorem settings_last {line : Text} (unbroken : line.IsUnbroken) :
    (ofPreferences line).settings = (preference? line).toList := by
  rw [ofPreferences, lineFeeds_eq_canonicalBreaks, canonicalBreaks_of_clean unbroken.no_return]
  by_cases empty : line = []
  · subst empty
    rfl
  · rw [wideLines_last unbroken empty]
    cases found : preference? line <;> simp [found]

theorem settings_line {line brk : Text} (unbroken : line.IsUnbroken) (ends : IsBreak brk)
    (rest : Text) :
    (ofPreferences (line ++ (brk ++ rest))).settings =
      (preference? line).toList ++ (ofPreferences rest).settings := by
  simp only [ofPreferences, lineFeeds_eq_canonicalBreaks,
    canonicalBreaks_append _ unbroken.no_return]
  rcases canonicalBreaks_break ends rest with ⟨c, lineEnd, inner, cut⟩ | ⟨more, same, cut⟩
  · rw [cut, wideLines_line unbroken _ lineEnd inner]
    cases found : preference? line <;> simp [found]
  · -- the line that the swallowed return would have ended is empty
    have gap : preference? [] = none := rfl
    rw [cut, same, wideLines_line unbroken _ rfl (by decide), wideLines_end _ rfl (by decide)]
    cases found : preference? line <;> simp [found, gap]

theorem settings_of_lists {text : Text} {pairs : List (Text × Text)} (lists : Lists text pairs)
    (plain : ∀ p ∈ pairs, IsPlain p.1 p.2) : (ofPreferences text).settings = pairs := by
  induction lists with
  | last carries unbroken =>
    rw [settings_last unbroken, preference?_of_carries carries
      fun p member => plain p (by simpa using member)]
  | line carries unbroken ends more ih =>
    rw [settings_line unbroken ends, ih fun p member => plain p (by simp [member]),
      preference?_of_carries carries fun p member => plain p (by simp [Option.mem_def.mp member])]

/- The same settings in an element. -/

theorem setting?_of_writes {e : Xml.Element} {pair : Text × Text} (setting : isSetting e = true)
    (writes : Writes e pair) (named : pair.1 ≠ []) : setting? e = some pair := by
  obtain ⟨c, rest, cut⟩ := List.exists_cons_of_ne_nil named
  rw [setting?, if_pos (of_decide_eq_true setting), writes.key, cut]
  simp only [writes.value, ← cut]

theorem filterMap_setting? {es : List Xml.Element} {pairs : List (Text × Text)}
    (holds : List.Forall₂ Writes (es.filter isSetting) pairs)
    (named : ∀ p ∈ pairs, p.1 ≠ []) : es.filterMap setting? = pairs := by
  induction es generalizing pairs with
  | nil =>
    cases holds
    rfl
  | cons e es ih =>
    by_cases setting : isSetting e = true
    · rw [List.filter_cons_of_pos setting] at holds
      cases holds with
      | cons writes rest =>
        rw [List.filterMap_cons_some (setting?_of_writes setting writes (named _ (by simp))),
          ih rest fun p member => named p (by simp [member])]
    · rw [List.filter_cons_of_neg setting] at holds
      have other : setting? e = none := if_neg fun same => setting (decide_eq_true same)
      rw [List.filterMap_cons_none other, ih holds named]

/- From the list on. -/

theorem value?_eq_some_iff {raw : Raw} {key : String} {value : Text} :
    raw.value? key = some value ↔ IsLast raw.settings key.toList value := by
  rw [Raw.value?, List.lookup_eq_some_iff]
  constructor
  · rintro ⟨after, before, split, others⟩
    refine ⟨before.reverse, after.reverse, ?_, ?_⟩
    · simpa using congrArg List.reverse split
    · intro p member same
      have other := others p (List.mem_reverse.mp member)
      simp [same] at other
  · rintro ⟨before, after, split, others⟩
    refine ⟨after.reverse, before.reverse, by simp [split], ?_⟩
    intro p member
    simpa using (others p (List.mem_reverse.mp member)).symm

theorem value?_eq_none_iff {raw : Raw} {key : String} :
    raw.value? key = none ↔ ∀ value, ¬ IsLast raw.settings key.toList value := by
  rw [Option.eq_none_iff_forall_ne_some]
  simp only [ne_eq, value?_eq_some_iff]

theorem integer_eq_ok_iff {path : Path} {raw : Raw} {key : String} {default least size : Int} :
    integer path raw key default least = .ok size ↔
      HasSize raw.settings key default least size := by
  rw [HasSize, ← value?_eq_none_iff, integer]
  simp only [← value?_eq_some_iff]
  cases raw.value? key with
  | none => simp [eq_comm]
  | some value =>
    cases read : Numeral.int? value with
    | none => simp [read]
    | some n =>
      by_cases small : n < least
      · simp [read, small]
        omega
      · simp [read, small]
        omega

theorem tabulation_eq_ok_iff {raw : Raw} {path : Path} {policy : Tabulation} :
    raw.tabulation path = .ok policy ↔
      (∀ value, ¬ IsLast raw.settings tabulationKey.toList value) ∧ policy = .tab ∨
        ∃ value, IsLast raw.settings tabulationKey.toList value ∧
        Tabulation.ofName? value = some policy := by
  rw [← value?_eq_none_iff, Raw.tabulation]
  simp only [← value?_eq_some_iff]
  cases raw.value? tabulationKey with
  | none => simp [eq_comm]
  | some value => cases named : Tabulation.ofName? value <;> simp [named]

theorem sourceLevel?_eq_some_iff {raw : Raw} {level : Text} :
    raw.sourceLevel? = some level ↔ level ≠ [] ∧
    IsLast raw.settings sourceLevelKey.toList level := by
  simp [Raw.sourceLevel?, Option.filter_eq_some_iff, value?_eq_some_iff, and_comm]

theorem toSettings_eq_ok_iff {raw : Raw} {path : Path} {settings : Settings} :
    raw.toSettings path = .ok settings ↔ settings.name = raw.name ∧
    Denotes raw.settings settings := by
  constructor
  · intro done
    obtain ⟨policy, chosen, done⟩ := ok_of_bind done
    obtain ⟨size, sized, done⟩ := ok_of_bind done
    obtain ⟨blank, counted, done⟩ := ok_of_bind done
    cases done
    exact ⟨rfl, tabulation_eq_ok_iff.mp chosen, integer_eq_ok_iff.mp sized,
      integer_eq_ok_iff.mp counted, fun level => sourceLevel?_eq_some_iff⟩
  · rintro ⟨named, policy, sized, counted, levelled⟩
    have level : raw.sourceLevel? = settings.sourceLevel :=
      Option.ext fun level => sourceLevel?_eq_some_iff.trans (levelled level).symm
    rw [Raw.toSettings, tabulation_eq_ok_iff.mpr policy, integer_eq_ok_iff.mpr sized,
      integer_eq_ok_iff.mpr counted, level, ← named]
    rfl

theorem load_of_raw {xml : Xml.Reader} {files : FileSystem} {path : Path} {bytes : Bytes}
    {raw : Raw} (read : files.read path = .ok bytes) (made : ofBytes xml path bytes = .ok raw) :
    load xml files path = (raw.toSettings path).mapError .configuration := by
  simp only [load, read, made]
  rfl

/-- Preferences and an element with the same settings are loaded as the same settings, in which the
last value of a key holds. If the values cannot be used, neither can be loaded. -/
theorem load_agrees (xml : Xml.Reader) (files : FileSystem) (preferences document : Path)
    (text : Text) (bytes : Bytes) (root profile : Xml.Element) (pairs : List (Text × Text))
    (plain : ∀ p ∈ pairs, IsPlain p.1 p.2) (suffixed : preferences.suffix = ".prefs".toList)
    (written : files.read preferences = .ok (Utf8.encode text)) (lists : Lists text pairs)
    (unsuffixed : document.suffix ≠ ".prefs".toList) (stored : files.read document = .ok bytes)
    (parsed : xml bytes = .ok root) (chosen : choose? (candidates root) = some profile)
    (holds : Holds profile pairs) :
    (∃ settings, Denotes pairs settings ∧ settings.name = none ∧
      load xml files preferences = .ok settings ∧
      load xml files document = .ok { settings with name := profile.attribute? "name".toList }) ∨
    (∀ settings, ¬ Denotes pairs settings) ∧ ∃ fault fault',
      load xml files preferences = .error (.configuration fault) ∧
        load xml files document = .error (.configuration fault') := by
  have fromText : ofBytes xml preferences (Utf8.encode text) = .ok ⟨none, pairs⟩ := by
    simp only [ofBytes, suffixed, if_true, Utf8.decode_encode]
    exact congrArg _ (congrArg (Raw.mk none) (settings_of_lists lists plain))
  have fromElement : ofBytes xml document bytes =
      .ok ⟨profile.attribute? "name".toList, pairs⟩ := by
    simp only [ofBytes, if_neg unsuffixed, parsed, chosen, ofElement]
    rw [filterMap_setting? holds fun p member => (plain p member).named]
  rw [load_of_raw written fromText, load_of_raw stored fromElement]
  cases done : Raw.toSettings ⟨none, pairs⟩ preferences with
  | ok settings =>
    obtain ⟨unnamed, denotes⟩ := toSettings_eq_ok_iff.mp done
    have other : Raw.toSettings ⟨profile.attribute? "name".toList, pairs⟩ document =
        .ok { settings with name := profile.attribute? "name".toList } :=
      toSettings_eq_ok_iff.mpr ⟨rfl, denotes.tabulation, denotes.tabSize, denotes.blankLines,
        denotes.sourceLevel⟩
    rw [other]
    exact .inl ⟨settings, denotes, unnamed, rfl, rfl⟩
  | error fault =>
    have never (settings : Settings) : ¬ Denotes pairs settings := by
      intro denotes
      have usable : Raw.toSettings ⟨none, pairs⟩ preferences = .ok { settings with name := none } :=
        toSettings_eq_ok_iff.mpr ⟨rfl, denotes.tabulation, denotes.tabSize, denotes.blankLines,
          denotes.sourceLevel⟩
      rw [done] at usable
      cases usable
    cases other : Raw.toSettings ⟨profile.attribute? "name".toList, pairs⟩ document with
    | ok settings => exact absurd (toSettings_eq_ok_iff.mp other).2 (never settings)
    | error fault' => exact .inr ⟨never, fault, fault', rfl, rfl⟩

/- A key twice, in both formats. The later value has an equals sign in it. -/

def twice : List (Text × Text) :=
  [(sourceLevelKey.toList, ['8']), (sourceLevelKey.toList, "a=b".toList)]

theorem isPlain_twice : ∀ p ∈ twice, IsPlain p.1 p.2 := by
  simp only [twice, List.forall_mem_cons, List.not_mem_nil, false_imp_iff, implies_true, and_true]
  constructor <;> constructor <;> decide +kernel

/-- A comment, a setting, an empty line between a return and a line feed, and a line that says
nothing. -/
def twiceText : Text :=
  ([] ++ '!' :: "x=1".toList) ++ (['\r', '\n'] ++
    ((" \t".toList ++ (sourceLevelKey.toList ++ ([' '] ++ '=' :: ([' '] ++ (['8'] ++ ['\t']))))) ++
      (['\r'] ++ ([] ++ (['\n'] ++
        ("none".toList ++ (['\x0c'] ++
          ([] ++ (sourceLevelKey.toList ++ ([] ++ '=' :: ([] ++ ("a=b".toList ++ []))))))))))))

theorem lists_twice : Lists twiceText twice := by
  have unmarked : Carries "none".toList none := .unequal (by decide)
  have empty : Carries [] none := .blank rfl
  refine .line (.comment rfl (.inr rfl)) ?_ (.inl rfl)
    (.line (.setting rfl) ?_ (.inr ⟨'\r', rfl, rfl⟩)
    (.line empty ?_ (.inr ⟨'\n', rfl, rfl⟩) (.line unmarked ?_ (.inr ⟨'\x0c', rfl, rfl⟩)
      (.last (.setting rfl) ?_))))
  all_goals decide +kernel

def twiceDocument : Text :=
  ("<profile><setting id='" ++ sourceLevelKey ++ "' value='8'/><setting id='" ++ sourceLevelKey ++
    "' value='a=b'/></profile>").toList

def twiceElement : Xml.Element where
  name := "profile".toList
  attributes := []
  children := twice.map fun p => ⟨"setting".toList, [("id".toList, p.1), ("value".toList, p.2)], []⟩

def isTwice : Xml.Element → Bool
  | ⟨name, attributes, [⟨a, as, []⟩, ⟨b, bs, []⟩]⟩ =>
    name = "profile".toList && attributes = [] && a = "setting".toList && b = "setting".toList &&
      [as, bs] = twice.map fun p => [("id".toList, p.1), ("value".toList, p.2)]
  | _ => false

theorem eq_twiceElement {e : Xml.Element} (same : isTwice e = true) : e = twiceElement := by
  unfold isTwice at same
  split at same
  · simp only [Bool.and_eq_true, decide_eq_true_eq] at same
    obtain ⟨⟨⟨⟨rfl, rfl⟩, rfl⟩, rfl⟩, pairs⟩ := same
    cases pairs
    rfl
  · cases same

theorem ok_of_any {ε α : Type} {result : Except ε α} {p : α → Bool}
    (holds : result.toOption.any p = true) :
    ∃ a, result = .ok a ∧ p a = true := by
  cases result with
  | error e => cases holds
  | ok a => exact ⟨a, rfl, holds⟩

theorem read_twice : Xml.read (Utf8.encode twiceDocument) = .ok twiceElement := by
  have shape : (Xml.read (Utf8.encode twiceDocument)).toOption.any isTwice = true := by
    decide +kernel
  obtain ⟨e, done, same⟩ := ok_of_any shape
  rw [done, eq_twiceElement same]

theorem holds_twice : Holds twiceElement twice := by
  have settings : twiceElement.subtree.filter isSetting = twiceElement.children := by
    simp [twiceElement, twice, Xml.Element.subtree, isSetting]
  rw [Holds, settings]
  exact .cons ⟨rfl, rfl⟩ (.cons ⟨rfl, rfl⟩ .nil)

def twiceFiles (preferences document : Bytes) : FileSystem where
  entries := [(["f.prefs"], .file preferences 420), (["f.xml"], .file document 420)]
  current := []

theorem read_twiceFiles (preferences document : Bytes) :
    (twiceFiles preferences document).read ⟨.current, ["f.prefs"]⟩ = .ok preferences ∧
      (twiceFiles preferences document).read ⟨.current, ["f.xml"]⟩ = .ok document := by
  constructor <;> cbv

theorem load_agrees_twice :
    load Xml.read (twiceFiles (Utf8.encode twiceText) (Utf8.encode twiceDocument))
    ⟨.current, ["f.prefs"]⟩ =
      .ok { sourceLevel := some "a=b".toList } ∧
    load Xml.read (twiceFiles (Utf8.encode twiceText) (Utf8.encode twiceDocument))
      ⟨.current, ["f.xml"]⟩ =
      .ok { sourceLevel := some "a=b".toList } := by
  obtain ⟨written, stored⟩ := read_twiceFiles (Utf8.encode twiceText) (Utf8.encode twiceDocument)
  have usable : Raw.toSettings ⟨none, twice⟩ ⟨.current, ["f.prefs"]⟩ =
      .ok { sourceLevel := some "a=b".toList } := by decide +kernel
  rcases load_agrees _ _ ⟨.current, ["f.prefs"]⟩ ⟨.current, ["f.xml"]⟩ twiceText _ twiceElement
      twiceElement twice isPlain_twice (by decide) written lists_twice (by decide) stored read_twice
      rfl holds_twice with
    ⟨settings, denotes, unnamed, first, second⟩ | ⟨never, _⟩
  · have same : Raw.toSettings ⟨none, twice⟩ ⟨.current, ["f.prefs"]⟩ = .ok settings :=
      toSettings_eq_ok_iff.mpr ⟨unnamed, denotes⟩
    cases usable.symm.trans same
    exact ⟨first, second⟩
  · exact absurd (toSettings_eq_ok_iff.mp usable).2 (never _)

end Java.Profile

end SourceTidy
