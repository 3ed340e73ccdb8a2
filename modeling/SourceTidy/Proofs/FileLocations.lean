import SourceTidy.FileUrl
import SourceTidy.Proofs.Lines
import SourceTidy.Proofs.Utf8

namespace SourceTidy

namespace Utf8

theorem decodeLossyFrom_skip (bytes rest : Bytes) :
    decodeLossyFrom bytes.length (bytes ++ rest) = decodeLossyFrom 0 rest := by
  induction bytes with
  | nil => rfl
  | cons b bytes ih => exact ih

theorem width_eq {lead : UInt8} {n width : Nat} (value : lead.toNat = n)
    (range : n < 0x80 ∧ width = 1 ∨ (0x80 ≤ n ∧ n < 0xe0 ∧ width = 2) ∨
      (0xe0 ≤ n ∧ n < 0xf0 ∧ width = 3) ∨ (0xf0 ≤ n ∧ width = 4)) :
    (if lead < 0x80 then 1 else if lead < 0xe0 then 2 else if lead < 0xf0 then 3 else 4) =
      width := by
  have two : (0x80 : UInt8).toNat = 0x80 := rfl
  have three : (0xe0 : UInt8).toNat = 0xe0 := rfl
  have four : (0xf0 : UInt8).toNat = 0xf0 := rfl
  simp only [UInt8.lt_iff_toNat_lt, value, two, three, four]
  grind

/-- The leading byte of a character says how many bytes it has. -/
theorem encodeChar_width (c : Char) : ∃ lead later, encodeChar c = lead :: later ∧
    (if lead < 0x80 then 1 else if lead < 0xe0 then 2 else if lead < 0xf0 then 3 else 4) =
      later.length + 1 := by
  have scalar : c.toNat < 0xd800 ∨ 0xdfff < c.toNat ∧ c.toNat < 0x110000 := c.valid
  unfold encodeChar
  generalize c.toNat = n at scalar
  dsimp only
  split
  · have lead : n.toUInt8.toNat = n := toNat_toUInt8 (by omega)
    exact ⟨_, _, rfl, width_eq lead (.inl ⟨by omega, rfl⟩)⟩
  · split
    · have lead : (0xc0 + n / 0x40).toUInt8.toNat = 0xc0 + n / 0x40 := toNat_toUInt8 (by omega)
      exact ⟨_, _, rfl, width_eq lead (.inr (.inl ⟨by omega, by omega, rfl⟩))⟩
    · split
      · have lead : (0xe0 + n / 0x1000).toUInt8.toNat = 0xe0 + n / 0x1000 :=
          toNat_toUInt8 (by omega)
        exact ⟨_, _, rfl, width_eq lead (.inr (.inr (.inl ⟨by omega, by omega, rfl⟩)))⟩
      · have lead : (0xf0 + n / 0x40000).toUInt8.toNat = 0xf0 + n / 0x40000 :=
          toNat_toUInt8 (by omega)
        exact ⟨_, _, rfl, width_eq lead (.inr (.inr (.inr ⟨by omega, rfl⟩)))⟩

theorem decodeLossyFrom_encodeChar (c : Char) (rest : Bytes) :
    decodeLossyFrom 0 (encodeChar c ++ rest) = c :: decodeLossyFrom 0 rest := by
  obtain ⟨lead, later, whole, width⟩ := encodeChar_width c
  have one : decode (lead :: later) = .ok [c] := by
    rw [← whole, ← decode_encode [c], encode_cons]
    simp [encode]
  have front : ((lead :: (later ++ rest)).take (later.length + 1)) = lead :: later := by simp
  rw [whole, List.cons_append, decodeLossyFrom, width, front, one]
  exact congrArg _ (decodeLossyFrom_skip later rest)

theorem decodeLossy_encode (t : Text) : decodeLossy (encode t) = t := by
  induction t with
  | nil => rfl
  | cons c t ih =>
    rw [decodeLossy, encode_cons, decodeLossyFrom_encodeChar, ← decodeLossy, ih]

end Utf8

namespace Path

structure IsComponent (name : String) : Prop where
  nonempty : name.toList ≠ []
  notHere : name.toList ≠ ['.']
  inner : '/' ∉ name.toList

theorem isComponent_of_mem_partsOf {t : Text} {name : String} (member : name ∈ partsOf t) :
    IsComponent name := by
  obtain ⟨piece, kept, rfl⟩ := List.mem_map.mp member
  obtain ⟨cut, solid⟩ := List.mem_filter.mp kept
  rw [Bool.and_eq_true, bne_iff_ne, bne_iff_ne] at solid
  refine ⟨?_, ?_, ?_⟩
  all_goals rw [String.toList_ofList]
  · exact solid.1
  · exact solid.2
  · exact Text.free_of_mem_splitAt cut

theorem partsOf_slash (t : Text) : partsOf ('/' :: t) = partsOf t := by
  simp [partsOf, Text.splitAt]

theorem partsOf_intercalate {names : List String} (all : ∀ name ∈ names, IsComponent name) :
    partsOf (List.intercalate ['/'] (names.map String.toList)) = names := by
  by_cases empty : names = []
  · rw [empty]
    rfl
  · have cut : Text.splitAt '/' (List.intercalate ['/'] (names.map String.toList)) =
        names.map String.toList := by
      rw [Text.splitAt_eq_splitOn]
      apply List.splitOn_intercalate '/'
      · rw [List.forall_mem_map]
        exact fun name member => (all name member).inner
      · simpa using empty
    have solid : (names.map String.toList).filter (fun p => p != [] && p != ['.']) =
        names.map String.toList := by
      rw [List.filter_eq_self, List.forall_mem_map]
      intro name member
      rw [Bool.and_eq_true, bne_iff_ne, bne_iff_ne]
      exact ⟨(all name member).nonempty, (all name member).notHere⟩
    rw [partsOf, cut, solid, List.map_map]
    simp

theorem partsOf_anchorText (anchor : Anchor) (t : Text) :
    partsOf (anchorText anchor ++ t) = partsOf t := by
  cases anchor with
  | current => rfl
  | root => exact partsOf_slash t
  | doubleRoot => exact (partsOf_slash _).trans (partsOf_slash t)

theorem anchorOf_anchorText (anchor : Anchor) {t : Text} (inner : t.head? ≠ some '/') :
    anchorOf (anchorText anchor ++ t) = anchor := by
  cases t with
  | nil => cases anchor <;> rfl
  | cons c t =>
    have other : c ≠ '/' := by simpa using inner
    cases anchor <;> simp [anchorText, anchorOf, other]

theorem head_intercalate {names : List String} (all : ∀ name ∈ names, IsComponent name) :
    (List.intercalate ['/'] (names.map String.toList)).head? ≠ some '/' := by
  cases names with
  | nil => simp
  | cons name names =>
    have first : IsComponent name := all name List.mem_cons_self
    obtain ⟨c, rest, whole⟩ := List.exists_cons_of_ne_nil first.nonempty
    have other : c ≠ '/' := fun same => first.inner (by simp [whole, same])
    cases names with
    | nil => simpa [whole] using other
    | cons next names => simpa [whole] using other

theorem toText_eq {p : Path} (away : p.anchor ≠ .current ∨ p.parts ≠ []) :
    p.toText = anchorText p.anchor ++ List.intercalate ['/'] (p.parts.map String.toList) := by
  unfold toText
  split
  · rename_i here empty
    rcases away with away | away
    · exact absurd here away
    · exact absurd empty away
  · rfl

theorem ofText_toText (t : Text) : ofText (ofText t).toText = ofText t := by
  have all (name : String) (member : name ∈ partsOf t) : IsComponent name :=
    isComponent_of_mem_partsOf member
  by_cases away : (ofText t).anchor ≠ .current ∨ (ofText t).parts ≠ []
  · rw [toText_eq away]
    simp only [ofText, partsOf_anchorText, partsOf_intercalate all,
      anchorOf_anchorText _ (head_intercalate all)]
  · obtain ⟨here, empty⟩ := not_or.mp away
    have same : ofText t = ⟨.current, []⟩ := congrArg₂ Path.mk (not_not.mp here) (not_not.mp empty)
    rw [same]
    decide

theorem toText_absolute {t : Text} (absolute : t.head? = some '/') :
    (ofText t).toText.head? = some '/' := by
  obtain ⟨rest, rfl⟩ := List.head?_eq_some_iff.mp absolute
  have away : anchorOf ('/' :: rest) ≠ .current := by
    unfold anchorOf
    split <;> simp_all
  rw [toText_eq (.inl away)]
  change (anchorText (anchorOf ('/' :: rest)) ++ _).head? = some '/'
  cases anchored : anchorOf ('/' :: rest) with
  | current => exact absurd anchored away
  | root => rfl
  | doubleRoot => rfl

end Path

namespace FileUrl

/-- The characters that stand for themselves in a URL. -/
def isPlain (c : Char) : Bool :=
  ('a' ≤ c && c ≤ 'z') || ('A' ≤ c && c ≤ 'Z') || ('0' ≤ c && c ≤ '9') || "_.-~/".toList.contains c

def hexDigit (n : Nat) : Char :=
  (Nat.digitChar n).toUpper

def percentByte (b : UInt8) : Text :=
  if isPlain (Char.ofNat b.toNat) then [Char.ofNat b.toNat]
  else ['%', hexDigit (b.toNat / 16), hexDigit (b.toNat % 16)]

def percentEncode (t : Text) : Text :=
  (Utf8.encode t).flatMap percentByte

def ofPath (path : Text) : Text :=
  "file://".toList ++ percentEncode path

theorem hexValue?_hexDigit : ∀ n < 16, Digit.hexValue? (hexDigit n) = some n := by
  decide

theorem isPlain_hexDigit : ∀ n < 16, isPlain (hexDigit n) = true := by
  decide

theorem isPlain_bounds {c : Char} (plain : isPlain c = true) :
    0x20 < c.toNat ∧ c.toNat < 0x80 ∧ c ≠ '%' ∧ c ≠ '#' ∧ c ≠ '?' := by
  simp only [isPlain, Bool.or_eq_true, Bool.and_eq_true, decide_eq_true_eq, Char.le_def,
    UInt32.le_iff_toNat_le] at plain
  rcases plain with range | mark
  · have values : (97 ≤ c.toNat ∧ c.toNat ≤ 122 ∨ 65 ≤ c.toNat ∧ c.toNat ≤ 90) ∨
        48 ≤ c.toNat ∧ c.toNat ≤ 57 := range
    refine ⟨by omega, by omega, ?_, ?_, ?_⟩
    all_goals
      rintro rfl
      revert values
      decide
  · have one : c = '_' ∨ c = '.' ∨ c = '-' ∨ c = '~' ∨ c = '/' := by simpa using mark
    rcases one with rfl | rfl | rfl | rfl | rfl
    all_goals decide

theorem percentBytes_percentByte (b : UInt8) (rest : Text) :
    percentBytes (percentByte b ++ rest) = b :: percentBytes rest := by
  unfold percentByte
  split
  · rename_i plain
    obtain ⟨_, _, unescaped, _⟩ := isPlain_bounds plain
    have small : b.toNat < 256 := b.toNat_lt
    have value : (Char.ofNat b.toNat).toNat = b.toNat := Utf8.toNat_ofNat (by omega)
    rw [List.singleton_append, percentBytes.eq_3 _ _ (by simp [unescaped]), Utf8.toUInt8_eq value]
  · have small : b.toNat < 256 := b.toNat_lt
    rw [List.cons_append, List.cons_append, List.cons_append, List.nil_append, percentBytes,
      hexValue?_hexDigit _ (by omega), hexValue?_hexDigit _ (by omega)]
    exact congrArg (· :: percentBytes rest) (Utf8.toUInt8_eq (by omega))

theorem percentBytes_flatMap (bytes : Bytes) :
    percentBytes (bytes.flatMap percentByte) = bytes := by
  induction bytes with
  | nil => rfl
  | cons b bytes ih => rw [List.flatMap_cons, percentBytes_percentByte, ih]

theorem bounds_of_mem_percentEncode {t : Text} {c : Char} (member : c ∈ percentEncode t) :
    0x20 < c.toNat ∧ c.toNat < 0x80 ∧ c ≠ '#' ∧ c ≠ '?' := by
  obtain ⟨b, _, inByte⟩ := List.mem_flatMap.mp member
  have kinds : isPlain c = true ∨ c = '%' := by
    have small : b.toNat < 256 := b.toNat_lt
    unfold percentByte at inByte
    split at inByte
    · rename_i plain
      rw [List.mem_singleton] at inByte
      exact .inl (inByte ▸ plain)
    · simp only [List.mem_cons, List.not_mem_nil, or_false] at inByte
      rcases inByte with rfl | rfl | rfl
      · exact .inr rfl
      · exact .inl (isPlain_hexDigit _ (by omega))
      · exact .inl (isPlain_hexDigit _ (by omega))
  rcases kinds with plain | rfl
  · obtain ⟨above, below, _, others⟩ := isPlain_bounds plain
    exact ⟨above, below, others⟩
  · decide

theorem percentDecodeFrom_ascii {t : Text} (ascii : ∀ c ∈ t, c.toNat < 0x80) (run : Text) :
    percentDecodeFrom run t = Utf8.decodeLossy (percentBytes (run.reverse ++ t)) := by
  induction t generalizing run with
  | nil => rw [percentDecodeFrom, List.append_nil]
  | cons c t ih =>
    obtain ⟨first, others⟩ := List.forall_mem_cons.mp ascii
    rw [percentDecodeFrom, if_pos first, ih others, List.reverse_cons, List.append_assoc,
      List.singleton_append]

theorem percentDecode_percentEncode (t : Text) : percentDecode (percentEncode t) = t := by
  rw [percentDecode, percentDecodeFrom_ascii
    fun c member => (bounds_of_mem_percentEncode member).2.1]
  rw [List.reverse_nil, List.nil_append, percentEncode, percentBytes_flatMap,
    Utf8.decodeLossy_encode]

theorem percentEncode_slash (t : Text) : percentEncode ('/' :: t) = '/' :: percentEncode t := by
  rw [percentEncode, Utf8.encode_cons, List.flatMap_append]
  rfl

theorem filter_visible {t : Text} (visible : ∀ c ∈ t, 0x20 < c.toNat) :
    t.filter (fun c => c != '\t' && c != '\r' && c != '\n') = t := by
  rw [List.filter_eq_self]
  intro c member
  have above := visible c member
  simp only [Bool.and_eq_true, bne_iff_ne]
  refine ⟨⟨?_, ?_⟩, ?_⟩
  all_goals
    rintro rfl
    exact absurd above (by decide)

theorem takeWhile_endless {t : Text} (endless : ∀ c ∈ t, c ≠ '#' ∧ c ≠ '?') :
    (t.takeWhile (· != '#')).takeWhile (· != '?') = t := by
  have noFragment : t.takeWhile (· != '#') = t := by
    rw [List.takeWhile_eq_self_iff]
    exact fun c member => bne_iff_ne.mpr (endless c member).1
  rw [noFragment, List.takeWhile_eq_self_iff]
  exact fun c member => bne_iff_ne.mpr (endless c member).2

theorem split_rooted {t : Text} (plain : ∀ c ∈ t, 0x20 < c.toNat ∧ c ≠ '#' ∧ c ≠ '?') :
    split ("file://".toList ++ '/' :: t) = .ok ⟨"file".toList, '/' :: t⟩ := by
  have visible (c : Char) (member : c ∈ "file:///".toList ++ t) : 0x20 < c.toNat := by
    have start : ("file:///".toList.all fun c => 0x20 < c.toNat) = true := by decide
    rcases List.mem_append.mp member with member | member
    · exact of_decide_eq_true (List.all_eq_true.mp start c member)
    · exact (plain c member).1
  have endless (c : Char) (member : c ∈ '/' :: t) : c ≠ '#' ∧ c ≠ '?' := by
    rcases List.mem_cons.mp member with rfl | member
    · decide
    · exact (plain c member).2
  have front : ("file:///".toList ++ t).dropWhile (fun c => decide (c.toNat ≤ 0x20)) =
      "file:///".toList ++ t := rfl
  have scheme : splitScheme ("file:///".toList ++ t) = ("file".toList, "///".toList ++ t) := rfl
  have host : dropHost ("///".toList ++ t) = .ok ('/' :: t) := rfl
  change split ("file:///".toList ++ t) = _
  rw [split, front, filter_visible visible, scheme]
  simp only [host]
  exact congrArg (fun path => Except.ok (Split.mk "file".toList path)) (takeWhile_endless endless)

theorem split_ofPath (t : Text) :
    split (ofPath ('/' :: t)) = .ok ⟨"file".toList, percentEncode ('/' :: t)⟩ := by
  change split ("file://".toList ++ percentEncode ('/' :: t)) = _
  rw [percentEncode_slash]
  apply split_rooted
  intro c member
  obtain ⟨above, _, others⟩ := bounds_of_mem_percentEncode member
  exact ⟨above, others⟩

theorem toPath_of_absolute {path : Text} (absolute : path.head? = some '/') :
    toPath (ofPath path) = .ok (Path.ofText path) := by
  obtain ⟨t, rfl⟩ := List.head?_eq_some_iff.mp absolute
  rw [toPath, split_ofPath]
  exact congrArg (fun t => Except.ok (Path.ofText t)) (percentDecode_percentEncode ('/' :: t))

/-- Reading the URL of an absolute path gives the path, whether it is written as it was given or in
its normal form. -/
theorem toPath_ofPath (path : Text) (absolute : path.head? = some '/') :
    toPath (ofPath path) = .ok (Path.ofText path) ∧
      toPath (ofPath (Path.ofText path).toText) = .ok (Path.ofText path) := by
  refine ⟨toPath_of_absolute absolute, ?_⟩
  rw [toPath_of_absolute (Path.toText_absolute absolute), Path.ofText_toText]

/-- A path with characters that have a meaning in URLs. -/
def awkward : Text := "/é %2f?#;[~]/./b".toList

theorem toPath_ofPath_awkward :
    awkward.head? = some '/' ∧
    ofPath awkward = "file:///%C3%A9%20%252f%3F%23%3B%5B~%5D/./b".toList ∧
      toPath (ofPath awkward) = .ok ⟨.root, ["é %2f?#;[~]", "b"]⟩ ∧
      toPath (ofPath "/é %2f?#;[~]/b".toList) = .ok ⟨.root, ["é %2f?#;[~]", "b"]⟩ := by
  have absolute : awkward.head? = some '/' := by decide
  have path : Path.ofText awkward = ⟨.root, ["é %2f?#;[~]", "b"]⟩ := by decide
  have written : (Path.ofText awkward).toText = "/é %2f?#;[~]/b".toList := by decide
  obtain ⟨given, normal⟩ := toPath_ofPath awkward absolute
  rw [written] at normal
  exact ⟨absolute, by decide, path ▸ given, path ▸ normal⟩

end FileUrl

end SourceTidy
