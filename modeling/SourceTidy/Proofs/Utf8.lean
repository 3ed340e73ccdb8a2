import SourceTidy.Pipeline

namespace SourceTidy.Utf8

theorem toNat_toUInt8 {n : Nat} (small : n < 256) : n.toUInt8.toNat = n := by
  simp only [Nat.toUInt8_eq, UInt8.toNat_ofNat']
  omega

theorem isContinuation_iff {b : UInt8} : isContinuation b = true ↔ 0x80 ≤ b.toNat ∧
    b.toNat < 0xc0 := by
  simp [isContinuation, UInt8.le_iff_toNat_le, UInt8.lt_iff_toNat_lt]

theorem isContinuation_low (n : Nat) : isContinuation (0x80 + n % 0x40).toUInt8 = true := by
  rw [isContinuation_iff, toNat_toUInt8 (by omega)]
  omega

theorem low_eq (n : Nat) : low (0x80 + n % 0x40).toUInt8 = n % 0x40 := by
  rw [low, toNat_toUInt8 (by omega)]
  omega

/-- The second byte rules out long forms, surrogates and values past the last scalar value. -/
theorem admitsSecond_of_bounds {lead second : UInt8} (later : isContinuation second = true)
    (long : lead.toNat = 0xe0 → 0xa0 ≤ second.toNat)
    (surrogate : lead.toNat = 0xed → second.toNat < 0xa0)
    (longer : lead.toNat = 0xf0 → 0x90 ≤ second.toNat)
    (past : lead.toNat = 0xf4 → second.toNat < 0x90) :
    admitsSecond lead second = true := by
  simp only [admitsSecond, later, Bool.true_and, Bool.and_eq_true, Bool.not_eq_true',
    Bool.and_eq_false_iff, decide_eq_false_iff_not, ← UInt8.toNat_inj, UInt8.lt_iff_toNat_lt,
    UInt8.le_iff_toNat_le]
  simp
  omega

/- One equation for each length of a sequence, by its leading byte. -/

theorem decodeFrom_one (i : Nat) {b : UInt8} (rest : Bytes) (lead : b.toNat < 0x80) :
    decodeFrom i (b :: rest) = (decodeFrom (i + 1) rest).map (Char.ofNat b.toNat :: ·) := by
  rw [decodeFrom.eq_def]
  simp [UInt8.lt_iff_toNat_lt, lead]

theorem decodeFrom_two (i : Nat) {b b1 : UInt8} (rest : Bytes)
    (lead : 0xc2 ≤ b.toNat ∧ b.toNat < 0xe0) (later : isContinuation b1 = true) :
    decodeFrom i (b :: b1 :: rest) =
      (decodeFrom (i + 2) rest).map (Char.ofNat ((b.toNat - 0xc0) * 0x40 + low b1) :: ·) := by
  have low : ¬ b.toNat < 0x80 := by omega
  have start : ¬ b.toNat < 0xc2 := by omega
  rw [decodeFrom.eq_def]
  simp [UInt8.lt_iff_toNat_lt, low, start, lead.2, later]

theorem decodeFrom_three (i : Nat) {b b1 b2 : UInt8} (rest : Bytes)
    (lead : 0xe0 ≤ b.toNat ∧ b.toNat < 0xf0) (second : admitsSecond b b1 = true)
    (later : isContinuation b2 = true) :
    decodeFrom i (b :: b1 :: b2 :: rest) =
      (decodeFrom (i + 3) rest).map
        (Char.ofNat ((b.toNat - 0xe0) * 0x1000 + low b1 * 0x40 + low b2) :: ·) := by
  have low : ¬ b.toNat < 0x80 := by omega
  have start : ¬ b.toNat < 0xc2 := by omega
  have two : ¬ b.toNat < 0xe0 := by omega
  rw [decodeFrom.eq_def]
  simp [UInt8.lt_iff_toNat_lt, low, start, two, lead.2, second, later]

theorem decodeFrom_four (i : Nat) {b b1 b2 b3 : UInt8} (rest : Bytes)
    (lead : 0xf0 ≤ b.toNat ∧ b.toNat < 0xf5) (second : admitsSecond b b1 = true)
    (later : isContinuation b2 = true) (last : isContinuation b3 = true) :
    decodeFrom i (b :: b1 :: b2 :: b3 :: rest) =
      (decodeFrom (i + 4) rest).map
        (Char.ofNat
          ((b.toNat - 0xf0) * 0x40000 + low b1 * 0x1000 + low b2 * 0x40 + low b3) :: ·) := by
  have low : ¬ b.toNat < 0x80 := by omega
  have start : ¬ b.toNat < 0xc2 := by omega
  have two : ¬ b.toNat < 0xe0 := by omega
  have three : ¬ b.toNat < 0xf0 := by omega
  rw [decodeFrom.eq_def]
  simp [UInt8.lt_iff_toNat_lt, low, start, two, three, lead.2, second, later, last]

theorem decodeFrom_encodeChar (i : Nat) (c : Char) (rest : Bytes) :
    ∃ j, decodeFrom i (encodeChar c ++ rest) = (decodeFrom j rest).map (c :: ·) := by
  have scalar : c.toNat < 0xd800 ∨ 0xdfff < c.toNat ∧ c.toNat < 0x110000 := c.valid
  have back := Char.ofNat_toNat c
  unfold encodeChar
  generalize c.toNat = n at scalar back
  dsimp only
  split
  · have lead : n.toUInt8.toNat = n := toNat_toUInt8 (by omega)
    refine ⟨i + 1, ?_⟩
    rw [List.cons_append, List.nil_append, decodeFrom_one i rest (by omega), lead, back]
  · split
    · have lead : (0xc0 + n / 0x40).toUInt8.toNat = 0xc0 + n / 0x40 := toNat_toUInt8 (by omega)
      have whole : (0xc0 + n / 0x40 - 0xc0) * 0x40 + n % 0x40 = n := by omega
      refine ⟨i + 2, ?_⟩
      rw [List.cons_append, List.cons_append, List.nil_append,
        decodeFrom_two i rest (by omega) (isContinuation_low n), lead, low_eq, whole, back]
    · split
      · have lead : (0xe0 + n / 0x1000).toUInt8.toNat = 0xe0 + n / 0x1000 :=
          toNat_toUInt8 (by omega)
        have second : (0x80 + n / 0x40 % 0x40).toUInt8.toNat = 0x80 + n / 0x40 % 0x40 :=
          toNat_toUInt8 (by omega)
        have admitted : admitsSecond (0xe0 + n / 0x1000).toUInt8
            (0x80 + n / 0x40 % 0x40).toUInt8 = true :=
          admitsSecond_of_bounds (isContinuation_low (n / 0x40)) (by omega) (by omega) (by omega)
            (by omega)
        have whole : (0xe0 + n / 0x1000 - 0xe0) * 0x1000 + n / 0x40 % 0x40 * 0x40 + n % 0x40 =
            n := by
          omega
        refine ⟨i + 3, ?_⟩
        rw [List.cons_append, List.cons_append, List.cons_append, List.nil_append,
          decodeFrom_three i rest (by omega) admitted (isContinuation_low n), lead, low_eq, low_eq,
          whole, back]
      · have lead : (0xf0 + n / 0x40000).toUInt8.toNat = 0xf0 + n / 0x40000 :=
          toNat_toUInt8 (by omega)
        have second : (0x80 + n / 0x1000 % 0x40).toUInt8.toNat = 0x80 + n / 0x1000 % 0x40 :=
          toNat_toUInt8 (by omega)
        have admitted : admitsSecond (0xf0 + n / 0x40000).toUInt8
            (0x80 + n / 0x1000 % 0x40).toUInt8 = true :=
          admitsSecond_of_bounds (isContinuation_low (n / 0x1000)) (by omega) (by omega) (by omega)
            (by omega)
        have whole : (0xf0 + n / 0x40000 - 0xf0) * 0x40000 + n / 0x1000 % 0x40 * 0x1000 +
            n / 0x40 % 0x40 * 0x40 + n % 0x40 = n := by omega
        refine ⟨i + 4, ?_⟩
        rw [List.cons_append, List.cons_append, List.cons_append, List.cons_append, List.nil_append,
          decodeFrom_four i rest (by omega) admitted (isContinuation_low (n / 0x40))
            (isContinuation_low n), lead, low_eq, low_eq, low_eq, whole, back]

theorem decodeFrom_encode (i : Nat) (t : Text) : decodeFrom i (encode t) = .ok t := by
  induction t generalizing i with
  | nil => rfl
  | cons c rest ih =>
    obtain ⟨j, first⟩ := decodeFrom_encodeChar i c (encode rest)
    rw [encode, List.flatMap_cons, ← encode, first, ih]
    rfl

theorem decode_encode (t : Text) : decode (encode t) = .ok t :=
  decodeFrom_encode 0 t

theorem encode_injective {s t : Text} (same : encode s = encode t) : s = t := by
  have h := decode_encode s
  rw [same, decode_encode t] at h
  exact (Except.ok.inj h).symm

/- The converse: bytes that are read as a character are the bytes of that character. -/

theorem toNat_ofNat {n : Nat} (scalar : n < 0xd800 ∨ 0xdfff < n ∧ n < 0x110000) :
    (Char.ofNat n).toNat = n := by
  have valid : n.isValidChar := scalar
  rw [Char.ofNat, dif_pos valid]
  rfl

theorem toUInt8_eq {n : Nat} {b : UInt8} (same : n = b.toNat) : n.toUInt8 = b := by
  rw [same]
  exact UInt8.ofNat_toNat

theorem admitsSecond_bounds {lead second : UInt8} (admitted : admitsSecond lead second = true) :
    (0x80 ≤ second.toNat ∧ second.toNat < 0xc0) ∧ (lead.toNat = 0xe0 → 0xa0 ≤ second.toNat) ∧
      (lead.toNat = 0xed → second.toNat < 0xa0) ∧ (lead.toNat = 0xf0 → 0x90 ≤ second.toNat) ∧
      (lead.toNat = 0xf4 → second.toNat < 0x90) := by
  simp only [admitsSecond, Bool.and_eq_true, isContinuation_iff, Bool.not_eq_true',
    Bool.and_eq_false_iff, decide_eq_false_iff_not, ← UInt8.toNat_inj, UInt8.lt_iff_toNat_lt,
    UInt8.le_iff_toNat_le] at admitted
  simp at admitted
  omega

theorem encodeChar_one {b : UInt8} (lead : b.toNat < 0x80) :
    encodeChar (Char.ofNat b.toNat) = [b] := by
  rw [encodeChar, toNat_ofNat (by omega)]
  simp [lead]

theorem encodeChar_two {b b1 : UInt8} (lead : 0xc2 ≤ b.toNat ∧ b.toNat < 0xe0)
    (later : isContinuation b1 = true) :
    encodeChar (Char.ofNat ((b.toNat - 0xc0) * 0x40 + low b1)) = [b, b1] := by
  rw [isContinuation_iff] at later
  unfold low
  generalize value : (b.toNat - 0xc0) * 0x40 + b1.toNat % 0x40 = n
  rw [encodeChar, toNat_ofNat (by omega)]
  rw [if_neg (by omega), if_pos (by omega), toUInt8_eq (b := b) (by omega),
    toUInt8_eq (b := b1) (by omega)]

theorem encodeChar_three {b b1 b2 : UInt8} (lead : 0xe0 ≤ b.toNat ∧ b.toNat < 0xf0)
    (second : admitsSecond b b1 = true) (later : isContinuation b2 = true) :
    encodeChar (Char.ofNat ((b.toNat - 0xe0) * 0x1000 + low b1 * 0x40 + low b2)) = [b, b1, b2] := by
  rw [isContinuation_iff] at later
  obtain ⟨range, long, surrogate, _, _⟩ := admitsSecond_bounds second
  unfold low
  generalize value : (b.toNat - 0xe0) * 0x1000 + b1.toNat % 0x40 * 0x40 + b2.toNat % 0x40 = n
  rw [encodeChar, toNat_ofNat (by omega)]
  rw [if_neg (by omega), if_neg (by omega), if_pos (by omega), toUInt8_eq (b := b) (by omega),
    toUInt8_eq (b := b1) (by omega), toUInt8_eq (b := b2) (by omega)]

theorem encodeChar_four {b b1 b2 b3 : UInt8} (lead : 0xf0 ≤ b.toNat ∧ b.toNat < 0xf5)
    (second : admitsSecond b b1 = true) (later : isContinuation b2 = true)
    (last : isContinuation b3 = true) :
    encodeChar
    (Char.ofNat ((b.toNat - 0xf0) * 0x40000 + low b1 * 0x1000 + low b2 * 0x40 + low b3)) =
      [b, b1, b2, b3] := by
  rw [isContinuation_iff] at later last
  obtain ⟨range, _, _, longer, past⟩ := admitsSecond_bounds second
  unfold low
  generalize value : (b.toNat - 0xf0) * 0x40000 + b1.toNat % 0x40 * 0x1000 +
    b2.toNat % 0x40 * 0x40 + b3.toNat % 0x40 = n
  rw [encodeChar, toNat_ofNat (by omega)]
  rw [if_neg (by omega), if_neg (by omega), if_neg (by omega), toUInt8_eq (b := b) (by omega),
    toUInt8_eq (b := b1) (by omega), toUInt8_eq (b := b2) (by omega),
    toUInt8_eq (b := b3) (by omega)]

theorem encode_cons (c : Char) (t : Text) : encode (c :: t) = encodeChar c ++ encode t :=
  List.flatMap_cons

theorem encode_of_map {result : Except Defect Text} {c : Char} {front rest : Bytes} {t : Text}
    (first : encodeChar c = front) (tail : ∀ {u}, result = .ok u → encode u = rest)
    (decoded : result.map (c :: ·) = .ok t) : encode t = front ++ rest := by
  cases result with
  | error defect => cases decoded
  | ok u =>
    cases decoded
    rw [encode_cons, first, tail rfl]

theorem encode_of_decodeFrom {i : Nat} {bytes : Bytes} {t : Text}
    (decoded : decodeFrom i bytes = .ok t) :
    encode t = bytes := by
  fun_induction decodeFrom i bytes generalizing t with
  | case1 =>
    cases decoded
    rfl
  | case2 i b rest small ih =>
    exact encode_of_map (encodeChar_one (UInt8.lt_iff_toNat_lt.mp small)) ih decoded
  | case5 i b _ past below b1 rest later ih =>
    rw [UInt8.not_lt, UInt8.le_iff_toNat_le] at past
    exact encode_of_map (encodeChar_two ⟨past, UInt8.lt_iff_toNat_lt.mp below⟩ later) ih decoded
  | case9 i b _ _ past below b1 b2 rest admitted ih =>
    rw [UInt8.not_lt, UInt8.le_iff_toNat_le] at past
    obtain ⟨second, later⟩ := Bool.and_eq_true_iff.mp admitted
    exact encode_of_map (encodeChar_three ⟨past, UInt8.lt_iff_toNat_lt.mp below⟩ second later) ih
      decoded
  | case14 i b _ _ _ past below b1 b2 b3 rest admitted ih =>
    rw [UInt8.not_lt, UInt8.le_iff_toNat_le] at past
    obtain ⟨front, last⟩ := Bool.and_eq_true_iff.mp admitted
    obtain ⟨second, later⟩ := Bool.and_eq_true_iff.mp front
    exact encode_of_map (encodeChar_four ⟨past, UInt8.lt_iff_toNat_lt.mp below⟩ second later last)
      ih decoded
  | _ => cases decoded

/-- The bytes that can be read are the encodings of texts. -/
theorem decode_eq_ok_iff {bytes : Bytes} {t : Text} : decode bytes = .ok t ↔ encode t = bytes :=
  ⟨encode_of_decodeFrom, fun same => same ▸ decode_encode t⟩

theorem decode_eq_error_iff {bytes : Bytes} :
    (∃ defect, decode bytes = .error defect) ↔ ∀ t, encode t ≠ bytes := by
  cases read : decode bytes with
  | error defect => simp [← decode_eq_ok_iff, read]
  | ok t => simp [← decode_eq_ok_iff, read]

theorem ofCodec_decode (name : Text) (bytes : Bytes) :
    (Conversion.ofCodec name codec).decode bytes =
      (decode bytes).mapError fun d => .file (.undecodable name d) none := by
  simp only [Conversion.ofCodec, codec, Codec.strict]
  cases decode bytes <;> rfl

theorem ofCodec_encode (name t : Text) :
    (Conversion.ofCodec name codec).encode t = .ok (encode t) := rfl

theorem codec_utf8 (use : CodecUse) :
    Charset.codec Charset.codecs "utf-8".toList use = .ok codec := by
  cases use <;> rfl

theorem ofName_decode (bytes : Bytes) :
    (Conversion.ofName Charset.codecs "utf-8".toList).decode bytes =
      (decode bytes).mapError fun d => .file (.undecodable "utf-8".toList d) none := by
  rw [Conversion.ofName]
  simp only [codec_utf8, ofCodec_decode]
  cases bytes with
  | nil => rfl
  | cons b rest => rfl

theorem ofName_encode (t : Text) :
    (Conversion.ofName Charset.codecs "utf-8".toList).encode t = .ok (encode t) := by
  rw [Conversion.ofName]
  simp only [codec_utf8, ofCodec_encode]

theorem ofName_inverts {t : Text} {bytes : Bytes}
    (written : (Conversion.ofName Charset.codecs "utf-8".toList).encode t = .ok bytes) :
    (Conversion.ofName Charset.codecs "utf-8".toList).decode bytes = .ok t := by
  rw [ofName_encode] at written
  rw [ofName_decode, ← Except.ok.inj written, decode_encode]
  rfl

end SourceTidy.Utf8
