import Mathlib.Data.Nat.Digits.Defs
import SourceTidy.Java.SourceLevel
import SourceTidy.Proofs.ProfileFormats

namespace SourceTidy

namespace Digit

/-- The character is a decimal digit of some script, and this is its value. -/
def HasValue (c : Char) (value : Nat) : Prop :=
  value < 10 ∧ ∃ base ∈ zeros, c.toNat = base + value

structure AreDigits (t : Text) (values : List Nat) : Prop where
  nonempty : t ≠ []
  digits : List.Forall₂ HasValue t values

theorem zeros_apart : ∀ a ∈ zeros, ∀ b ∈ zeros, a < b → a + 10 ≤ b := by
  decide +kernel

theorem value?_eq_some_iff {c : Char} {value : Nat} : value? c = some value ↔ HasValue c value := by
  unfold value? HasValue
  rw [Option.map_eq_some_iff]
  constructor
  · rintro ⟨base, found, rfl⟩
    have range := List.find?_some found
    rw [Bool.and_eq_true, decide_eq_true_eq, decide_eq_true_eq] at range
    exact ⟨by omega, base, List.mem_of_find?_eq_some found, by omega⟩
  · rintro ⟨small, base, listed, place⟩
    have inRange : (base ≤ c.toNat && c.toNat < base + 10) = true := by
      rw [Bool.and_eq_true, decide_eq_true_eq, decide_eq_true_eq]
      omega
    -- The table holds one zero at most within ten places below the character.
    obtain ⟨first, found⟩ : ∃ first, zeros.find? (fun z => z ≤ c.toNat && c.toNat < z + 10) =
        some first :=
      Option.isSome_iff_exists.mp (List.find?_isSome.mpr ⟨base, listed, inRange⟩)
    have range := List.find?_some found
    rw [Bool.and_eq_true, decide_eq_true_eq, decide_eq_true_eq] at range
    have below := zeros_apart first (List.mem_of_find?_eq_some found) base listed
    have above := zeros_apart base listed first (List.mem_of_find?_eq_some found)
    exact ⟨first, found, by omega⟩

theorem mapM_value?_eq_some_iff {t : Text} {values : List Nat} :
    t.mapM value? = some values ↔ List.Forall₂ HasValue t values := by
  induction t generalizing values with
  | nil => simp [eq_comm]
  | cons c t ih =>
    simp only [List.mapM_cons, Option.bind_eq_bind, Option.bind_eq_some_iff, value?_eq_some_iff, ih,
      List.forall₂_cons_left_iff]
    constructor
    · rintro ⟨value, has, more, below, same⟩
      exact ⟨value, more, has, below, (Option.some.inj same).symm⟩
    · rintro ⟨value, more, has, below, rfl⟩
      exact ⟨value, has, more, below, rfl⟩

theorem number_eq_ofDigits (values : List Nat) :
    number values = Nat.ofDigits 10 values.reverse := by
  induction values using List.reverseRecOn with
  | nil => rfl
  | append_singleton front value ih =>
    rw [List.reverse_append, List.reverse_singleton, List.singleton_append, Nat.ofDigits_cons, ← ih]
    simp [number, Nat.add_comm]

theorem HasValue.not_space {c : Char} {value : Nat} (has : HasValue c value) :
    Text.isSpace c = false := by
  obtain ⟨small, base, listed, place⟩ := has
  have apart : ∀ base ∈ zeros, ∀ value < 10,
      (Text.spaces.any fun r => r.1 ≤ base + value && base + value ≤ r.2) = false := by
    decide +kernel
  rw [Text.isSpace, Text.within, place]
  exact apart base listed value small

theorem HasValue.ne_point {c : Char} {value : Nat} (has : HasValue c value) : c ≠ '.' := by
  rintro rfl
  obtain ⟨small, base, listed, place⟩ := has
  have apart : ∀ base ∈ zeros, 0x30 ≤ base := by decide
  have point : '.'.toNat = 0x2e := rfl
  have := apart base listed
  omega

theorem AreDigits.hasValue_of_mem {t : Text} {values : List Nat} (are : AreDigits t values)
    {c : Char} (member : c ∈ t) : ∃ value, HasValue c value := by
  have digits := are.digits
  clear are
  induction digits with
  | nil => contradiction
  | cons has _ ih =>
    rcases List.mem_cons.mp member with rfl | member
    · exact ⟨_, has⟩
    · exact ih member

theorem digitChar_hasValue : ∀ value < 10, HasValue (Nat.digitChar value) value := by
  have place : ∀ value < 10, (Nat.digitChar value).toNat = 0x30 + value := by decide
  intro value small
  exact ⟨small, 0x30, by decide, place value small⟩

theorem toDigits_areDigits (n : Nat) :
    ∃ values, AreDigits (Nat.toDigits 10 n) values ∧ Nat.ofDigits 10 values.reverse = n := by
  induction n using Nat.strongRecOn with
  | ind n ih =>
    by_cases small : n < 10
    · rw [Nat.toDigits_of_lt_base small]
      refine ⟨[n], ⟨by simp, .cons (digitChar_hasValue n small) .nil⟩, ?_⟩
      simp [Nat.ofDigits_singleton]
    · -- The last digit comes off, and the others are those of a tenth.
      obtain ⟨values, front, tenth⟩ := ih (n / 10) (by omega)
      rw [Nat.toDigits_of_base_le (by decide) (by omega)]
      have last : List.Forall₂ HasValue [Nat.digitChar (n % 10)] [n % 10] :=
        .cons (digitChar_hasValue _ (by omega)) .nil
      refine ⟨values ++ [n % 10], ⟨by simp, List.rel_append front.digits last⟩, ?_⟩
      rw [List.reverse_append, List.reverse_singleton, List.singleton_append, Nat.ofDigits_cons,
        tenth]
      exact Nat.mod_add_div n 10

end Digit

namespace Text

/-- The text is another one with white space around it. -/
def Pads (t body : Text) : Prop :=
  ∃ before after, (∀ c ∈ before, isSpace c = true) ∧ (∀ c ∈ after, isSpace c = true) ∧
    t = before ++ (body ++ after)

theorem pads_self (t : Text) : Pads t t :=
  ⟨[], [], by simp, by simp, by simp⟩

theorem pads_strip (t : Text) : Pads t (strip t) := by
  obtain ⟨after, back, split⟩ := trimRight_append_rest isSpace (t.dropWhile isSpace)
  refine ⟨t.takeWhile isSpace, after, fun c member => List.mem_takeWhile_imp member, back, ?_⟩
  rw [strip, trim, split, List.takeWhile_append_dropWhile]

theorem Pads.strip_eq {t body : Text} (pads : Pads t body) (tight : body.IsTight) :
    strip t = body := by
  obtain ⟨before, after, front, back, rfl⟩ := pads
  exact strip_padded tight front back

theorem isTight_of_no_space {t : Text} (free : ∀ c ∈ t, isSpace c = false) : t.IsTight :=
  ⟨fun c first => free c (List.mem_of_mem_head? first),
    fun c last => free c (List.mem_of_mem_getLast? last)⟩

end Text

namespace Java.SourceLevel

open Digit Text

/-- The level is written by these digits, perhaps after `1.`, with white space around them. -/
def Spells (level digits : Text) : Prop :=
  Pads level digits ∨ Pads level ('1' :: '.' :: digits)

/-- The digits write this number, and they are not too many to be read. -/
def Denotes (digits : Text) (n : Nat) : Prop :=
  ∃ values, AreDigits digits values ∧ digits.length ≤ 4300 ∧ Nat.ofDigits 10 values.reverse = n

/-- Why a text is refused: it is spelled by no digits, or by too many. -/
inductive Refused (level : Text) : LevelFault → Prop
  | malformed (unspelled : ∀ digits values, Spells level digits → ¬AreDigits digits values) :
      Refused level (.malformed level)
  | tooLong {digits : Text} {values : List Nat} (spells : Spells level digits)
      (areDigits : AreDigits digits values) (long : 4300 < digits.length) :
      Refused level (.tooLong digits.length)

theorem dropOne_eq_iff {t digits : Text} (unpointed : '.' ∉ digits) :
    dropOne t = digits ↔ t = digits ∨ t = '1' :: '.' :: digits := by
  fun_cases dropOne t with
  | case1 rest =>
    constructor
    · rintro rfl
      exact .inr rfl
    · rintro (rfl | same)
      · exact absurd (by simp) unpointed
      · exact (List.cons.inj (List.cons.inj same).2).2
  | case2 t other =>
    constructor
    · exact .inl
    · rintro (rfl | rfl)
      · rfl
      · exact absurd rfl (other digits)

/-- Digits that spell a level are what is left when white space and `1.` are gone. -/
theorem spells_iff {level digits : Text} {values : List Nat} (are : AreDigits digits values) :
    Spells level digits ↔ dropOne (strip level) = digits := by
  have solid (c : Char) (member : c ∈ digits) : isSpace c = false := by
    obtain ⟨value, has⟩ := are.hasValue_of_mem member
    exact has.not_space
  have unpointed : '.' ∉ digits := by
    intro member
    obtain ⟨value, has⟩ := are.hasValue_of_mem member
    exact has.ne_point rfl
  have plain : digits.IsTight := isTight_of_no_space solid
  have pointed : IsTight ('1' :: '.' :: digits) := by
    apply isTight_of_no_space
    rw [List.forall_mem_cons, List.forall_mem_cons]
    exact ⟨by decide, by decide, solid⟩
  rw [dropOne_eq_iff unpointed, Spells]
  constructor
  · rintro (pads | pads)
    · exact .inl (pads.strip_eq plain)
    · exact .inr (pads.strip_eq pointed)
  · rintro (same | same)
    · exact .inl (same ▸ pads_strip level)
    · exact .inr (same ▸ pads_strip level)

theorem ofText_of_spells {level digits : Text} {values : List Nat} (spells : Spells level digits)
    (are : AreDigits digits values) :
    ofText level = if digits.length ≤ 4300 then .ok (Nat.ofDigits 10 values.reverse)
      else .error (.tooLong digits.length) := by
  have read : (dropOne (strip level)).mapM value? = some values := by
    rw [(spells_iff are).mp spells, mapM_value?_eq_some_iff]
    exact are.digits
  have size : digits.length = values.length := are.digits.length_eq
  obtain ⟨value, more, rfl⟩ : ∃ value more, values = value :: more := by
    apply List.exists_cons_of_ne_nil
    rintro rfl
    exact are.nonempty (List.eq_nil_of_length_eq_zero size)
  rw [ofText, read, size, ← number_eq_ofDigits]
  rfl

theorem ofText_of_unspelled {level : Text}
    (unspelled : ∀ digits values, Spells level digits → ¬AreDigits digits values) :
    ofText level = .error (.malformed level) := by
  rw [ofText]
  split
  · rename_i value more read
    rw [mapM_value?_eq_some_iff] at read
    have are : AreDigits (dropOne (strip level)) (value :: more) := by
      refine ⟨?_, read⟩
      intro empty
      rw [empty] at read
      cases read
    exact absurd are (unspelled _ _ ((spells_iff are).mpr rfl))
  · rfl

theorem ofText_eq_ok_iff {level : Text} {n : Nat} :
    ofText level = .ok n ↔ ∃ digits, Spells level digits ∧ Denotes digits n := by
  constructor
  · intro read
    by_cases spelled : ∃ digits values, Spells level digits ∧ AreDigits digits values
    · obtain ⟨digits, values, spells, are⟩ := spelled
      rw [ofText_of_spells spells are] at read
      split at read
      · rename_i short
        exact ⟨digits, spells, values, are, short, Except.ok.inj read⟩
      · cases read
    · rw [ofText_of_unspelled fun digits values spells are => spelled
        ⟨digits, values, spells, are⟩] at read
      cases read
  · rintro ⟨digits, spells, values, are, short, rfl⟩
    rw [ofText_of_spells spells are, if_pos short]

theorem ofText_eq_error_iff {level : Text} {fault : LevelFault} :
    ofText level = .error fault ↔ Refused level fault := by
  constructor
  · intro read
    by_cases spelled : ∃ digits values, Spells level digits ∧ AreDigits digits values
    · obtain ⟨digits, values, spells, are⟩ := spelled
      rw [ofText_of_spells spells are] at read
      split at read
      · cases read
      · rename_i long
        cases read
        exact .tooLong spells are (by omega)
    · have unspelled : ∀ digits values, Spells level digits → ¬AreDigits digits values :=
        fun digits values spells are => spelled ⟨digits, values, spells, are⟩
      rw [ofText_of_unspelled unspelled] at read
      cases read
      exact .malformed unspelled
  · rintro (unspelled | ⟨spells, are, long⟩)
    · exact ofText_of_unspelled unspelled
    · rw [ofText_of_spells spells are, if_neg (by omega)]

theorem length_toDigits_le {n k : Nat} (positive : 0 < k) (small : n < 10 ^ k) :
    (Nat.toDigits 10 n).length ≤ k :=
  (Nat.length_toDigits_le_iff (by decide) positive).mpr small

theorem denotes_ofNat {n : Nat} (small : n < 10 ^ 4300) : Denotes (Numeral.ofNat n).toList n := by
  obtain ⟨values, are, same⟩ := toDigits_areDigits n
  rw [Numeral.ofNat, String.toList_ofList]
  exact ⟨values, are, length_toDigits_le (by decide) small, same⟩

/-- A text is a level if and only if it spells one by digits that can be read, and the level is
their value; every other text is refused. The digits are a level themselves, `1.` makes no
difference to them, and every number that is not too long is read from its rendering. -/
theorem ofText_exact :
    (∀ level n, ofText level = .ok n ↔ ∃ digits, Spells level digits ∧ Denotes digits n) ∧
      (∀ level fault, ofText level = .error fault ↔ Refused level fault) ∧
      (∀ digits n, Denotes digits n →
        ofText digits = .ok n ∧ ofText ('1' :: '.' :: digits) = ofText digits) ∧
      ∀ n < 10 ^ 4300, ofText (Numeral.ofNat n).toList = .ok n := by
  have plain {digits : Text} {n : Nat} (denotes : Denotes digits n) : ofText digits = .ok n :=
    ofText_eq_ok_iff.mpr ⟨digits, .inl (pads_self digits), denotes⟩
  have pointed {digits : Text} {n : Nat} (denotes : Denotes digits n) :
      ofText ('1' :: '.' :: digits) = .ok n :=
    ofText_eq_ok_iff.mpr ⟨digits, .inr (pads_self _), denotes⟩
  refine ⟨fun level n => ofText_eq_ok_iff, fun level fault => ofText_eq_error_iff, ?_, ?_⟩
  · intro digits n denotes
    exact ⟨plain denotes, (pointed denotes).trans (plain denotes).symm⟩
  · intro n small
    exact plain (denotes_ofNat small)

def seventeen : Text := "1٧".toList

theorem denotes_seventeen : Denotes seventeen 17 := by
  have one : HasValue '1' 1 := ⟨by decide, 0x30, by decide, by decide⟩
  have seven : HasValue '٧' 7 := ⟨by decide, 0x660, by decide, by decide⟩
  exact ⟨[1, 7], ⟨by decide, .cons one (.cons seven .nil)⟩, by decide, by decide⟩

theorem ofText_exact_mixed :
    ofText ("\t1.1٧\u3000".toList) = .ok 17 ∧ Denotes seventeen 17 ∧ ofText seventeen = .ok 17 ∧
      ofText ('1' :: '.' :: seventeen) = ofText seventeen ∧ 17 < 10 ^ 4300 ∧
      ofText (Numeral.ofNat 17).toList = .ok 17 := by
  obtain ⟨accepted, _, plain, rendered⟩ := ofText_exact
  have padded : Pads "\t1.1٧\u3000".toList ('1' :: '.' :: seventeen) :=
    ⟨['\t'], ['\u3000'], List.forall_mem_singleton.mpr (by decide),
      List.forall_mem_singleton.mpr (by decide), by decide⟩
  have larger (k : Nat) (two : 2 ≤ k) : 17 < 10 ^ k :=
    Nat.lt_of_lt_of_le (by decide : 17 < 10 ^ 2) (Nat.pow_le_pow_right (by decide) two)
  have small := larger 4300 (by decide)
  obtain ⟨read, same⟩ := plain seventeen 17 denotes_seventeen
  exact ⟨(accepted _ 17).mpr ⟨seventeen, .inr padded, denotes_seventeen⟩, denotes_seventeen, read,
    same, small, rendered 17 small⟩

end Java.SourceLevel

end SourceTidy
