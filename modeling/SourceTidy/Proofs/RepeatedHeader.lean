import SourceTidy.Proofs.RegionLines
import SourceTidy.Proofs.RepeatedRuns

/-!
The header pass on its own result.

What the pass wrote is carried, whatever line breaks stand below it. It is not found again in one
case: a header that begins with a byte order mark goes to a text that has none. The second pass then
takes the header's own mark for that of the text, and writes the header once more.
-/
namespace SourceTidy.Header

open Text Java

theorem isComment_spaced (t : Text) : isComment (spaced t) = false := by
  cases t with
  | nil => rfl
  | cons c t => rfl

theorem carries_spaced {header : Text} (rest : Text) (ends : EndsInInk header)
    (clean : '\r' ∉ header) :
    carries (header ++ '\n' :: spaced rest) header = true :=
  carries_self ends clean fun _ _ => isComment_spaced rest

/- A header that begins with a mark is no comment region, so it is carried by texts that start with
it. -/

theorem carries_marked {k t : Text} (carried : carries t (mark :: k) = true) :
    ∃ rest, canonicalBreaks t = mark :: (k ++ rest) := by
  have other : ¬ IsRegion (mark :: k) := by
    rcases find_shape (mark :: k) with ⟨rest, same⟩ | ⟨rest, same⟩ | ⟨unfound, _⟩
    · exact absurd (List.cons.inj same).1 (by decide)
    · exact absurd (List.cons.inj same).1 (by decide)
    · simp [IsRegion, unfound]
  rcases (carries_of_no_region other).mp carried with exact | ⟨rest, whole⟩
  · exact ⟨[], by simpa using exact⟩
  · exact ⟨'\n' :: rest, by rw [← whole]; simp⟩

/-- One more mark in front shifts the line feed, however many marks the header has. -/
theorem shifted_ne (k x y : Text) : k ++ '\n' :: x ≠ mark :: (k ++ y) := by
  induction k with
  | nil =>
    intro same
    exact absurd (List.cons.inj same).1 (by decide)
  | cons c k ih =>
    intro same
    obtain ⟨first, tail⟩ := List.cons.inj same
    subst first
    exact ih tail

theorem headed_unmarked {k t : Text} (clean : '\r' ∉ k) (unmarked : t.head? ≠ some mark) :
    headed (mark :: k) (headed (mark :: k) t) ≠ headed (mark :: k) t := by
  have first : headed (mark :: k) t = [mark] ++ (k ++ '\n' :: spaced (body t)) := by
    have missing : carries t (mark :: k) ≠ true := by
      intro carried
      obtain ⟨rest, whole⟩ := carries_marked carried
      have marked : (canonicalBreaks t).head? = some mark := by rw [whole]; rfl
      exact unmarked ((head_canonicalBreaks (by decide) (by decide)).mp marked)
    exact headed_of_not_carries (.inl rfl) (fun _ => unmarked) missing
  have missing : carries (k ++ '\n' :: spaced (body t)) (mark :: k) ≠ true := by
    intro carried
    obtain ⟨rest, whole⟩ := carries_marked carried
    rw [canonicalBreaks_append _ clean, canonicalBreaks, replaceBreaks_feed] at whole
    exact shifted_ne k _ _ whole
  rw [first, headed_of_not_carries (.inr rfl) (by simp) missing]
  intro same
  exact shifted_ne k _ _ (List.append_cancel_left same).symm

theorem carries_headed {header t : Text} (ends : EndsInInk header) (clean : '\r' ∉ header)
    (apart : header.head? = some mark → t.head? = some mark) :
    carries (splitMark (headed header t)).2 header = true := by
  by_cases carried : carries (splitMark t).2 header = true
  · have kept : headed header t = t := by rw [headed, if_pos carried]
    rw [kept, carried]
  · have wrote : headed header t =
        (splitMark t).1 ++ (header ++ '\n' :: spaced (body (splitMark t).2)) := by
      rw [headed, if_neg carried]
    have unmarked : (splitMark t).1 = [] →
        (header ++ '\n' :: spaced (body (splitMark t).2)).head? ≠ some mark := by
      intro bare marked
      rw [List.head?_append_of_ne_nil _ ends.ne_nil] at marked
      obtain ⟨rest, rfl⟩ : ∃ rest, t = mark :: rest := ⟨_, List.eq_cons_of_mem_head? (apart marked)⟩
      rw [splitMark_mark] at bare
      cases bare
    rw [wrote, splitMark_append (splitMark_spec t).2 unmarked]
    exact carries_spaced _ ends clean

theorem headed_headed {header t : Text} (ends : EndsInInk header) (clean : '\r' ∉ header)
    (apart : header.head? = some mark → t.head? = some mark) :
    headed header (headed header t) = headed header t := by
  rw [headed, if_pos (carries_headed ends clean apart)]

/-- The header pass gives its own result again exactly if it does not put a header that begins with
a byte order mark above a text that has none. -/
theorem insert_again_iff (text header : Text) :
    insert (insert text header) header = insert text header ↔
      ((normalize header).head? = some mark → text.head? = some mark) := by
  by_cases visible : normalize header = []
  · simp [insert, isSettled, visible]
  · rw [insert_eq_headed visible, insert_eq_headed visible]
    have ends : EndsInInk (normalize header) := endsInInk_stripRight visible
    have clean : '\r' ∉ normalize header := by
      intro inside
      exact canonicalBreaks_clean header (mem_of_mem_trimRight inside)
    constructor
    · intro again marked
      by_contra unmarked
      obtain ⟨k, whole⟩ : ∃ k, normalize header = mark :: k :=
        ⟨_, List.eq_cons_of_mem_head? marked⟩
      rw [whole] at again clean
      exact headed_unmarked (fun inside => clean (List.mem_cons_of_mem _ inside)) unmarked again
    · intro apart
      exact headed_headed ends clean apart

example : insert (insert "a\n".toList (mark :: "//".toList)) (mark :: "//".toList) ≠
    insert "a\n".toList (mark :: "//".toList) := by
  decide

end SourceTidy.Header
