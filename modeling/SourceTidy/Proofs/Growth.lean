import SourceTidy.Proofs.Resolution

/-!
File systems in the course of a run. A run leaves every directory and link as it is and keeps the
modes of files, so a path leads where it led before. While it goes on there may be further files
(`GrowsTo`). Between the files of a run that takes them in turn there are none (`Alike`).
-/
namespace SourceTidy

theorem Entry.eq_of_outline {a b : Entry} (same : a.outline = b.outline) :
    (∃ content other mode, a = .file content mode ∧ b = .file other mode) ∨ a = b := by
  cases a with
  | file content mode =>
    cases b with
    | file other mode' =>
      obtain rfl : mode = mode' := by simpa [Entry.outline] using same
      exact .inl ⟨content, other, mode, rfl, rfl⟩
    | directory | link target | pipe => cases same
  | directory | link target | pipe =>
    cases b with
    | file other mode' => cases same
    | directory | link target | pipe => exact .inr same

namespace FileSystem

/-- The second file system has the entries of the first one, its files with other contents perhaps,
and further files. -/
structure GrowsTo (fs g : FileSystem) : Prop where
  current : g.current = fs.current
  kept : ∀ {loc : Location} {entry : Entry}, fs.get? loc = some entry →
    ∃ now, g.get? loc = some now ∧ now.outline = entry.outline
  added : ∀ {loc : Location} {entry : Entry}, fs.get? loc = none → g.get? loc = some entry →
    ∃ content mode, entry = .file content mode

theorem GrowsTo.refl (fs : FileSystem) : fs.GrowsTo fs :=
  ⟨rfl, fun found => ⟨_, found, rfl⟩, fun absent found => absurd found (by simp [absent])⟩

section Growth

variable {fs g : FileSystem} {here loc : Location} {parts : List String} {n : Nat} {p : Path}

theorem GrowsTo.same_iff (grows : fs.GrowsTo g) {entry : Entry}
    (other : ∀ content mode, entry ≠ .file content mode) :
    g.get? loc = some entry ↔ fs.get? loc = some entry := by
  have exact_of_outline {a : Entry} (same : a.outline = entry.outline) : a = entry := by
    rcases Entry.eq_of_outline same with ⟨_, content, mode, _, rfl⟩ | equal
    · exact absurd rfl (other content mode)
    · exact equal
  constructor
  · intro found
    cases before : fs.get? loc with
    | none =>
      obtain ⟨content, mode, rfl⟩ := grows.added before found
      exact absurd rfl (other content mode)
    | some old =>
      obtain ⟨now, there, same⟩ := grows.kept before
      rw [found] at there
      cases there
      rw [exact_of_outline same.symm]
  · intro found
    obtain ⟨now, there, same⟩ := grows.kept found
    rw [there, exact_of_outline same]

theorem GrowsTo.directory_iff (grows : fs.GrowsTo g) :
    g.get? loc = some .directory ↔ fs.get? loc = some .directory :=
  grows.same_iff (by simp)

theorem GrowsTo.link_iff (grows : fs.GrowsTo g) {target : Text} :
    g.get? loc = some (.link target) ↔ fs.get? loc = some (.link target) :=
  grows.same_iff (by simp)

theorem GrowsTo.leads (grows : fs.GrowsTo g) (leads : fs.Leads here parts loc n) :
    g.Leads here parts loc n := by
  induction leads with
  | done here => exact .done here
  | stay there dot _ ih => exact .stay (grows.directory_iff.mpr there) dot ih
  | up there dots _ ih => exact .up (grows.directory_iff.mpr there) dots ih
  | enter there passable found plain _ ih =>
    obtain ⟨now, there', _⟩ := grows.kept found
    refine .enter (grows.directory_iff.mpr there) passable there' ?_ ih
    rintro target rfl
    rw [grows.link_iff.mp there'] at found
    exact plain target (Option.some.inj found).symm
  | follow there passable found _ ih =>
    exact .follow (grows.directory_iff.mpr there) passable (grows.link_iff.mpr found) ih

/-- No new way leads to a directory, because a new file leads nowhere. -/
theorem GrowsTo.leads_directory (grows : fs.GrowsTo g) (leads : g.Leads here parts loc n)
    (there : g.get? loc = some .directory) : fs.Leads here parts loc n := by
  induction leads with
  | done here => exact .done here
  | stay at_here dot _ ih => exact .stay (grows.directory_iff.mp at_here) dot (ih there)
  | up at_here dots _ ih => exact .up (grows.directory_iff.mp at_here) dots (ih there)
  | @enter here _ part _ entry _ at_here passable found plain later ih =>
    cases before : fs.get? (here ++ [part]) with
    | none =>
      obtain ⟨content, mode, rfl⟩ := grows.added before found
      rw [later.of_file found, found] at there
      cases there
    | some old =>
      refine .enter (grows.directory_iff.mp at_here) passable before ?_ (ih there)
      rintro target rfl
      rw [grows.link_iff.mpr before] at found
      exact plain target (Option.some.inj found).symm
  | follow at_here passable found _ ih =>
    exact .follow (grows.directory_iff.mp at_here) passable (grows.link_iff.mp found) (ih there)

theorem GrowsTo.locate (grows : fs.GrowsTo g) (found : fs.locate true p = .ok loc) :
    g.locate true p = .ok loc := by
  obtain ⟨n, few, leads⟩ := locate_iff.mp found
  rw [← grows.current] at leads
  exact locate_iff.mpr ⟨n, few, grows.leads leads⟩

theorem GrowsTo.isDirectory (grows : fs.GrowsTo g) (p : Path) :
    g.isDirectory p = fs.isDirectory p := by
  apply Bool.eq_iff_iff.mpr
  rw [isDirectory_iff, isDirectory_iff]
  constructor
  · rintro ⟨loc, found, there⟩
    obtain ⟨n, few, leads⟩ := locate_iff.mp found
    rw [grows.current] at leads
    exact ⟨loc, locate_iff.mpr ⟨n, few, grows.leads_directory leads there⟩,
      grows.directory_iff.mp there⟩
  · rintro ⟨loc, found, there⟩
    exact ⟨loc, grows.locate found, grows.directory_iff.mpr there⟩

/- Changes under which a file system goes on growing from the first one. -/

theorem GrowsTo.set_kept (grows : fs.GrowsTo g) {old : Bytes} {mode : Nat}
    (there : fs.get? loc = some (.file old mode)) (content : Bytes) :
    fs.GrowsTo (g.set loc (.file content mode)) := by
  have inner := IsTree.file_ne_nil there
  refine ⟨grows.current, ?_, ?_⟩
  · intro k entry found
    rw [get?_set _ inner]
    by_cases hit : k = loc
    · subst hit
      rw [there] at found
      cases found
      exact ⟨_, if_pos rfl, rfl⟩
    · rw [if_neg hit]
      exact grows.kept found
  · intro k entry absent found
    rw [get?_set _ inner, if_neg] at found
    · exact grows.added absent found
    · rintro rfl
      rw [there] at absent
      cases absent

theorem GrowsTo.set_added (grows : fs.GrowsTo g) (inner : loc ≠ []) (free : fs.get? loc = none)
    (content : Bytes) (mode : Nat) : fs.GrowsTo (g.set loc (.file content mode)) := by
  refine ⟨grows.current, ?_, ?_⟩
  · intro k entry found
    rw [get?_set _ inner, if_neg]
    · exact grows.kept found
    · rintro rfl
      rw [free] at found
      cases found
  · intro k entry absent found
    rw [get?_set _ inner] at found
    split at found
    · cases found
      exact ⟨content, mode, rfl⟩
    · exact grows.added absent found

theorem GrowsTo.erase_added (grows : fs.GrowsTo g) (inner : loc ≠ []) (free : fs.get? loc = none) :
    fs.GrowsTo (g.erase loc) := by
  refine ⟨grows.current, ?_, ?_⟩
  · intro k entry found
    rw [get?_erase inner, if_neg]
    · exact grows.kept found
    · rintro rfl
      rw [free] at found
      cases found
  · intro k entry absent found
    rw [get?_erase inner] at found
    split at found
    · cases found
    · exact grows.added absent found

theorem GrowsTo.stat_file (grows : fs.GrowsTo g) {content : Bytes} {mode : Nat}
    (found : fs.locate true p = .ok loc) (there : g.get? loc = some (.file content mode)) :
    g.stat p = .ok (.file content mode) :=
  stat_of_locate (grows.locate found) there

end Growth

/- File systems that differ in the contents of files only. -/

structure Alike (fs g : FileSystem) : Prop where
  current : g.current = fs.current
  locations : g.locations = fs.locations
  outlines : ∀ loc, (g.get? loc).map Entry.outline = (fs.get? loc).map Entry.outline

theorem Alike.refl (fs : FileSystem) : fs.Alike fs :=
  ⟨rfl, rfl, fun _ => rfl⟩

section Alikeness

variable {fs g : FileSystem} {loc : Location}

theorem Alike.file_or_same (alike : fs.Alike g) (loc : Location) :
    (∃ old new mode, fs.get? loc = some (.file old mode) ∧ g.get? loc = some (.file new mode)) ∨
      g.get? loc = fs.get? loc := by
  have outlines := alike.outlines loc
  cases before : fs.get? loc with
  | none =>
    rw [before] at outlines
    exact .inr (by simpa using outlines)
  | some entry =>
    rw [before] at outlines
    obtain ⟨now, after, same⟩ := Option.map_eq_some_iff.mp outlines
    rcases Entry.eq_of_outline same with ⟨new, old, mode, rfl, rfl⟩ | rfl
    · exact .inl ⟨old, new, mode, rfl, after⟩
    · exact .inr after

theorem Alike.resolveFrom (alike : fs.Alike g) (follow : Bool) (links : Nat) (here : Location)
    (parts : List String) :
    g.resolveFrom follow links here parts = fs.resolveFrom follow links here parts := by
  have same {k : Location} {entry : Option Entry} (found : fs.get? k = entry)
      (other : ∀ content mode, entry ≠ some (.file content mode)) : g.get? k = entry := by
    rcases alike.file_or_same k with ⟨old, _, mode, before, _⟩ | equal
    · exact absurd (found.symm.trans before) (other old mode)
    · exact equal.trans found
  fun_induction FileSystem.resolveFrom fs follow links here parts with
  | case1 links here => rw [FileSystem.resolveFrom]
  | case2 links here part rest none =>
    rw [FileSystem.resolveFrom, same none (by simp)]
  | case3 links here rest there ih =>
    rw [resolveFrom_stay (same there (by simp)) rfl, ih]
  | case4 links here rest there _ ih =>
    rw [resolveFrom_up (same there (by simp)) rfl, ih]
  | case5 links here part rest there inward notUp long =>
    rw [FileSystem.resolveFrom, same there (by simp)]
    simp [inward, notUp, long]
  | case6 links here part rest there inward notUp short none =>
    rw [FileSystem.resolveFrom, same there (by simp)]
    simp [inward, notUp, short, same none (by simp)]
  | case7 links here part rest there inward notUp short target link stops =>
    rw [FileSystem.resolveFrom, same there (by simp)]
    simp only [inward, notUp, short, same link (by simp), stops, if_true, if_false]
  | case8 here part rest there inward notUp short target link goes_on =>
    rw [FileSystem.resolveFrom, same there (by simp)]
    simp [inward, notUp, short, same link (by simp), goes_on]
  | case9 here part rest there inward notUp short target link goes_on left ih =>
    rw [FileSystem.resolveFrom, same there (by simp)]
    simp only [inward, notUp, short, same link (by simp), goes_on, if_false, ih]
    rfl
  | case10 links here part rest there inward notUp short entry plain found ih =>
    have passable : Passable part := ⟨inward, notUp, Nat.le_of_not_lt short⟩
    rcases alike.file_or_same (here ++ [part]) with ⟨_, new, mode, _, now⟩ | equal
    · rw [resolveFrom_enter (same there (by simp)) passable now (by simp), ih]
    · rw [resolveFrom_enter (same there (by simp)) passable (equal.trans found) plain, ih]
  | case11 links here part rest entry other found =>
    rcases alike.file_or_same here with ⟨_, new, mode, _, now⟩ | equal
    · rw [FileSystem.resolveFrom, now]
    · rw [FileSystem.resolveFrom, equal, found]
      split <;> simp_all

theorem Alike.locate (alike : fs.Alike g) (follow : Bool) (p : Path) :
    g.locate follow p = fs.locate follow p := by
  unfold FileSystem.locate
  rw [alike.current, alike.resolveFrom]

theorem Alike.growsTo (alike : fs.Alike g) : fs.GrowsTo g := by
  refine ⟨alike.current, ?_, ?_⟩
  · intro loc entry found
    have outlines := alike.outlines loc
    rw [found] at outlines
    exact Option.map_eq_some_iff.mp outlines
  · intro loc entry absent found
    have outlines := alike.outlines loc
    rw [absent, found] at outlines
    cases outlines

theorem Alike.set_file (alike : fs.Alike g) {old : Bytes} {mode : Nat}
    (there : fs.get? loc = some (.file old mode)) (content : Bytes) :
    fs.Alike (g.set loc (.file content mode)) := by
  have inner := IsTree.file_ne_nil there
  have member : loc ∈ g.locations := alike.locations ▸ mem_locations_of_get? inner there
  refine ⟨alike.current, (locations_set_of_mem _ member).trans alike.locations, ?_⟩
  intro k
  rw [get?_set _ inner]
  by_cases hit : k = loc
  · rw [if_pos hit, hit, there]
    rfl
  · rw [if_neg hit]
    exact alike.outlines k

end Alikeness

end FileSystem

end SourceTidy
