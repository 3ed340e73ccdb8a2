import Mathlib.Data.List.Induction
import Mathlib.Data.List.Nodup
import SourceTidy.Files.Change

/-!
File trees, and what the basic changes do to them.

A file system is a tree if every entry stands in a directory, no two stand at one location, and
every name can be a component of a path. It is known by its locations, in order, and the entry at
each (`eq_of_get?`), and all changes are described by their effect on these two.
-/
namespace SourceTidy

/-- The entry without the contents of a file. -/
def Entry.outline : Entry → Entry
  | .file _ mode => .file [] mode
  | entry => entry

namespace FileSystem

def locations (fs : FileSystem) : List Location :=
  fs.entries.map Prod.fst

@[simp] theorem get?_nil (fs : FileSystem) : fs.get? [] = some .directory := by
  simp [get?]

theorem get?_of_ne {fs : FileSystem} {loc : Location} (inner : loc ≠ []) :
    fs.get? loc = fs.entries.lookup loc := by
  simp [get?, inner]

theorem get?_eq_none_iff {fs : FileSystem} {loc : Location} (inner : loc ≠ []) :
    fs.get? loc = none ↔ loc ∉ fs.locations := by
  rw [get?_of_ne inner, List.lookup_eq_none_iff, locations]
  constructor
  · intro away inside
    obtain ⟨e, member, rfl⟩ := List.mem_map.mp inside
    exact absurd (away e member) (by simp)
  · intro away e member
    have other : e.1 ≠ loc := fun same => away (List.mem_map.mpr ⟨e, member, same⟩)
    simpa using Ne.symm other

theorem mem_of_get? {fs : FileSystem} {loc : Location} {entry : Entry} (inner : loc ≠ [])
    (found : fs.get? loc = some entry) : (loc, entry) ∈ fs.entries := by
  rw [get?_of_ne inner] at found
  obtain ⟨before, after, split, _⟩ := List.lookup_eq_some_iff.mp found
  simp [split]

theorem mem_locations_of_get? {fs : FileSystem} {loc : Location} {entry : Entry} (inner : loc ≠ [])
    (found : fs.get? loc = some entry) : loc ∈ fs.locations :=
  List.mem_map.mpr ⟨(loc, entry), mem_of_get? inner found, rfl⟩

theorem lookup_cons_ne {k j : Location} (entry : Entry) (l : List (Location × Entry))
    (other : k ≠ j) :
    ((j, entry) :: l).lookup k = l.lookup k := by
  have differ : (k == j) = false := by simpa using other
  simp [List.lookup_cons, differ]

theorem eq_of_lookup {l m : List (Location × Entry)} (same : l.map Prod.fst = m.map Prod.fst)
    (distinct : (l.map Prod.fst).Nodup) (agree : ∀ k ∈ l.map Prod.fst, l.lookup k = m.lookup k) :
    l = m := by
  induction l generalizing m with
  | nil =>
    cases m with
    | nil => rfl
    | cons e m => cases same
  | cons d l ih =>
    cases m with
    | nil => cases same
    | cons e m =>
      obtain ⟨k, x⟩ := d
      obtain ⟨k', y⟩ := e
      simp only [List.map_cons, List.cons.injEq] at same
      obtain ⟨rfl, rest⟩ := same
      simp only [List.map_cons, List.nodup_cons] at distinct
      have first : x = y := by simpa using agree k (by simp)
      have tail : l = m := by
        apply ih rest distinct.2
        intro j member
        have other : j ≠ k := by
          rintro rfl
          exact distinct.1 member
        have below := agree j (by simp [member])
        rwa [lookup_cons_ne _ _ other, lookup_cons_ne _ _ other] at below
      rw [first, tail]

/-- A file system is known by its locations and what stands at each. -/
theorem eq_of_get? {fs g : FileSystem} (current : fs.current = g.current)
    (same : fs.locations = g.locations) (distinct : fs.locations.Nodup) (root : [] ∉ fs.locations)
    (agree : ∀ loc, fs.get? loc = g.get? loc) : fs = g := by
  have entries : fs.entries = g.entries := by
    apply eq_of_lookup same distinct
    intro k member
    have inner : k ≠ [] := by
      rintro rfl
      exact root member
    rw [← get?_of_ne inner, ← get?_of_ne inner]
    exact agree k
  cases fs
  cases g
  simp_all

/- The effect of the changes. -/

theorem lookup_put (loc : Location) (entry : Entry) (l : List (Location × Entry)) (k : Location) :
    (put loc entry l).lookup k = if k = loc then some entry else l.lookup k := by
  induction l with
  | nil =>
    by_cases same : k = loc
    · simp [put, same]
    · simp [put, lookup_cons_ne, same]
  | cons e l ih =>
    obtain ⟨j, x⟩ := e
    by_cases hit : j = loc
    · subst hit
      by_cases same : k = j
      · simp [put, same]
      · simp [put, lookup_cons_ne, same]
    · by_cases first : k = j
      · subst first
        simp [put, hit]
      · simp [put, hit, lookup_cons_ne, first, ih]

theorem map_put (loc : Location) (entry : Entry) (l : List (Location × Entry)) :
    (put loc entry l).map Prod.fst =
      if loc ∈ l.map Prod.fst then l.map Prod.fst else l.map Prod.fst ++ [loc] := by
  induction l with
  | nil => simp [put]
  | cons e l ih =>
    by_cases hit : e.1 = loc
    · simp [put, hit]
    · have other : loc ≠ e.1 := Ne.symm hit
      by_cases inside : loc ∈ l.map Prod.fst
      · simp only [put, if_neg hit, List.map_cons, ih, List.mem_cons, inside, or_true, if_true]
      · simp only [put, if_neg hit, List.map_cons, ih, List.mem_cons, other, inside, or_self,
          if_false, List.cons_append]

theorem ne_of_get? {fs : FileSystem} {k loc : Location} {entry : Entry}
    (there : fs.get? k = some entry) (free : fs.get? loc = none) : k ≠ loc := by
  rintro rfl
  rw [there] at free
  cases free

theorem get?_set {fs : FileSystem} {loc : Location} (entry : Entry) (inner : loc ≠ [])
    (k : Location) :
    (fs.set loc entry).get? k = if k = loc then some entry else fs.get? k := by
  by_cases root : k = []
  · subst root
    simp [Ne.symm inner]
  · rw [get?_of_ne root, get?_of_ne root]
    exact lookup_put loc entry fs.entries k

theorem locations_set_of_mem {fs : FileSystem} {loc : Location} (entry : Entry)
    (member : loc ∈ fs.locations) : (fs.set loc entry).locations = fs.locations := by
  unfold locations at member ⊢
  simp only [set, map_put, if_pos member]

theorem locations_set_of_not_mem {fs : FileSystem} {loc : Location} (entry : Entry)
    (away : loc ∉ fs.locations) : (fs.set loc entry).locations = fs.locations ++ [loc] := by
  unfold locations at away ⊢
  simp only [set, map_put, if_neg away]

theorem lookup_filter_ne (loc k : Location) (l : List (Location × Entry)) :
    (l.filter fun e => e.1 ≠ loc).lookup k = if k = loc then none else l.lookup k := by
  induction l with
  | nil => simp
  | cons e l ih =>
    obtain ⟨j, x⟩ := e
    by_cases hit : j = loc
    · subst hit
      by_cases same : k = j
      · simpa [same] using ih
      · simpa [same, lookup_cons_ne] using ih
    · by_cases first : k = j
      · subst first
        simp [hit]
      · simpa [hit, lookup_cons_ne, first] using ih

theorem get?_erase {fs : FileSystem} {loc : Location} (inner : loc ≠ []) (k : Location) :
    (fs.erase loc).get? k = if k = loc then none else fs.get? k := by
  by_cases root : k = []
  · subst root
    simp [Ne.symm inner]
  · rw [get?_of_ne root, get?_of_ne root]
    exact lookup_filter_ne loc k fs.entries

theorem locations_erase (fs : FileSystem) (loc : Location) :
    (fs.erase loc).locations = fs.locations.filter fun k => k ≠ loc := by
  simp only [locations, erase, List.filter_map]
  rfl

@[simp] theorem current_set (fs : FileSystem) (loc : Location) (entry : Entry) :
    (fs.set loc entry).current = fs.current := rfl

@[simp] theorem current_erase (fs : FileSystem) (loc : Location) :
    (fs.erase loc).current = fs.current := rfl

/- Names in a directory. -/

theorem names_eq (fs : FileSystem) (loc : Location) :
    fs.names loc =
      fs.locations.filterMap fun l => if l.dropLast = loc then l.getLast? else none := by
  simp only [names, locations, List.filterMap_map]
  rfl

theorem child_iff {l loc : Location} {name : String} :
    (if l.dropLast = loc then l.getLast? else none) = some name ↔ l = loc ++ [name] := by
  constructor
  · intro found
    split at found
    · rename_i start
      rw [← start]
      exact (List.dropLast_append_getLast? name found).symm
    · cases found
  · rintro rfl
    simp

theorem mem_names {fs : FileSystem} {loc : Location} {name : String} :
    name ∈ fs.names loc ↔ loc ++ [name] ∈ fs.locations := by
  rw [names_eq, List.mem_filterMap]
  constructor
  · rintro ⟨l, member, found⟩
    rwa [← child_iff.mp found]
  · intro member
    exact ⟨loc ++ [name], member, child_iff.mpr rfl⟩

theorem nodup_names {fs : FileSystem} (distinct : fs.locations.Nodup) (loc : Location) :
    (fs.names loc).Nodup := by
  rw [names_eq]
  apply distinct.filterMap
  intro l m name first second
  rw [child_iff.mp first, child_iff.mp second]

/- Trees. -/

structure Proper (name : String) : Prop where
  visible : name ≠ ""
  inward : name ≠ "."
  notUp : name ≠ ".."
  single : '/' ∉ name.toList
  short : name.utf8ByteSize ≤ maxNameSize

instance (name : String) : Decidable (Proper name) :=
  decidable_of_iff (name ≠ "" ∧ name ≠ "." ∧ name ≠ ".." ∧ '/' ∉ name.toList ∧
      name.utf8ByteSize ≤ maxNameSize)
    ⟨fun ⟨visible, inward, notUp, single, short⟩ => ⟨visible, inward, notUp, single, short⟩,
      fun proper => ⟨proper.visible, proper.inward, proper.notUp, proper.single, proper.short⟩⟩

structure IsTree (fs : FileSystem) : Prop where
  distinct : fs.locations.Nodup
  inner : [] ∉ fs.locations
  proper : ∀ loc ∈ fs.locations, ∀ name ∈ loc, Proper name
  inside : ∀ loc ∈ fs.locations, fs.get? loc.dropLast = some .directory
  current : fs.get? fs.current = some .directory

instance (fs : FileSystem) : Decidable fs.IsTree :=
  decidable_of_iff (fs.locations.Nodup ∧ [] ∉ fs.locations ∧
      (∀ loc ∈ fs.locations, ∀ name ∈ loc, Proper name) ∧
      (∀ loc ∈ fs.locations, fs.get? loc.dropLast = some .directory) ∧
      fs.get? fs.current = some .directory)
    ⟨fun ⟨distinct, inner, proper, inside, current⟩ => ⟨distinct, inner, proper, inside, current⟩,
      fun tree => ⟨tree.distinct, tree.inner, tree.proper, tree.inside, tree.current⟩⟩

section Trees

variable {fs : FileSystem}

theorem IsTree.proper_of_get? (tree : fs.IsTree) {loc : Location} {entry : Entry}
    (found : fs.get? loc = some entry) : ∀ name ∈ loc, Proper name := by
  by_cases root : loc = []
  · simp [root]
  · exact tree.proper loc (mem_locations_of_get? root found)

theorem IsTree.parent (tree : fs.IsTree) {loc : Location} {entry : Entry}
    (found : fs.get? loc = some entry) : fs.get? loc.dropLast = some .directory := by
  by_cases root : loc = []
  · simp [root]
  · exact tree.inside loc (mem_locations_of_get? root found)

theorem IsTree.above (tree : fs.IsTree) {loc more : Location} {entry : Entry} (nonempty : more ≠ [])
    (found : fs.get? (loc ++ more) = .some entry) : fs.get? loc = .some .directory := by
  induction more using List.reverseRecOn generalizing entry with
  | nil => contradiction
  | append_singleton more name ih =>
    have up : fs.get? (loc ++ more) = .some .directory := by
      simpa [← List.append_assoc] using tree.parent found
    by_cases last : more = []
    · simpa [last] using up
    · exact ih last up

theorem IsTree.file_ne_nil {loc : Location} {content : Bytes} {mode : Nat}
    (found : fs.get? loc = some (.file content mode)) : loc ≠ [] := by
  rintro rfl
  simp at found

theorem IsTree.set_file (tree : fs.IsTree) {loc : Location} {content new : Bytes} {mode other : Nat}
    (found : fs.get? loc = some (.file content mode)) : (fs.set loc (.file new other)).IsTree := by
  have inner := IsTree.file_ne_nil found
  have same := locations_set_of_mem (.file new other) (mem_locations_of_get? inner found)
  have kept {k : Location} (directory : fs.get? k = some .directory) :
      (fs.set loc (.file new other)).get? k = some .directory := by
    rw [get?_set _ inner, if_neg, directory]
    rintro rfl
    rw [found] at directory
    cases directory
  constructor
  · rw [same]
    exact tree.distinct
  · rw [same]
    exact tree.inner
  · rw [same]
    exact tree.proper
  · intro k member
    rw [same] at member
    exact kept (tree.inside k member)
  · exact kept tree.current

theorem IsTree.add_file (tree : fs.IsTree) {directory : Location} {name : String}
    (there : fs.get? directory = some .directory) (proper : Proper name)
    (free : fs.get? (directory ++ [name]) = none) (content : Bytes) (mode : Nat) :
    (fs.set (directory ++ [name]) (.file content mode)).IsTree := by
  have inner : directory ++ [name] ≠ [] := by simp
  have away := (get?_eq_none_iff inner).mp free
  have more := locations_set_of_not_mem (.file content mode) away
  have kept {k : Location} (isDirectory : fs.get? k = some .directory) :
      (fs.set (directory ++ [name]) (.file content mode)).get? k = some .directory := by
    rw [get?_set _ inner, if_neg, isDirectory]
    rintro rfl
    rw [free] at isDirectory
    cases isDirectory
  constructor
  · rw [more]
    exact List.nodup_append.mpr ⟨tree.distinct, by simp, by
      intro a member b single
      rw [List.mem_singleton.mp single]
      rintro rfl
      exact away member⟩
  · rw [more]
    simp [tree.inner]
  · intro k member part found
    rw [more] at member
    rcases List.mem_append.mp member with member | member
    · exact tree.proper k member part found
    · rw [List.mem_singleton.mp member] at found
      rcases List.mem_append.mp found with found | found
      · exact tree.proper_of_get? there part found
      · rw [List.mem_singleton.mp found]
        exact proper
  · intro k member
    rw [more] at member
    rcases List.mem_append.mp member with member | member
    · exact kept (tree.inside k member)
    · rw [List.mem_singleton.mp member]
      simpa using kept there
  · exact kept tree.current

theorem IsTree.erase_file (tree : fs.IsTree) {loc : Location} {content : Bytes} {mode : Nat}
    (found : fs.get? loc = some (.file content mode)) : (fs.erase loc).IsTree := by
  have inner := IsTree.file_ne_nil found
  have less := locations_erase fs loc
  have kept {k : Location} (directory : fs.get? k = some .directory) :
      (fs.erase loc).get? k = some .directory := by
    rw [get?_erase inner, if_neg, directory]
    rintro rfl
    rw [found] at directory
    cases directory
  have still {k : Location} (member : k ∈ (fs.erase loc).locations) : k ∈ fs.locations := by
    rw [less] at member
    exact (List.mem_filter.mp member).1
  constructor
  · rw [less]
    exact tree.distinct.filter _
  · exact fun root => tree.inner (still root)
  · exact fun k member => tree.proper k (still member)
  · exact fun k member => kept (tree.inside k (still member))
  · exact kept tree.current

end Trees

end FileSystem

end SourceTidy
