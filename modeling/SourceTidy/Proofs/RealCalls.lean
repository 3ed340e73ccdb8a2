import SourceTidy.Proofs.Resolution
import SourceTidy.Saving

namespace SourceTidy

namespace FileSystem

/- Several changes in a row. -/

theorem put_put (loc : Location) (a b : Entry) (l : List (Location × Entry)) :
    put loc b (put loc a l) = put loc b l := by
  induction l with
  | nil => simp [put]
  | cons e l ih =>
    by_cases hit : e.1 = loc
    · simp [put, hit]
    · simp [put, hit, ih]

theorem set_set (fs : FileSystem) (loc : Location) (a b : Entry) :
    (fs.set loc a).set loc b = fs.set loc b := by
  simp [set, put_put]

theorem filter_ne_append {l : List Location} {loc : Location} (away : loc ∉ l) :
    (l ++ [loc]).filter (fun k => k ≠ loc) = l := by
  have all : l.filter (fun k => k ≠ loc) = l := by
    apply List.filter_eq_self.mpr
    intro k member
    have other : k ≠ loc := by
      rintro rfl
      exact away member
    simpa using other
  have empty : [loc].filter (fun k => k ≠ loc) = [] := by simp
  rw [List.filter_append, all, empty, List.append_nil]

section Changes

variable {fs : FileSystem} (tree : fs.IsTree) {loc new : Location}

include tree

theorem IsTree.erase_set (inner : new ≠ []) (free : fs.get? new = none) (entry : Entry) :
    (fs.set new entry).erase new = fs := by
  have away := (get?_eq_none_iff inner).mp free
  have same : ((fs.set new entry).erase new).locations = fs.locations := by
    rw [locations_erase, locations_set_of_not_mem entry away, filter_ne_append away]
  refine eq_of_get? (by rfl) same ?_ ?_ ?_
  · exact same ▸ tree.distinct
  · exact same ▸ tree.inner
  intro k
  rw [get?_erase inner, get?_set entry inner]
  by_cases hit : k = new
  · simp [hit, free]
  · simp [hit]

theorem IsTree.erase_set_set {old : Entry} (inner : new ≠ []) (free : fs.get? new = none)
    (there : fs.get? loc = some old) (below : loc ≠ []) (entry final : Entry) :
    ((fs.set new entry).set loc final).erase new = fs.set loc final := by
  have away := (get?_eq_none_iff inner).mp free
  have member := mem_locations_of_get? below there
  have apart : loc ≠ new := by
    rintro rfl
    exact away member
  have same : (((fs.set new entry).set loc final).erase new).locations =
      (fs.set loc final).locations := by
    rw [locations_erase, locations_set_of_mem final, locations_set_of_not_mem entry away,
      filter_ne_append away, locations_set_of_mem final member]
    rw [locations_set_of_not_mem entry away]
    exact List.mem_append_left _ member
  have plain : (fs.set loc final).locations = fs.locations := locations_set_of_mem final member
  refine eq_of_get? (by rfl) same ?_ ?_ ?_
  · rw [same, plain]
    exact tree.distinct
  · rw [same, plain]
    exact tree.inner
  intro k
  rw [get?_erase inner, get?_set final below, get?_set entry inner, get?_set final below]
  by_cases hit : k = new
  · rw [if_pos hit, if_neg (hit ▸ Ne.symm apart), hit, free]
  · rw [if_neg hit, if_neg hit]

end Changes

/- Calls. -/

section Calls

variable {fs : FileSystem} (tree : fs.IsTree) {loc directory : Location} {name : String}
  {content : Bytes} {mode : Nat}

include tree

theorem IsTree.locate_directory (there : fs.get? directory = some .directory) :
    fs.locate true ⟨.root, directory⟩ = .ok directory :=
  tree.locate_real there (by simp)

theorem IsTree.locate_file (found : fs.get? loc = some (.file content mode)) :
    fs.locate true ⟨.root, loc⟩ = .ok loc :=
  tree.locate_real found (by simp)

theorem IsTree.stat_real (found : fs.get? loc = some (.file content mode)) :
    fs.stat ⟨.root, loc⟩ = .ok (.file content mode) :=
  stat_of_locate (tree.locate_file found) found

theorem IsTree.read_real (found : fs.get? loc = some (.file content mode)) :
    fs.read ⟨.root, loc⟩ = .ok content :=
  read_of_locate (tree.locate_file found) found

theorem IsTree.write_real (found : fs.get? loc = some (.file content mode)) (new : Bytes) :
    fs.write ⟨.root, loc⟩ new = .ok (fs.set loc (.file new mode)) := by
  unfold write
  rw [tree.locate_file found]
  simp only [bind, Except.bind, found]
  rfl

theorem IsTree.setMode_real (found : fs.get? loc = some (.file content mode)) (new : Nat) :
    fs.setMode ⟨.root, loc⟩ new = .ok (fs.set loc (.file content new)) := by
  unfold setMode
  rw [tree.locate_file found]
  simp only [bind, Except.bind, found]
  rfl

theorem IsTree.place_real (there : fs.get? directory = some .directory)
    (short : name.utf8ByteSize ≤ maxNameSize) :
    fs.place ⟨.root, directory ++ [name]⟩ = .ok (directory ++ [name]) := by
  unfold place
  simp only [Path.parent, Path.name, List.dropLast_concat, List.getLast?_concat, Option.getD_some,
    tree.locate_directory there, bind, Except.bind, there, Nat.not_lt.mpr short, if_false]
  rfl

theorem IsTree.create_ok_iff (there : fs.get? directory = some .directory) {made : FileSystem} :
    fs.create ⟨.root, directory ++ [name]⟩ = .ok made ↔
      name.utf8ByteSize ≤ maxNameSize ∧ fs.get? (directory ++ [name]) = none ∧
        made = fs.set (directory ++ [name]) (.file [] privateMode) := by
  by_cases short : name.utf8ByteSize ≤ maxNameSize
  · unfold create
    rw [tree.place_real there short]
    cases free : fs.get? (directory ++ [name]) with
    | none =>
      simp only [bind, Except.bind, free, pure, Except.pure, Except.ok.injEq, short, true_and]
      exact eq_comm
    | some entry => simp [bind, Except.bind, free, throw, throwThe, MonadExceptOf.throw]
  · have refused : fs.place ⟨.root, directory ++ [name]⟩ = .error .nameTooLong := by
      unfold place
      simp only [Path.parent, Path.name, List.dropLast_concat, List.getLast?_concat,
        Option.getD_some, tree.locate_directory there, bind, Except.bind, there,
        Nat.lt_of_not_le short, if_true]
      rfl
    simp [create, refused, bind, Except.bind, short]

theorem IsTree.locate_entry {entry : Entry} (found : fs.get? (directory ++ [name]) = some entry) :
    fs.locate false ⟨.root, directory ++ [name]⟩ = .ok (directory ++ [name]) :=
  tree.locate_child (tree.locate_directory (tree.above (by simp) found)) found

theorem IsTree.locate_missing (there : fs.get? directory = some .directory) (proper : Proper name)
    (free : fs.get? (directory ++ [name]) = none) :
    fs.locate false ⟨.root, directory ++ [name]⟩ = .error .noEntry := by
  obtain ⟨n, few, leads⟩ := locate_iff.mp (tree.locate_directory there)
  obtain ⟨left, same⟩ := leads.resolveFrom_last few name
  unfold locate
  rw [same, resolveFrom, there]
  simp [proper.inward, proper.notUp, Nat.not_lt.mpr proper.short, free]

theorem IsTree.unlink_real (found : fs.get? (directory ++ [name]) = some (.file content mode)) :
    fs.unlink ⟨.root, directory ++ [name]⟩ = .ok (fs.erase (directory ++ [name])) := by
  unfold unlink
  rw [tree.locate_entry found]
  simp only [bind, Except.bind, found]
  rfl

theorem IsTree.unlink_missing (there : fs.get? directory = some .directory) (proper : Proper name)
    (free : fs.get? (directory ++ [name]) = none) :
    fs.unlink ⟨.root, directory ++ [name]⟩ = .error .noEntry := by
  unfold unlink
  rw [tree.locate_missing there proper free]
  rfl

theorem IsTree.replace_real {old : Bytes} {previous : Nat}
    (source : fs.get? (directory ++ [name]) = some (.file content mode))
    (target : fs.get? loc = some (.file old previous)) :
    fs.replace ⟨.root, directory ++ [name]⟩ ⟨.root, loc⟩ =
      .ok ((fs.set loc (.file content mode)).erase (directory ++ [name])) := by
  obtain ⟨place, last, rfl⟩ := (List.eq_nil_or_concat' loc).resolve_left (IsTree.file_ne_nil target)
  have short := (tree.proper_of_get? target last (by simp)).short
  unfold replace
  rw [tree.locate_entry source, tree.place_real (tree.above (by simp) target) short]
  simp only [bind, Except.bind, source, target]
  rfl

theorem IsTree.replace_missing (there : fs.get? directory = some .directory) (proper : Proper name)
    (free : fs.get? (directory ++ [name]) = none) (target : Path) :
    fs.replace ⟨.root, directory ++ [name]⟩ target = .error .noEntry := by
  unfold replace
  rw [tree.locate_missing there proper free]
  rfl

end Calls

end FileSystem

/- Temporary files. -/

namespace Saving

open FileSystem

def beside (loc : Location) (tag : Tag) : Location :=
  loc.dropLast ++ [temporaryName (loc.getLast?.getD "") tag]

theorem temporaryPath_root (loc : Location) (tag : Tag) :
    temporaryPath ⟨.root, loc⟩ tag = ⟨.root, beside loc tag⟩ := rfl

theorem beside_ne_nil (loc : Location) (tag : Tag) : beside loc tag ≠ [] := by
  simp [beside]

theorem proper_temporaryName {name : String} {tag : Tag} (single : '/' ∉ name.toList)
    (short : (temporaryName name tag).utf8ByteSize ≤ maxNameSize) :
    Proper (temporaryName name tag) := by
  have long : 6 ≤ (temporaryName name tag).toList.length := by
    simp [temporaryName]
    omega
  refine ⟨?_, ?_, ?_, ?_, short⟩
  · intro same
    rw [same] at long
    exact absurd long (by decide)
  · intro same
    rw [same] at long
    exact absurd long (by decide)
  · intro same
    rw [same] at long
    exact absurd long (by decide)
  · simp [temporaryName, single, tag.2]

/-- A temporary file with this tag can be made beside the file at the location. -/
structure Free (fs : FileSystem) (loc : Location) (tag : Tag) : Prop where
  proper : Proper (temporaryName (loc.getLast?.getD "") tag)
  unused : fs.get? (beside loc tag) = none

section Temporary

variable {fs : FileSystem} (tree : fs.IsTree) {loc : Location} {content : Bytes} {mode : Nat}
  (target : fs.get? loc = some (.file content mode))

include tree target

theorem create_temporary_iff {tag : Tag} {made : FileSystem} :
    fs.create (temporaryPath ⟨.root, loc⟩ tag) = .ok made ↔
      Free fs loc tag ∧ made = fs.set (beside loc tag) (.file [] privateMode) := by
  have single : '/' ∉ (loc.getLast?.getD "").toList := by
    obtain ⟨place, last, rfl⟩ :=
      (List.eq_nil_or_concat' loc).resolve_left (IsTree.file_ne_nil target)
    simpa using (tree.proper_of_get? target last (by simp)).single
  rw [temporaryPath_root, beside, tree.create_ok_iff (tree.parent target)]
  constructor
  · rintro ⟨short, free, rfl⟩
    exact ⟨⟨proper_temporaryName single short, free⟩, rfl⟩
  · rintro ⟨free, rfl⟩
    exact ⟨free.proper.short, free.unused, rfl⟩

end Temporary

end Saving

end SourceTidy
