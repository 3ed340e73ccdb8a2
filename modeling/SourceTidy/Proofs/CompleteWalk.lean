import Mathlib
import SourceTidy.Proofs.Discovery

/-!
The walk meets exactly the files that can be reached, each once and in order.

`Reached` says on locations what the walk does on paths. It is compared with the walk depth by
depth, and then with what can be asked of paths alone (`Reachable`). A tree has fewer levels than
entries, so the depth of a walk never ends it.
-/
namespace SourceTidy

open FileSystem

/-- The locations on the way to an entry are distinct entries. -/
theorem FileSystem.IsTree.length_le {fs : FileSystem} (tree : fs.IsTree) {loc : Location}
    {entry : Entry} (there : fs.get? loc = some entry) : loc.length ≤ fs.entries.length := by
  let way := (List.range loc.length).map fun n => loc.take (n + 1)
  have distinct : way.Nodup := by
    apply List.nodup_range.map_on
    intro n small m less same
    have lengths := congrArg List.length same
    simp only [List.mem_range, List.length_take] at small less lengths
    omega
  have entries : way ⊆ fs.locations := by
    intro k member
    obtain ⟨n, small, rfl⟩ := List.mem_map.mp member
    rw [List.mem_range] at small
    have inner : loc.take (n + 1) ≠ [] := by
      apply List.ne_nil_of_length_pos
      rw [List.length_take]
      omega
    by_cases last : loc.drop (n + 1) = []
    · have whole := List.take_append_drop (n + 1) loc
      rw [last, List.append_nil] at whole
      rw [whole] at inner ⊢
      exact mem_locations_of_get? inner there
    · rw [← List.take_append_drop (n + 1) loc] at there
      exact mem_locations_of_get? inner (tree.above last there)
  have bound := (distinct.subperm entries).length_le
  simpa [way, locations] using bound

namespace Walk

/-- The order of a walk, on components below the root: in each directory first its files, by name,
and then its subdirectories, by name. -/
inductive Precedes : List String → List String → Prop
  | file {a b : String} : a < b → Precedes [a] [b]
  | inward {a b c : String} {below : List String} : Precedes [a] (b :: c :: below)
  | directory {a b c d : String} {above below : List String} :
      a < b → Precedes (a :: c :: above) (b :: d :: below)
  | within {a c d : String} {above below : List String} :
      Precedes (c :: above) (d :: below) → Precedes (a :: c :: above) (a :: d :: below)

theorem Precedes.irrefl {parts other : List String} (before : Precedes parts other) :
    parts ≠ other := by
  induction before with
  | file less =>
    rintro ⟨⟩
    exact String.lt_irrefl _ less
  | inward => rintro ⟨⟩
  | directory less =>
    rintro ⟨⟩
    exact String.lt_irrefl _ less
  | within _ ih => exact fun same => ih (List.cons.inj same).2

theorem Precedes.cons {a : String} {parts other : List String} (before : Precedes parts other) :
    Precedes (a :: parts) (a :: other) := by
  cases before with
  | file less => exact .within (.file less)
  | inward => exact .within .inward
  | directory less => exact .within (.directory less)
  | within inner => exact .within (.within inner)

def MetBefore (root : Path) (one two : Path) : Prop :=
  ∃ parts other, one = pathTo root parts ∧ two = pathTo root other ∧ Precedes parts other

/-- Components that lead to a regular file below the root, by way of directories that are neither
links nor excluded. The file is no link and not excluded. -/
structure Reachable (fs : FileSystem) (excluded : Excluded) (root : Path) (parts : List String) :
    Prop where
  inner : parts ≠ []
  proper : ∀ name ∈ parts, Proper name
  regular : fs.isFile (pathTo root parts) = true
  plain : fs.isLink (pathTo root parts) = false
  kept : excluded parts false = false
  between : ∀ above rest, above ≠ [] → rest ≠ [] → above ++ rest = parts →
    fs.isLink (pathTo root above) = false ∧ excluded above true = false

/-- From the directory `below` the base, components lead down to a file. -/
inductive Reached (fs : FileSystem) (excluded : Excluded) (base : Location) :
    List String → List String → Prop
  | file {below : List String} {name : String} {content : Bytes} {mode : Nat} :
      fs.get? (base ++ (below ++ [name])) = some (.file content mode) →
      excluded (below ++ [name]) false = false → Reached fs excluded base below [name]
  | enter {below more : List String} {name : String} :
      fs.get? (base ++ (below ++ [name])) = some .directory →
      excluded (below ++ [name]) true = false →
      Reached fs excluded base (below ++ [name]) more →
      Reached fs excluded base below (name :: more)

section Reaching

variable {fs : FileSystem} {excluded : Excluded} {base : Location} {below more : List String}

theorem Reached.ne_nil (reached : Reached fs excluded base below more) : more ≠ [] := by
  cases reached with
  | file | enter => simp

theorem Reached.get? (reached : Reached fs excluded base below more) :
    ∃ content mode, fs.get? (base ++ (below ++ more)) = some (.file content mode) := by
  induction reached with
  | file there _ => exact ⟨_, _, there⟩
  | enter _ _ _ ih => simpa using ih

theorem Reached.kept (reached : Reached fs excluded base below more) :
    excluded (below ++ more) false = false := by
  induction reached with
  | file _ kept => exact kept
  | enter _ _ _ ih => simpa using ih

theorem Reached.open_above (reached : Reached fs excluded base below more)
    {above rest : List String} (nonempty : above ≠ []) (inner : rest ≠ [])
    (whole : above ++ rest = more) :
    excluded (below ++ above) true = false := by
  induction reached generalizing above with
  | file =>
    obtain ⟨rfl, -⟩ | ⟨-, rfl⟩ := List.append_eq_singleton_iff.mp whole
    · exact absurd rfl nonempty
    · exact absurd rfl inner
  | enter _ kept _ ih =>
    cases above with
    | nil => exact absurd rfl nonempty
    | cons name above =>
      obtain ⟨rfl, tail⟩ := List.cons.inj whole
      cases above with
      | nil => exact kept
      | cons next above => simpa using ih (by simp) tail

end Reaching

section Walking

variable {fs : FileSystem} (tree : fs.IsTree) {excluded : Excluded} {root : Path} {base : Location}
  (start : fs.locate true root = .ok base)

def pathsFrom (fs : FileSystem) (excluded : Excluded) (root : Path) (depth : Nat)
    (below : List String) :
    List Path :=
  (findingsFrom fs excluded root depth below).filterMap Finding.path?

theorem sortNames_lt {names : List String} (distinct : names.Nodup) :
    (sortNames names).Pairwise (· < ·) := by
  have ascending : (sortNames names).Pairwise (· ≤ ·) := by
    have sorted := @List.pairwise_mergeSort String (fun a b => decide (a ≤ b))
      (fun a b c first second => by
        simp only [decide_eq_true_eq] at first second ⊢
        exact String.le_trans first second)
      (fun a b => by simpa using String.le_total a b) names
    exact sorted.imp fun less => by simpa using less
  apply (ascending.and (nodup_sortNames distinct)).imp
  intro a b ⟨less, apart⟩
  by_contra above
  exact apart (String.le_antisymm less (String.not_lt.mp above))

include tree start

theorem file_iff {below : List String} {name : String} {path : Path} :
    (name ∈ sortNames ((fs.names (base ++ below)).filter fun name =>
          !fs.isDirectory (pathTo root (below ++ [name]))) ∧
        (inspect fs excluded root below name).path? = some path) ↔
      path = pathTo root (below ++ [name]) ∧ Found fs excluded base (below ++ [name]) := by
  rw [mem_sortNames, List.mem_filter]
  constructor
  · rintro ⟨⟨listed, -⟩, file⟩
    exact found_of_file tree start listed file
  · rintro ⟨rfl, ⟨content, mode, regular⟩, kept⟩
    have finding : inspect fs excluded root below name = .file (pathTo root (below ++ [name])) :=
      (inspect_iff tree start regular).mpr ⟨rfl, ⟨content, mode, rfl⟩, kept⟩
    refine ⟨⟨?_, ?_⟩, ?_⟩
    · rw [mem_names, List.append_assoc]
      exact mem_locations_of_get? (by simp) regular
    · simp [isDirectory, stat_of_locate (locate_pathTo tree start regular (by simp)) regular]
    · rw [finding]
      rfl

theorem entered_iff {below : List String} {name : String} :
    (name ∈ sortNames ((fs.names (base ++ below)).filter fun name =>
          fs.isDirectory (pathTo root (below ++ [name])) && !excluded (below ++ [name]) true) ∧
        ¬ fs.isLink (pathTo root (below ++ [name])) = true) ↔
      fs.get? (base ++ (below ++ [name])) = some .directory ∧
      excluded (below ++ [name]) true = false := by
  simp only [mem_sortNames, List.mem_filter, Bool.and_eq_true, Bool.not_eq_true', Bool.not_eq_true]
  constructor
  · rintro ⟨⟨listed, directory, kept⟩, plain⟩
    exact ⟨directory_of_listed tree start listed directory plain, kept⟩
  · rintro ⟨there, kept⟩
    refine ⟨⟨?_, ?_, kept⟩, ?_⟩
    · rw [mem_names, List.append_assoc]
      exact mem_locations_of_get? (by simp) there
    · exact isDirectory_iff.mpr ⟨_, locate_pathTo tree start there (by simp), there⟩
    · have linked := isLink_iff tree start there
      simpa using linked

/-- A walk of a certain depth meets the files that are reached in so many steps. -/
theorem mem_pathsFrom {depth : Nat} {below : List String} {path : Path}
    (there : fs.get? (base ++ below) = some .directory) :
    path ∈ pathsFrom fs excluded root depth below ↔
      ∃ more, more.length ≤ depth ∧ path = pathTo root (below ++ more) ∧
        Reached fs excluded base below more := by
  induction depth generalizing below with
  | zero =>
    constructor
    · intro member
      simp [pathsFrom, findingsFrom] at member
    · rintro ⟨more, short, -, reached⟩
      exact absurd (List.length_eq_zero_iff.mp (Nat.le_zero.mp short)) reached.ne_nil
  | succ depth ih =>
    rw [pathsFrom, paths_of_listing (listing_of_directory tree start there), List.mem_append,
      List.mem_filterMap, List.mem_flatMap]
    constructor
    · rintro (⟨name, listed, file⟩ | ⟨name, listed, inside⟩)
      · obtain ⟨rfl, ⟨content, mode, regular⟩, kept⟩ := (file_iff tree start).mp ⟨listed, file⟩
        exact ⟨[name], by simp, rfl, .file regular kept⟩
      · split at inside
        · cases inside
        · rename_i plain
          obtain ⟨directory, kept⟩ := (entered_iff tree start).mp ⟨listed, plain⟩
          obtain ⟨more, short, rfl, reached⟩ := (ih directory).mp inside
          refine ⟨name :: more, ?_, by simp, .enter directory kept reached⟩
          simp only [List.length_cons]
          omega
    · rintro ⟨more, short, rfl, reached⟩
      cases reached with
      | @file _ name _ _ regular kept =>
        exact .inl ⟨name, (file_iff tree start).mpr ⟨rfl, ⟨_, _, regular⟩, kept⟩⟩
      | @enter _ more name directory kept reached =>
        obtain ⟨listed, plain⟩ := (entered_iff tree start).mpr ⟨directory, kept⟩
        refine .inr ⟨name, listed, ?_⟩
        rw [if_neg plain]
        refine (ih directory).mpr ⟨more, ?_, by simp, reached⟩
        simp only [List.length_cons] at short
        omega

theorem pathsFrom_ordered {depth : Nat} {below : List String}
    (there : fs.get? (base ++ below) = some .directory) :
    (pathsFrom fs excluded root depth below).Pairwise fun one two =>
      ∃ parts other, one = pathTo root (below ++ parts) ∧ two = pathTo root (below ++ other) ∧
        Precedes parts other := by
  induction depth generalizing below with
  | zero => simp [pathsFrom, findingsFrom]
  | succ depth ih =>
    have distinct := nodup_names tree.distinct (base ++ below)
    -- what is met in a subdirectory has two more components
    have deeper {name : String} {path : Path}
        (member : name ∈ sortNames ((fs.names (base ++ below)).filter fun name =>
          fs.isDirectory (pathTo root (below ++ [name])) && !excluded (below ++ [name]) true))
        (inside : path ∈ if fs.isLink (pathTo root (below ++ [name])) then []
          else pathsFrom fs excluded root depth (below ++ [name])) :
        ∃ next more, path = pathTo root (below ++ name :: next :: more) := by
      split at inside
      · cases inside
      · rename_i plain
        obtain ⟨directory, -⟩ := (entered_iff tree start).mp ⟨member, plain⟩
        obtain ⟨more, -, rfl, reached⟩ := (mem_pathsFrom tree start directory).mp inside
        obtain ⟨next, rest, rfl⟩ := List.exists_cons_of_ne_nil reached.ne_nil
        exact ⟨next, rest, by simp⟩
    rw [pathsFrom, paths_of_listing (listing_of_directory tree start there)]
    refine List.pairwise_append.mpr ⟨?_, List.pairwise_flatMap.mpr ⟨?_, ?_⟩, ?_⟩
    · rw [List.pairwise_filterMap]
      apply (sortNames_lt (distinct.filter _)).imp
      intro a b less one file two other
      exact ⟨[a], [b], path_of_inspect file, path_of_inspect other, .file less⟩
    · intro name member
      split
      · exact .nil
      · rename_i plain
        obtain ⟨directory, -⟩ := (entered_iff tree start).mp ⟨member, plain⟩
        apply (ih directory).imp
        rintro one two ⟨parts, other, rfl, rfl, before⟩
        exact ⟨name :: parts, name :: other, by simp, by simp, before.cons⟩
    · apply (sortNames_lt (distinct.filter _)).imp_of_mem
      intro a b here later less one inside two within
      obtain ⟨c, above, rfl⟩ := deeper here inside
      obtain ⟨d, rest, rfl⟩ := deeper later within
      exact ⟨a :: c :: above, b :: d :: rest, rfl, rfl, .directory less⟩
    · intro one inside two within
      obtain ⟨name, -, file⟩ := List.mem_filterMap.mp inside
      obtain ⟨other, listed, inner⟩ := List.mem_flatMap.mp within
      obtain ⟨c, rest, rfl⟩ := deeper listed inner
      exact ⟨[name], other :: c :: rest, path_of_inspect file, rfl, .inward⟩

/-- Once the depth exceeds the number of entries, it plays no part. -/
theorem findingsFrom_deeper {depth : Nat} {below : List String}
    (there : fs.get? (base ++ below) = some .directory)
    (deep : fs.entries.length < (base ++ below).length + depth) :
    findingsFrom fs excluded root (depth + 1) below =
      findingsFrom fs excluded root depth below := by
  induction depth generalizing below with
  | zero =>
    have bound := tree.length_le there
    omega
  | succ depth ih =>
    rw [findingsFrom, findingsFrom, listing_of_directory tree start there]
    dsimp only
    congr 1
    apply List.flatMap_congr
    intro name member
    split
    · rfl
    · rename_i plain
      obtain ⟨directory, -⟩ := (entered_iff tree start).mp ⟨member, plain⟩
      apply ih directory
      simp only [List.length_append, List.length_singleton] at deep ⊢
      omega

theorem Reached.reachable {parts : List String} (reached : Reached fs excluded base [] parts) :
    Reachable fs excluded root parts := by
  obtain ⟨content, mode, there⟩ := reached.get?
  rw [List.nil_append] at there
  have plain {above : List String} {entry : Entry} (filled : above ≠ [])
      (found : fs.get? (base ++ above) = .some entry) (other : ∀ target, entry ≠ .link target) :
      fs.isLink (pathTo root above) = false := by
    obtain ⟨front, name, rfl⟩ := List.eq_nil_or_concat' above |>.resolve_left filled
    have linked := isLink_iff tree start found
    simpa [other] using linked
  constructor
  · exact reached.ne_nil
  · intro name member
    exact tree.proper_of_get? there name (List.mem_append_right base member)
  · exact isFile_iff.mpr ⟨_, content, mode, locate_pathTo tree start there (by simp), there⟩
  · exact plain reached.ne_nil there (by simp)
  · exact reached.kept
  · intro above rest nonempty inner whole
    rw [← whole, ← List.append_assoc] at there
    exact ⟨plain nonempty (tree.above inner there) (by simp),
      reached.open_above nonempty inner whole⟩

theorem reached_of_leads {below more : List String} {loc : Location} {n : Nat} {content : Bytes}
    {mode : Nat} (leads : fs.Leads (base ++ below) more loc n)
    (file : fs.get? loc = some (.file content mode)) (nonempty : more ≠ [])
    (proper : ∀ name ∈ more, Proper name) (plain : ∀ above rest, above ≠ [] → above ++ rest = more →
      fs.isLink (pathTo root (below ++ above)) = false)
    (kept : excluded (below ++ more) false = false)
    (passed : ∀ above rest, above ≠ [] → rest ≠ [] → above ++ rest = more →
      excluded (below ++ above) true = false) :
    Reached fs excluded base below more := by
  induction more generalizing below n with
  | nil => exact absurd rfl nonempty
  | cons name more ih =>
    have named := proper name (by simp)
    cases leads with
    | stay _ dot _ => exact absurd dot named.inward
    | up _ dots _ => exact absurd dots named.notUp
    | follow _ _ link _ =>
      rw [List.append_assoc] at link
      have linked := (isLink_iff tree start link).mpr ⟨_, rfl⟩
      rw [plain [name] more (by simp) rfl] at linked
      cases linked
    | enter _ _ found _ later =>
      rw [List.append_assoc] at found later
      cases more with
      | nil =>
        cases later
        exact .file file kept
      | cons next more =>
        have directory : fs.get? (base ++ (below ++ [name])) = .some .directory := by
          cases later with
          | stay there _ _ | up there _ _ | enter there _ _ _ _ | follow there _ _ _ => exact there
        refine .enter directory (passed [name] (next :: more) (by simp) (by simp) rfl)
          (ih later (by simp) ?_ ?_ ?_ ?_)
        · exact fun other member => proper other (by simp [member])
        · intro above rest inner whole
          simpa using plain (name :: above) rest (by simp) (by simp [whole])
        · simpa using kept
        · intro above rest inner further whole
          simpa using passed (name :: above) rest (by simp) further (by simp [whole])

end Walking

section Exact

variable {fs : FileSystem} (tree : fs.IsTree) {excluded : Excluded} {root : Path}

include tree

theorem Reachable.reached {parts : List String} (reachable : Reachable fs excluded root parts) :
    ∃ base, fs.locate true root = .ok base ∧ fs.get? (base ++ []) = some .directory ∧
      Reached fs excluded base [] parts := by
  obtain ⟨loc, content, mode, found, file⟩ := isFile_iff.mp reachable.regular
  rw [pathTo_eq] at found
  obtain ⟨n, few, leads⟩ := locate_iff.mp found
  obtain ⟨base, k, l, first, second, total⟩ := leads.split rfl
  have start : fs.locate true root = .ok base := locate_iff.mpr ⟨k, by omega, first⟩
  rw [← List.append_nil base] at second
  have there : fs.get? (base ++ []) = some .directory := by
    obtain ⟨name, rest, rfl⟩ := List.exists_cons_of_ne_nil reachable.inner
    cases second with
    | stay there _ _ | up there _ _ | enter there _ _ _ _ | follow there _ _ _ => exact there
  refine ⟨base, start, there, ?_⟩
  apply reached_of_leads tree start second file reachable.inner reachable.proper
  · intro above rest filled whole
    cases rest with
    | nil =>
      rw [List.append_nil] at whole
      simpa [whole] using reachable.plain
    | cons next rest => exact (reachable.between above _ filled (by simp) whole).1
  · exact reachable.kept
  · intro above rest nonempty inner whole
    exact (reachable.between above rest nonempty inner whole).2

omit tree in
theorem directory_or_note (fs : FileSystem) (excluded : Excluded) (root : Path) :
    (∃ base, fs.locate true root = .ok base ∧ fs.get? (base ++ []) = some .directory) ∨
      ∃ event, ∀ depth, findingsFrom fs excluded root (depth + 1) [] = [.note event] := by
  cases listed : listing fs excluded root [] with
  | error error => exact .inr ⟨_, fun depth => by rw [findingsFrom, listed]⟩
  | ok names =>
    have top : pathTo root [] = root := by simp [pathTo_eq]
    simp only [listing, list, top, bind, Except.bind] at listed
    cases look : fs.locate true root with
    | error error => simp [look] at listed
    | ok base =>
      refine .inl ⟨base, rfl, ?_⟩
      simp only [look] at listed
      rw [List.append_nil]
      split at listed
      · cases listed
      · rename_i read
        split at read
        · assumption
        · cases read
        · cases read

theorem mem_files {path : Path} :
    path ∈ files fs excluded root ↔
      ∃ parts, path = pathTo root parts ∧ Reachable fs excluded root parts := by
  have whole : files fs excluded root = pathsFrom fs excluded root (fs.entries.length + 1) [] := rfl
  constructor
  · intro member
    rcases directory_or_note fs excluded root with ⟨base, start, there⟩ | ⟨event, ends⟩
    · rw [whole, mem_pathsFrom tree start there] at member
      obtain ⟨parts, -, same, reached⟩ := member
      exact ⟨parts, same, reached.reachable tree start⟩
    · simp [whole, pathsFrom, ends, Finding.path?] at member
  · rintro ⟨parts, rfl, reachable⟩
    obtain ⟨base, start, there, reached⟩ := reachable.reached tree
    rw [whole, mem_pathsFrom tree start there]
    obtain ⟨content, mode, file⟩ := reached.get?
    have bound := tree.length_le file
    simp only [List.nil_append, List.length_append] at bound
    exact ⟨parts, by omega, rfl, reached⟩

theorem files_ordered : (files fs excluded root).Pairwise (MetBefore root) := by
  rcases directory_or_note fs excluded root with ⟨base, start, there⟩ | ⟨event, ends⟩
  · exact pathsFrom_ordered tree start there
  · have empty : files fs excluded root = [] := by simp [files, findings, ends, Finding.path?]
    rw [empty]
    exact .nil

theorem findingsFrom_of_deep {depth : Nat} (deep : fs.entries.length < depth) :
    findingsFrom fs excluded root depth [] = findings fs excluded root := by
  obtain ⟨extra, rfl⟩ := Nat.exists_eq_add_of_le deep
  induction extra with
  | zero => rfl
  | succ extra ih =>
    rw [← ih (by omega), ← Nat.add_assoc]
    rcases directory_or_note fs excluded root with ⟨base, start, there⟩ | ⟨event, ends⟩
    · exact findingsFrom_deeper tree start there (by omega)
    · rw [ends, Nat.succ_add, ends]

end Exact

/-- A walk yields exactly the reachable files, each once and in order, and a greater depth would
show it nothing more. -/
structure IsExact (fs : FileSystem) (excluded : Excluded) (root : Path) : Prop where
  once : (files fs excluded root).Nodup
  ordered : (files fs excluded root).Pairwise (MetBefore root)
  exact_files : ∀ path, path ∈ files fs excluded root ↔
    ∃ parts, path = pathTo root parts ∧ Reachable fs excluded root parts
  ends : ∀ depth, fs.entries.length < depth →
    findingsFrom fs excluded root depth [] = findings fs excluded root

/-- Paths below the root are asked about as they are written, directories with a slash at the
end. -/
def written (asked : Text → Bool) : Excluded :=
  fun parts isDirectory => asked (Path.relativeText parts isDirectory)

theorem files_exact (fs : FileSystem) (asked : Text → Bool) (root : Path) (tree : fs.IsTree) :
    IsExact fs (written asked) root := by
  have ordered : (files fs (written asked) root).Pairwise (MetBefore root) := files_ordered tree
  constructor
  · apply ordered.imp
    rintro _ _ ⟨parts, other, rfl, rfl, before⟩
    rw [ne_eq, pathTo_inj]
    exact before.irrefl
  · exact ordered
  · exact fun path => mem_files tree
  · exact fun depth => findingsFrom_of_deep tree

/-- A tree with a link to the directory above it and an excluded subdirectory. -/
def knotted : FileSystem where
  entries := [(["d"], .directory), (["d", "z"], .file [] 0o644), (["d", "k"], .directory),
    (["d", "k", "l"], .link "..".toList), (["d", "k", "a"], .file [97] 0o644),
    (["d", "x"], .directory), (["d", "x", "c"], .file [] 0o644)]
  current := []

theorem files_exact_knotted :
    knotted.IsTree ∧
      files knotted (written (· = ['x', '/'])) ⟨.current, ["d"]⟩ =
        [⟨.current, ["d", "z"]⟩, ⟨.current, ["d", "k", "a"]⟩] ∧
      IsExact knotted (written (· = ['x', '/'])) ⟨.current, ["d"]⟩ := by
  have tree : knotted.IsTree := by decide +kernel
  exact ⟨tree, by cbv, files_exact knotted _ _ tree⟩

end Walk

end SourceTidy
