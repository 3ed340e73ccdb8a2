import SourceTidy.Proofs.Growth
import SourceTidy.Walk

namespace SourceTidy

open FileSystem

/- What a path itself is, and what a directory holds. -/

section Entries

variable {fs g : FileSystem} {p : Path} {loc : Location} {entry : Entry}

theorem FileSystem.isLink_of_locate (found : fs.locate false p = .ok loc)
    (there : fs.get? loc = some entry) :
    fs.isLink p = true ↔ ∃ target, entry = .link target := by
  unfold FileSystem.isLink
  rw [found]
  simp only [there]
  cases entry with
  | link target => simp
  | file content mode | directory | pipe => simp

theorem FileSystem.list_of_directory (found : fs.locate true p = .ok loc)
    (there : fs.get? loc = some .directory) : fs.list p = .ok (fs.names loc) := by
  unfold FileSystem.list
  rw [found]
  simp only [bind, Except.bind, there]
  rfl

theorem FileSystem.Alike.isLink (alike : fs.Alike g) (p : Path) : g.isLink p = fs.isLink p := by
  unfold FileSystem.isLink
  rw [alike.locate]
  cases fs.locate false p with
  | error error => rfl
  | ok loc =>
    rcases alike.file_or_same loc with ⟨old, new, mode, before, after⟩ | same
    · simp only [before, after]
    · simp only [same]

theorem FileSystem.Alike.isFile (alike : fs.Alike g) (p : Path) : g.isFile p = fs.isFile p := by
  apply Bool.eq_iff_iff.mpr
  rw [isFile_iff, isFile_iff]
  constructor
  · rintro ⟨loc, content, mode, found, there⟩
    rw [alike.locate] at found
    rcases alike.file_or_same loc with ⟨old, _, mode', before, _⟩ | same
    · exact ⟨loc, old, mode', found, before⟩
    · exact ⟨loc, content, mode, found, same ▸ there⟩
  · rintro ⟨loc, content, mode, found, there⟩
    rw [← alike.locate] at found
    rcases alike.file_or_same loc with ⟨_, new, mode', _, after⟩ | same
    · exact ⟨loc, new, mode', found, after⟩
    · exact ⟨loc, content, mode, found, same ▸ there⟩

theorem FileSystem.Alike.list (alike : fs.Alike g) (p : Path) : g.list p = fs.list p := by
  have names (loc : Location) : g.names loc = fs.names loc := by
    rw [names_eq, names_eq, alike.locations]
  unfold FileSystem.list
  rw [alike.locate]
  cases fs.locate true p with
  | error error => rfl
  | ok loc =>
    rcases alike.file_or_same loc with ⟨old, new, mode, before, after⟩ | same
    · simp only [bind, Except.bind, before, after]
    · simp only [bind, Except.bind, same, names]

end Entries

namespace Walk

theorem pathTo_eq (root : Path) (below : List String) :
    pathTo root below = ⟨root.anchor, root.parts ++ below⟩ := by
  simp [pathTo, Path.join]

theorem path_of_inspect {fs : FileSystem} {excluded : Excluded} {root path : Path}
    {below : List String} {name : String}
    (file : (inspect fs excluded root below name).path? = some path) :
    path = pathTo root (below ++ [name]) := by
  simp only [inspect] at file
  by_cases link : fs.isLink (pathTo root (below ++ [name])) = true
  · simp [link, Finding.path?] at file
  · by_cases regular : fs.isFile (pathTo root (below ++ [name])) = true
    · cases skip : excluded (below ++ [name]) false with
      | true => simp [link, regular, skip, Finding.path?] at file
      | false => simpa [link, regular, skip, Finding.path?, eq_comm] using file
    · simp [link, regular, Finding.path?] at file

theorem pathTo_inj {root : Path} {below other : List String} :
    pathTo root below = pathTo root other ↔ below = other := by
  simp [pathTo_eq]

theorem intercalate_inj {start one two : List Text} (nonempty : one ≠ []) (more : two ≠ [])
    (free : ∀ name ∈ one, '/' ∉ name) (clear : ∀ name ∈ two, '/' ∉ name)
    (same : List.intercalate ['/'] (start ++ one) = List.intercalate ['/'] (start ++ two)) :
    one = two := by
  induction start with
  | nil =>
    have cut := congrArg (List.splitOn '/') same
    rwa [List.nil_append, List.nil_append, List.splitOn_intercalate '/' free nonempty,
      List.splitOn_intercalate '/' clear more] at cut
  | cons name start ih =>
    rw [List.cons_append, List.cons_append, List.intercalate_cons_of_ne_nil (by simp [nonempty]),
      List.intercalate_cons_of_ne_nil (by simp [more])] at same
    exact ih (List.append_cancel_left same)

/-- What stands below the root is known by its written path. -/
theorem toString_pathTo_inj {root : Path} {one two : List String} (nonempty : one ≠ [])
    (more : two ≠ []) (free : ∀ name ∈ one, '/' ∉ name.toList)
    (clear : ∀ name ∈ two, '/' ∉ name.toList)
    (same : (pathTo root one).toString = (pathTo root two).toString) : one = two := by
  have written {below : List String} (inner : below ≠ []) : (pathTo root below).toText =
      Path.anchorText root.anchor ++
        List.intercalate ['/'] (root.parts.map String.toList ++ below.map String.toList) := by
    rw [pathTo_eq, Path.toText]
    split
    · rename_i empty
      simp [inner] at empty
    · simp
  have texts := String.ofList_injective same
  rw [written nonempty, written more] at texts
  have parts := intercalate_inj (by simpa using nonempty) (by simpa using more)
    (by simpa using free)
    (by simpa using clear) (List.append_cancel_left texts)
  exact List.map_injective_iff.mpr (fun _ _ => String.toList_inj.mp) parts

theorem mem_sortNames {name : String} {names : List String} :
    name ∈ sortNames names ↔ name ∈ names :=
  (List.mergeSort_perm names _).mem_iff

theorem nodup_sortNames {names : List String} (distinct : names.Nodup) : (sortNames names).Nodup :=
  (List.mergeSort_perm names _).nodup_iff.mpr distinct

theorem get?_of_listed {fs : FileSystem} {base : Location} {below : List String} {name : String}
    (listed : name ∈ fs.names (base ++ below)) :
    ∃ entry, fs.get? (base ++ (below ++ [name])) = some entry := by
  have member : base ++ (below ++ [name]) ∈ fs.locations := by
    simpa using mem_names.mp listed
  cases there : fs.get? (base ++ (below ++ [name])) with
  | none => exact absurd member ((get?_eq_none_iff (by simp)).mp there)
  | some entry => exact ⟨entry, rfl⟩

section Below

variable {fs : FileSystem} (tree : fs.IsTree) {root : Path} {base : Location}
  (start : fs.locate true root = .ok base) {below : List String} {name : String} {entry : Entry}

include tree start

theorem locate_pathTo (there : fs.get? (base ++ below) = some entry)
    (plain : ∀ target, entry ≠ .link target) :
    fs.locate true (pathTo root below) = .ok (base ++ below) := by
  rw [pathTo_eq]
  exact tree.locate_below start there plain

theorem locate_pathTo_last (there : fs.get? (base ++ (below ++ [name])) = some entry) :
    fs.locate false (pathTo root (below ++ [name])) = .ok (base ++ (below ++ [name])) := by
  rw [← List.append_assoc] at there ⊢
  have directory := tree.above (by simp) there
  have found := locate_pathTo tree start directory (by simp)
  rw [pathTo_eq] at found ⊢
  rw [← List.append_assoc]
  exact tree.locate_child found there

theorem isLink_iff (there : fs.get? (base ++ (below ++ [name])) = some entry) :
    fs.isLink (pathTo root (below ++ [name])) = true ↔ ∃ target, entry = .link target :=
  isLink_of_locate (locate_pathTo_last tree start there) there

theorem inspect_iff {excluded : Excluded} {path : Path}
    (there : fs.get? (base ++ (below ++ [name])) = some entry) :
    inspect fs excluded root below name = .file path ↔
      path = pathTo root (below ++ [name]) ∧ (∃ content mode, entry = .file content mode) ∧
        excluded (below ++ [name]) false = false := by
  have linked := isLink_iff tree start there
  unfold inspect
  by_cases link : fs.isLink (pathTo root (below ++ [name])) = true
  · obtain ⟨target, rfl⟩ := linked.mp link
    simp [link]
  · have plain : ∀ target, entry ≠ .link target :=
      fun target same => link (linked.mpr ⟨target, same⟩)
    have found := locate_pathTo tree start there plain
    have file : fs.isFile (pathTo root (below ++ [name])) = true ↔
        ∃ content mode, entry = .file content mode := by
      unfold isFile
      rw [stat_of_locate found there]
      cases entry with
      | file content mode => simp
      | directory | link target | pipe => simp
    by_cases regular : fs.isFile (pathTo root (below ++ [name])) = true
    · have yes := file.mp regular
      cases skip : excluded (below ++ [name]) false with
      | true => simp [link, regular]
      | false => simp [link, regular, yes, eq_comm]
    · have no : ¬ ∃ content mode, entry = .file content mode := fun yes => regular (file.mpr yes)
      simp [link, regular, no]

theorem directory_of_listed (listed : name ∈ fs.names (base ++ below))
    (isDirectory : fs.isDirectory (pathTo root (below ++ [name])) = true)
    (plain : fs.isLink (pathTo root (below ++ [name])) = false) :
    fs.get? (base ++ (below ++ [name])) = some .directory := by
  obtain ⟨entry, there⟩ := get?_of_listed listed
  have other : ∀ target, entry ≠ .link target := by
    intro target same
    have yes := (isLink_iff tree start there).mpr ⟨target, same⟩
    rw [plain] at yes
    cases yes
  obtain ⟨loc, found, directory⟩ := isDirectory_iff.mp isDirectory
  rw [locate_pathTo tree start there other] at found
  cases found
  exact directory

theorem listing_of_directory {excluded : Excluded}
    (there : fs.get? (base ++ below) = some .directory) :
    listing fs excluded root below = .ok
      (sortNames ((fs.names (base ++ below)).filter fun name =>
          !fs.isDirectory (pathTo root (below ++ [name]))),
        sortNames ((fs.names (base ++ below)).filter fun name =>
          fs.isDirectory (pathTo root (below ++ [name])) && !excluded (below ++ [name]) true)) := by
  unfold listing
  rw [list_of_directory (locate_pathTo tree start there (by simp)) there]
  rfl

theorem mem_of_listing {excluded : Excluded} (there : fs.get? (base ++ below) = some .directory)
    {files directories : List String}
    (listed : listing fs excluded root below = .ok (files, directories)) :
    (∀ name ∈ files, name ∈ fs.names (base ++ below)) ∧
      ∀ name ∈ directories, name ∈ fs.names (base ++ below) ∧
        fs.isDirectory (pathTo root (below ++ [name])) = true := by
  rw [listing_of_directory tree start there] at listed
  cases listed
  constructor
  · intro name member
    exact (List.mem_filter.mp (mem_sortNames.mp member)).1
  · intro name member
    obtain ⟨inside, good⟩ := List.mem_filter.mp (mem_sortNames.mp member)
    simp only [Bool.and_eq_true] at good
    exact ⟨inside, good.1⟩

end Below

structure Found (fs : FileSystem) (excluded : Excluded) (base : Location) (parts : List String) :
    Prop where
  regular : ∃ content mode, fs.get? (base ++ parts) = some (.file content mode)
  kept : excluded parts false = false

section Findings

variable {fs : FileSystem} (tree : fs.IsTree) {excluded : Excluded} {root : Path} {base : Location}
  (start : fs.locate true root = .ok base)

include tree start

theorem found_of_file {below : List String} {name : String} {path : Path}
    (listed : name ∈ fs.names (base ++ below))
    (file : (inspect fs excluded root below name).path? = some path) :
    path = pathTo root (below ++ [name]) ∧ Found fs excluded base (below ++ [name]) := by
  obtain ⟨entry, there⟩ := get?_of_listed listed
  have exact_file : inspect fs excluded root below name = .file path := by
    cases finding : inspect fs excluded root below name with
    | file other =>
      rw [finding] at file
      cases file
      rfl
    | note event =>
      rw [finding] at file
      cases file
  obtain ⟨rfl, ⟨content, mode, rfl⟩, kept⟩ := (inspect_iff tree start there).mp exact_file
  exact ⟨rfl, ⟨content, mode, there⟩, kept⟩

omit tree start in
theorem paths_of_listing {depth : Nat} {below files directories : List String}
    (listed : listing fs excluded root below = .ok (files, directories)) :
    (findingsFrom fs excluded root (depth + 1) below).filterMap Finding.path? =
      files.filterMap (fun name => (inspect fs excluded root below name).path?) ++
        directories.flatMap fun name =>
          if fs.isLink (pathTo root (below ++ [name])) then []
          else (findingsFrom fs excluded root depth (below ++ [name])).filterMap Finding.path? := by
  rw [findingsFrom, listed]
  simp only [List.filterMap_append, List.filterMap_map, List.filterMap_flatMap]
  congr 2
  funext name
  split
  · rfl
  · rfl

theorem findingsFrom_spec (depth : Nat) {below : List String}
    (there : fs.get? (base ++ below) = some .directory) :
    let paths := (findingsFrom fs excluded root depth below).filterMap Finding.path?
    paths.Nodup ∧ ∀ path ∈ paths, ∃ more, more ≠ [] ∧ path = pathTo root (below ++ more) ∧
      Found fs excluded base (below ++ more) := by
  induction depth generalizing below with
  | zero => simp [findingsFrom]
  | succ depth ih =>
    have distinct := nodup_names tree.distinct (base ++ below)
    rw [paths_of_listing (listing_of_directory tree start there)]
    -- A file of the directory itself has one more component, and any other file has further ones.
    have own {name : String} {path : Path}
        (member : name ∈ sortNames ((fs.names (base ++ below)).filter fun name =>
          !fs.isDirectory (pathTo root (below ++ [name]))))
        (file : (inspect fs excluded root below name).path? = some path) :
        path = pathTo root (below ++ [name]) ∧ Found fs excluded base (below ++ [name]) :=
      found_of_file tree start (List.mem_filter.mp (mem_sortNames.mp member)).1 file
    have deeper {name : String}
        (member : name ∈ sortNames ((fs.names (base ++ below)).filter fun name =>
          fs.isDirectory (pathTo root (below ++ [name])) && !excluded (below ++ [name]) true)) :
        let paths := if fs.isLink (pathTo root (below ++ [name])) then []
          else (findingsFrom fs excluded root depth (below ++ [name])).filterMap Finding.path?
        paths.Nodup ∧ ∀ path ∈ paths, ∃ more, more ≠ [] ∧
          path = pathTo root (below ++ name :: more) ∧
            Found fs excluded base (below ++ name :: more) := by
      obtain ⟨listed, good⟩ := List.mem_filter.mp (mem_sortNames.mp member)
      cases link : fs.isLink (pathTo root (below ++ [name])) with
      | true => simp
      | false =>
        have directory : fs.isDirectory (pathTo root (below ++ [name])) = true := by
          simp only [Bool.and_eq_true] at good
          exact good.1
        simpa using ih (directory_of_listed tree start listed directory link)
    refine ⟨List.nodup_append.mpr ⟨?_, ?_, ?_⟩, ?_⟩
    · apply List.Nodup.filterMap _ (nodup_sortNames (distinct.filter _))
      intro name other path file same
      have equal := (path_of_inspect file).symm.trans (path_of_inspect same)
      simpa [pathTo_inj] using equal
    · rw [List.nodup_flatMap]
      refine ⟨fun name member => (deeper member).1, ?_⟩
      apply (nodup_sortNames (distinct.filter _)).imp_of_mem
      intro name other one two apart path inside within
      obtain ⟨more, _, rfl, _⟩ := (deeper one).2 path inside
      obtain ⟨_, _, equal, _⟩ := (deeper two).2 _ within
      rw [pathTo_inj, List.append_cancel_left_eq] at equal
      exact apart (List.cons.inj equal).1
    · intro path inside _ within rfl
      obtain ⟨name, one, file⟩ := List.mem_filterMap.mp inside
      obtain ⟨other, two, inner⟩ := List.mem_flatMap.mp within
      obtain ⟨more, further, equal, _⟩ := (deeper two).2 path inner
      rw [(own one file).1, pathTo_inj, List.append_cancel_left_eq] at equal
      exact further (List.cons.inj equal).2.symm
    · intro path member
      rcases List.mem_append.mp member with member | member
      · obtain ⟨name, listed, file⟩ := List.mem_filterMap.mp member
        obtain ⟨rfl, found⟩ := own listed file
        exact ⟨[name], by simp, rfl, found⟩
      · obtain ⟨name, listed, inside⟩ := List.mem_flatMap.mp member
        obtain ⟨more, _, rfl, found⟩ := (deeper listed).2 path inside
        exact ⟨name :: more, by simp, rfl, found⟩

theorem files_spec (there : fs.get? base = some .directory) :
    (files fs excluded root).Nodup ∧ ∀ path ∈ files fs excluded root, ∃ parts,
      path = pathTo root parts ∧ Found fs excluded base parts := by
  have top : fs.get? (base ++ []) = some .directory := by simpa using there
  have spec := @findingsFrom_spec fs tree excluded root base start (fs.entries.length + 1) [] top
  refine ⟨spec.1, ?_⟩
  intro path member
  obtain ⟨more, _, same, found⟩ := spec.2 path member
  exact ⟨more, same, found⟩

theorem mem_paths_of_found {depth : Nat} {below : List String} {name : String}
    (there : fs.get? (base ++ below) = some .directory)
    (found : Found fs excluded base (below ++ [name])) :
    pathTo root (below ++ [name]) ∈
      (findingsFrom fs excluded root (depth + 1) below).filterMap Finding.path? := by
  obtain ⟨⟨content, mode, regular⟩, kept⟩ := found
  have finding : inspect fs excluded root below name = .file (pathTo root (below ++ [name])) :=
    (inspect_iff tree start regular).mpr ⟨rfl, ⟨content, mode, rfl⟩, kept⟩
  have listed : name ∈ fs.names (base ++ below) := by
    rw [mem_names, List.append_assoc]
    exact mem_locations_of_get? (by simp) regular
  have noDirectory : fs.isDirectory (pathTo root (below ++ [name])) = false := by
    simp [isDirectory, stat_of_locate (locate_pathTo tree start regular (by simp)) regular]
  rw [paths_of_listing (listing_of_directory tree start there)]
  apply List.mem_append_left
  refine List.mem_filterMap.mpr ⟨name, mem_sortNames.mpr (List.mem_filter.mpr ⟨listed, ?_⟩), ?_⟩
  · simp [noDirectory]
  · rw [finding]
    rfl

end Findings

/- A walk sees the same files while only contents change. -/

section Stable

variable {fs g : FileSystem} (alike : fs.Alike g) (excluded : Excluded) (root : Path)

include alike

theorem inspect_alike (below : List String) (name : String) :
    inspect g excluded root below name = inspect fs excluded root below name := by
  simp only [inspect, alike.isLink, alike.isFile]

theorem listing_alike (below : List String) :
    listing g excluded root below = listing fs excluded root below := by
  simp only [listing, alike.list, alike.growsTo.isDirectory]

theorem findingsFrom_alike (depth : Nat) (below : List String) :
    findingsFrom g excluded root depth below = findingsFrom fs excluded root depth below := by
  induction depth generalizing below with
  | zero => rfl
  | succ depth ih =>
    simp only [findingsFrom, listing_alike alike, alike.isLink, ih]
    have inspected : inspect g excluded root below = inspect fs excluded root below :=
      funext (inspect_alike alike excluded root below)
    rw [inspected]

theorem files_alike : files g excluded root = files fs excluded root := by
  have length : g.entries.length = fs.entries.length := by
    simpa [locations] using congrArg List.length alike.locations
  rw [files, files, findings, findings, length, findingsFrom_alike alike]

end Stable

/- It sees the same files, too, while there are others that it need not look at. -/

section Growing

variable {fs g : FileSystem} (tree : fs.IsTree) (grown : g.IsTree) (grows : fs.GrowsTo g)
  (excluded : Excluded) {root : Path} {base : Location} (start : fs.locate true root = .ok base)
  {below : List String} {name : String}

include tree grown grows start

theorem isLink_grows (listed : name ∈ fs.names (base ++ below)) :
    g.isLink (pathTo root (below ++ [name])) = fs.isLink (pathTo root (below ++ [name])) := by
  obtain ⟨entry, there⟩ := get?_of_listed listed
  obtain ⟨now, still, same⟩ := grows.kept there
  apply Bool.eq_iff_iff.mpr
  rw [isLink_iff tree start there, isLink_iff grown (grows.locate start) still]
  rcases Entry.eq_of_outline same with ⟨_, _, _, rfl, rfl⟩ | rfl
  · simp
  · rfl

theorem inspect_grows (listed : name ∈ fs.names (base ++ below)) :
    inspect g excluded root below name = inspect fs excluded root below name := by
  obtain ⟨entry, there⟩ := get?_of_listed listed
  obtain ⟨now, still, same⟩ := grows.kept there
  have link := isLink_grows tree grown grows start listed
  unfold inspect
  by_cases isLink : fs.isLink (pathTo root (below ++ [name])) = true
  · simp [link, isLink]
  · have plain : ∀ target, entry ≠ .link target := fun target equal =>
      isLink ((isLink_iff tree start there).mpr ⟨target, equal⟩)
    have found := locate_pathTo tree start there plain
    have file : g.isFile (pathTo root (below ++ [name])) =
        fs.isFile (pathTo root (below ++ [name])) := by
      unfold isFile
      rw [stat_of_locate (grows.locate found) still, stat_of_locate found there]
      rcases Entry.eq_of_outline same with ⟨_, _, _, rfl, rfl⟩ | rfl
      · rfl
      · rfl
    simp only [link, file]

theorem listing_grows (there : fs.get? (base ++ below) = some .directory)
    (names : g.names (base ++ below) = fs.names (base ++ below)) :
    listing g excluded root below = listing fs excluded root below := by
  rw [listing_of_directory tree start there,
    listing_of_directory grown (grows.locate start) (grows.directory_iff.mpr there), names]
  simp only [grows.isDirectory]

end Growing

end Walk

end SourceTidy
