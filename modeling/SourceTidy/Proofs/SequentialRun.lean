import SourceTidy.Proofs.AtomicSaving
import SourceTidy.Proofs.Settlement
import SourceTidy.Proofs.Utf8

/-!
A run that takes the files in turn. Each file of the walk is settled when its turn has come, and the
walk sees the same files after that, so in the end all files of the walk are settled and nothing
else has changed.
-/
namespace SourceTidy

open FileSystem

namespace Saving

/- A saving to which nothing happens. -/

theorem attempt_none {α : Type} (call : Call) (action : Except OsError α) :
    attempt .none call action = action.mapError .os := rfl

theorem run_of_free {fs : FileSystem} (tree : fs.IsTree) {path : Path} {loc : Location}
    {old : Bytes} {mode : Nat} (aims : fs.Aims path loc old mode) (content : Bytes)
    (room : content ≠ old → Free fs loc (freeTag fs ⟨.root, loc⟩)) :
    run .none fs path content (some old) =
      if content = old then (.ok false, fs) else (.ok true, fs.set loc (.file content mode)) := by
  unfold run stages
  by_cases same : content = old
  · have there : (some old).getD old = content := same.symm
    rw [if_pos same, steps_same tree aims.leads aims.there there (by simp) 6]
  · have target := aims.there
    have free := room same
    have compare : step .none ⟨.root, loc⟩ content (.compare (some old)) fs = (.measure, fs) :=
      if_neg (Ne.symm same)
    have measure : step .none ⟨.root, loc⟩ content .measure fs = (.create mode, fs) := by
      simp only [step, attempt_none, tree.stat_real target]
      rfl
    have create : step .none ⟨.root, loc⟩ content (.create mode) fs =
        (.write ⟨.root, beside loc (freeTag fs ⟨.root, loc⟩)⟩ mode,
          fs.set (beside loc (freeTag fs ⟨.root, loc⟩)) (.file [] privateMode)) := by
      have created := (create_temporary_iff tree target).mpr ⟨free, rfl⟩
      simp only [step, Faults.none, created]
      rfl
    generalize freeTag fs ⟨.root, loc⟩ = tag at free create
    have write : step .none ⟨.root, loc⟩ content (.write ⟨.root, beside loc tag⟩ mode)
        (fs.set (beside loc tag) (.file [] privateMode)) =
        (.setMode ⟨.root, beside loc tag⟩ mode,
          fs.set (beside loc tag) (.file content privateMode)) := by
      simp only [step, attempt_none, (temporary_calls tree target free [] privateMode).1 content]
      rfl
    have setMode : step .none ⟨.root, loc⟩ content (.setMode ⟨.root, beside loc tag⟩ mode)
        (fs.set (beside loc tag) (.file content privateMode)) =
        (.replace ⟨.root, beside loc tag⟩, fs.set (beside loc tag) (.file content mode)) := by
      simp only [step, attempt_none,
        (temporary_calls tree target free content privateMode).2.1 mode]
      rfl
    have replace : step .none ⟨.root, loc⟩ content (.replace ⟨.root, beside loc tag⟩)
        (fs.set (beside loc tag) (.file content mode)) =
        (.finished (.ok true), fs.set loc (.file content mode)) := by
      have kept : (Faults.none.lost = true) = False := by simp [Faults.none]
      simp only [step, attempt_none, kept, if_false,
        (temporary_calls tree target free content mode).2.2.2]
      rfl
    rw [if_neg same, tree.realPath_of_locate aims.leads]
    simp only [steps, compare, measure, create, write, setMode, replace]
    rfl

theorem freeTag_alike {fs g : FileSystem} (alike : fs.Alike g) (target : Path) :
    freeTag g target = freeTag fs target := by
  have used (name : String) : (g.entries.any fun e => e.1.getLast? = some name) =
      fs.entries.any fun e => e.1.getLast? = some name := by
    have same := congrArg (List.any · fun l => l.getLast? = some name) alike.locations
    simp only [locations, List.any_map] at same
    exact same
  have length : g.entries.length = fs.entries.length := by
    simpa [locations] using congrArg List.length alike.locations
  unfold freeTag
  simp only [used, length]

theorem Free.alike {fs g : FileSystem} {loc : Location} {tag : Tag} (free : Free fs loc tag)
    (alike : fs.Alike g) : Free g loc tag := by
  refine ⟨free.proper, ?_⟩
  rcases alike.file_or_same (beside loc tag) with ⟨old, _, mode, before, _⟩ | same
  · rw [free.unused] at before
    cases before
  · rw [same, free.unused]

end Saving

theorem FileSystem.Alike.isTree {fs g : FileSystem} (alike : fs.Alike g) (tree : fs.IsTree) :
    g.IsTree := by
  have same := alike.locations
  constructor
  · rw [same]
    exact tree.distinct
  · rw [same]
    exact tree.inner
  · rw [same]
    exact tree.proper
  · intro loc member
    rw [same] at member
    exact alike.growsTo.directory_iff.mpr (tree.inside loc member)
  · rw [alike.current]
    exact alike.growsTo.directory_iff.mpr tree.current

namespace Engine

/-- The files that a run has to write can be written: there is room for a temporary file beside
each. -/
def CanSave (engine : Engine) (fs : FileSystem) (paths : List Path) : Prop :=
  ∀ path ∈ paths, ∀ loc content mode, fs.Aims path loc content mode →
    (engine.verdict path content).2 ≠ content →
    ∃ made, fs.create (Saving.temporaryPath ⟨.root, loc⟩ (Saving.freeTag fs ⟨.root, loc⟩)) =
      .ok made

section Turns

variable {engine : Engine} (saves : ∀ path, engine.withheld path = none) {fs : FileSystem}
  (tree : fs.IsTree) {paths : List Path} (plan : Plan fs paths) (room : engine.CanSave fs paths)

include tree room in
theorem save_of_room {world : World} (alike : fs.Alike world.files) {path : Path}
    (member : path ∈ paths) {loc : Location} {old content : Bytes} {mode : Nat}
    (aims : fs.Aims path loc old mode) (there : world.files.get? loc = some (.file old mode))
    (final : (engine.verdict path old).2 = content) :
    ∃ after, world.save .none path content (some old) = (.ok (decide (content ≠ old)), after) ∧
      after.files = if content = old then world.files
      else world.files.set loc (.file content mode) := by
  have still : world.files.Aims path loc old mode := ⟨alike.growsTo.locate aims.leads, there⟩
  have answer := Saving.run_of_free (alike.isTree tree) still content (by
    intro differs
    obtain ⟨made, created⟩ := room path member loc old mode aims (final ▸ differs)
    obtain ⟨free, _⟩ := (Saving.create_temporary_iff tree aims.there).mp created
    rw [Saving.freeTag_alike alike]
    exact free.alike alike)
  unfold World.save
  rw [answer]
  by_cases same : content = old
  · simp only [same, ne_eq, not_true_eq_false, decide_false]
    exact ⟨_, rfl, rfl⟩
  · simp only [same, ne_eq, not_false_eq_true, decide_true]
    exact ⟨_, rfl, rfl⟩

include plan in
/-- A file whose turn has not come is as it was. -/
theorem pending {world : World} {done : List Path} {path : Path}
    (before : Settled engine fs world.files done) (part : done ++ [path] ⊆ paths)
    (distinct : (done ++ [path]).Nodup) :
    ∃ loc content mode, fs.Aims path loc content mode ∧
      (∀ other ∈ done, fs.locate true other ≠ .ok loc) ∧
      world.files.Aims path loc content mode := by
  have member : path ∈ paths := part (by simp)
  obtain ⟨loc, content, mode, aims⟩ := plan.files path member
  have fresh : ∀ other ∈ done, fs.locate true other ≠ .ok loc := by
    intro other visited leads
    have same := plan.apart other (part (List.mem_append_left _ visited)) path member loc leads
      aims.leads
    exact (List.nodup_append.mp distinct).2.2 other visited path (by simp) same
  have there : world.files.get? loc = some (.file content mode) := by
    rw [before.others loc fresh, aims.there]
  exact ⟨loc, content, mode, aims, fresh, before.alike.growsTo.locate aims.leads, there⟩

include saves tree plan room in
theorem process_settled {world : World} {done : List Path} {path : Path}
    (before : Settled engine fs world.files done) (part : done ++ [path] ⊆ paths)
    (distinct : (done ++ [path]).Nodup) (managed : engine.Manages fs path) :
    ∃ after, engine.process path world = (.ok (engine.outcomeOf fs path), after) ∧
      Settled engine fs after.files (done ++ [path]) := by
  have member : path ∈ paths := part (by simp)
  obtain ⟨loc, content, mode, aims, fresh, now⟩ := pending plan before part distinct
  have there := now.there
  have read := now.read
  have kept (same : (engine.verdict path content).2 = content) {after : World}
      (files : after.files = world.files) : Settled engine fs after.files (done ++ [path]) := by
    rw [files]
    refine before.add aims fresh before.alike ?_ fun _ _ => rfl
    rw [same, there]
  rw [outcomeOf_eq aims]
  cases none_apply : (engine.applicable path).isEmpty with
  | true =>
    have verdict : engine.verdict path content = _ := verdict_of_none none_apply
    refine ⟨world.report [.noFormatter path], ?_, kept (by rw [verdict]) rfl⟩
    simp [process, none_apply, verdict]
  | false =>
    cases piped : engine.pipe path content with
    | error fault =>
      obtain ⟨cause, place, rfl⟩ := managed _ _ _ _ aims none_apply piped
      have verdict := verdict_of_error none_apply piped
      obtain ⟨after, files, ⟨_, _, same, processed⟩ | ⟨other, _⟩⟩ :=
        process_of_error none_apply read piped
      · cases same
        exact ⟨after, by rw [processed, verdict], kept (by rw [verdict]) files⟩
      · exact absurd rfl (other cause place)
    | ok formatted =>
      have verdict := verdict_of_ok none_apply piped
      obtain ⟨handed, stored, files⟩ : ∃ now : World,
          engine.formatFile path (engine.applicable path) content world =
            now.save .none path formatted (some content) ∧ now.files = world.files := by
        unfold pipe at piped
        simp only [formatFile, piped, store, saves]
        exact ⟨_, rfl, rfl⟩
      obtain ⟨after, saved, result⟩ := save_of_room tree room (files ▸ before.alike) member aims
        (files ▸ there) (by rw [verdict])
      rw [← stored] at saved
      refine ⟨after, ?_, ?_⟩
      · by_cases same : formatted = content <;> simp [process, none_apply, read, saved, verdict,
          same]
      · rw [files] at result
        have inner := IsTree.file_ne_nil there
        by_cases same : formatted = content
        · rw [if_pos same] at result
          exact kept (by rw [verdict]; exact same) result
        · rw [if_neg same] at result
          rw [result]
          refine before.add aims fresh (before.alike.set_file aims.there formatted) ?_ ?_
          · rw [get?_set _ inner, if_pos rfl, verdict]
          · intro k other
            rw [get?_set _ inner, if_neg other]

include plan in
/-- Any other fault than one of the file stops the run. -/
theorem manages_of_process {world after : World} {done : List Path} {path : Path}
    {outcome : Outcome} (before : Settled engine fs world.files done)
    (part : done ++ [path] ⊆ paths) (distinct : (done ++ [path]).Nodup)
    (returned : engine.process path world = (.ok outcome, after)) :
    engine.Manages fs path := by
  obtain ⟨loc, content, mode, aims, _, now⟩ := pending plan before part distinct
  intro place other bits fault leads applies piped
  cases aims.leads.symm.trans leads.leads
  cases aims.there.symm.trans leads.there
  obtain ⟨_, _, ⟨cause, place, rfl, _⟩ | ⟨_, stopped⟩⟩ := process_of_error applies now.read piped
  · exact ⟨cause, place, rfl⟩
  · rw [stopped] at returned
    cases returned

/- Parts of a run. -/

/-- A part returns exactly if all its files are managed, and then it settles them, whatever has been
settled before. -/
def Settles (engine : Engine) (fs : FileSystem) (all : List Path) (part : Part)
    (paths : List Path) :
    Prop :=
  ∀ world done, Settled engine fs world.files done → done ++ paths ⊆ all → (done ++ paths).Nodup →
    (∀ outcomes after, part world = (.ok outcomes, after) → ∀ path ∈ paths,
      engine.Manages fs path) ∧
    ((∀ path ∈ paths, engine.Manages fs path) →
      ∃ after, part world = (.ok (paths.map (engine.outcomeOf fs)), after) ∧
        Settled engine fs after.files (done ++ paths))

/-- What a part does need only be known where the walk sees the same files. -/
theorem Settles.congr {part other : Part} {these : List Path}
    (same : ∀ world, fs.Alike world.files → part world = other world)
    (settles : Settles engine fs paths other these) : Settles engine fs paths part these := by
  intro world done before
  rw [same world before.alike]
  exact settles world done before

theorem Settles.idle : Settles engine fs paths (fun world => (.ok [], world)) [] := by
  intro world done before _ _
  exact ⟨by simp, fun _ => ⟨world, rfl, by simpa using before⟩⟩

theorem Settles.report (event : Event) :
    Settles engine fs paths (fun world => (.ok [], world.report [event])) [] := by
  intro world done before _ _
  have same : Settled engine fs (world.report [event]).files done := before
  exact ⟨by simp, fun _ => ⟨_, rfl, by simpa using same⟩⟩

theorem andThen_ok {first second : Part} {world after : World} {outcomes : List Outcome}
    (returned : Engine.andThen first second world = (.ok outcomes, after)) :
    ∃ earlier between later, first world = (.ok earlier, between) ∧
      second between = (.ok later, after) ∧ outcomes = earlier ++ later := by
  unfold Engine.andThen at returned
  split at returned
  · cases returned
  · rename_i earlier between one
    split at returned
    · rename_i later last two
      cases returned
      exact ⟨earlier, between, later, one, two, rfl⟩
    · cases returned

theorem Settles.andThen {first second : Part} {these those : List Path}
    (one : Settles engine fs paths first these) (two : Settles engine fs paths second those) :
    Settles engine fs paths (andThen first second) (these ++ those) := by
  intro world done before part distinct
  rw [← List.append_assoc] at part distinct
  obtain ⟨returns, settles⟩ :=
    one world done before (fun _ member => part (List.mem_append_left _ member))
    (List.nodup_append.mp distinct).1
  constructor
  · intro outcomes after returned path member
    obtain ⟨_, between, _, ran, ran_on, _⟩ := andThen_ok returned
    have managed := returns _ _ ran
    obtain ⟨_, again, middle⟩ := settles managed
    cases ran.symm.trans again
    rcases List.mem_append.mp member with member | member
    · exact managed path member
    · exact (two between (done ++ these) middle part distinct).1 _ _ ran_on path member
  · intro managed
    obtain ⟨between, ran, middle⟩ :=
      settles fun path member => managed path (List.mem_append_left _ member)
    obtain ⟨after, ran_on, last⟩ := (two between (done ++ these) middle part distinct).2
      fun path member => managed path (List.mem_append_right _ member)
    refine ⟨after, ?_, List.append_assoc .. ▸ last⟩
    simp only [Engine.andThen, ran, ran_on, List.map_append]

theorem Settles.inTurn {part : String → Part} {paths_of : String → List Path} {names : List String}
    (each : ∀ name ∈ names, Settles engine fs paths (part name) (paths_of name)) :
    Settles engine fs paths (inTurn part names) (names.flatMap paths_of) := by
  induction names with
  | nil => exact .idle
  | cons name names ih =>
    have first := each name (by simp)
    have rest := ih fun other member => each other (List.mem_cons_of_mem name member)
    exact first.andThen rest

include saves tree plan room in
theorem settles_meet (finding : Finding) :
    Settles engine fs paths (engine.meet finding) finding.path?.toList := by
  cases finding with
  | note event => exact .report event
  | file path =>
    intro world done before part distinct
    constructor
    · intro outcomes after returned other member
      obtain rfl : other = path := by simpa [Finding.path?] using member
      cases processed : engine.process other world with
      | mk result between =>
        cases result with
        | ok outcome => exact manages_of_process plan before part distinct processed
        | error fault => simp [meet, processed] at returned
    · intro managed
      obtain ⟨after, processed, settled⟩ :=
        process_settled saves tree plan room before part distinct
        (managed path (by simp [Finding.path?]))
      refine ⟨after, ?_, settled⟩
      simp [meet, processed, Finding.path?]

include saves tree plan room in
theorem settles_visitBelow (root : Path) (depth : Nat) (below : List String) :
    Settles engine fs paths (engine.visitBelow root depth below)
      ((Walk.findingsFrom fs engine.excluded root depth below).filterMap Finding.path?) := by
  induction depth generalizing below with
  | zero => exact .idle
  | succ depth ih =>
    cases listed : Walk.listing fs engine.excluded root below with
    | error error =>
      rw [Walk.findingsFrom, listed]
      refine Settles.congr ?_ (.report (.cannotList (Walk.pathTo root below) error))
      intro world alike
      rw [visitBelow, Walk.listing_alike alike, listed]
    | ok lists =>
      obtain ⟨files, directories⟩ := lists
      have visitFiles : Settles engine fs paths
          (inTurn (fun name world =>
            engine.meet (Walk.inspect world.files engine.excluded root below name) world) files)
          (files.filterMap fun name =>
            (Walk.inspect fs engine.excluded root below name).path?) := by
        rw [List.filterMap_eq_flatMap_toList]
        apply Settles.inTurn
        intro name _
        refine Settles.congr ?_ (settles_meet saves tree plan room _)
        intro world alike
        rw [Walk.inspect_alike alike]
      have visitDirectories : Settles engine fs paths
          (inTurn (fun name world =>
            if world.files.isLink (Walk.pathTo root (below ++ [name])) then (.ok [], world)
            else engine.visitBelow root depth (below ++ [name]) world) directories)
          (directories.flatMap fun name =>
            if fs.isLink (Walk.pathTo root (below ++ [name])) then []
            else (Walk.findingsFrom fs engine.excluded root depth (below ++ [name])).filterMap
              Finding.path?) := by
        apply Settles.inTurn
        intro name _
        by_cases link : fs.isLink (Walk.pathTo root (below ++ [name])) = true
        · rw [if_pos link]
          refine Settles.congr ?_ .idle
          intro world alike
          rw [alike.isLink, if_pos link]
        · rw [if_neg link]
          refine Settles.congr ?_ (ih (below ++ [name]))
          intro world alike
          rw [alike.isLink, if_neg link]
      rw [Walk.paths_of_listing listed]
      refine Settles.congr ?_ (visitFiles.andThen visitDirectories)
      intro world alike
      rw [visitBelow, Walk.listing_alike alike, listed]

end Turns

theorem visitRoot_of_file {engine : Engine} {world : World} {root : Path}
    (file : world.files.isFile root = true) :
    engine.visitRoot root world = engine.meet (.file root) world := by
  obtain ⟨content, mode, probed⟩ := probe_of_isFile file
  simp only [visitRoot, probed]

theorem visitRoot_of_directory {engine : Engine} {world : World} {root : Path}
    (directory : world.files.isDirectory root = true) : engine.visitRoot root world =
      engine.visitBelow root (world.files.entries.length + 1) [] world := by
  simp only [visitRoot, probe_of_isDirectory directory]

theorem visitRoot_managed {engine : Engine} (saves : ∀ path, engine.withheld path = none)
    {world : World} (tree : world.files.IsTree) {root : Path}
    (rooted : world.files.isFile root = true ∨ world.files.isDirectory root = true)
    (room : engine.CanSave world.files (Walk.targets world.files engine.excluded root)) :
    let paths := Walk.targets world.files engine.excluded root
    (∀ outcomes after, engine.visitRoot root world = (.ok outcomes, after) →
      ∀ path ∈ paths, engine.Manages world.files path) ∧
    ((∀ path ∈ paths, engine.Manages world.files path) →
      ∃ after, engine.visitRoot root world =
      (.ok (paths.map (engine.outcomeOf world.files)), after) ∧
        Settled engine world.files after.files paths) := by
  have plan := plan_targets tree engine.excluded rooted
  have start := Settled.start engine world.files
  by_cases file : world.files.isFile root = true
  · have only : Walk.targets world.files engine.excluded root = [root] := if_pos file
    rw [only] at plan room ⊢
    rw [visitRoot_of_file file]
    exact settles_meet saves tree plan room (.file root) world [] start (fun _ member => member)
      plan.distinct
  · have found : Walk.targets world.files engine.excluded root =
        Walk.files world.files engine.excluded root := if_neg file
    rw [found] at plan room ⊢
    rw [visitRoot_of_directory (rooted.resolve_left file)]
    exact settles_visitBelow saves tree plan room root (world.files.entries.length + 1) [] world []
      start (fun _ member => member) plan.distinct

theorem visitRoot_settled {engine : Engine} (confined : engine.Confined) {world : World}
    (tree : world.files.IsTree) {root : Path}
    (rooted : world.files.isFile root = true ∨ world.files.isDirectory root = true)
    (room : engine.CanSave world.files (Walk.targets world.files engine.excluded root)) :
    ∃ after, engine.visitRoot root world =
        (.ok ((Walk.targets world.files engine.excluded root).map (engine.outcomeOf world.files)),
          after) ∧
      Settled engine world.files after.files (Walk.targets world.files engine.excluded root) :=
  (visitRoot_managed confined.saves tree rooted room).2 fun path _ =>
    confined.manages world.files path

end Engine

namespace Summary

theorem visited_eq (s : Summary) : s.visited =
    s.count .changed + s.count .unchanged + s.count .skipped + s.count .failed := by
  obtain ⟨outcomes⟩ := s
  simp only [visited, count]
  induction outcomes with
  | nil => rfl
  | cons outcome rest ih =>
    simp only [List.length_cons, List.countP_cons, ih]
    cases outcome.status with
    | unchanged | changed | skipped | failed =>
      simp
      omega

theorem exitCode_eq (s : Summary) :
    (s.exitCode = 1 ↔ ∃ outcome ∈ s.outcomes, outcome.status = .failed) ∧
      (s.exitCode = 0 ↔ ∀ outcome ∈ s.outcomes, outcome.status ≠ .failed) := by
  have none_failed : s.count .failed = 0 ↔ ∀ outcome ∈ s.outcomes, outcome.status ≠ .failed := by
    simp [count, List.countP_eq_zero]
  unfold exitCode
  by_cases clean : s.count .failed = 0
  · have all := none_failed.mp clean
    simp only [clean, if_true]
    refine ⟨⟨by simp, ?_⟩, by simpa using all⟩
    rintro ⟨outcome, member, failed⟩
    exact absurd failed (all outcome member)
  · have failing : ∃ outcome ∈ s.outcomes, outcome.status = .failed := by
      simpa using fun all => clean (none_failed.mpr all)
    simp only [clean, if_false]
    refine ⟨by simpa using failing, ⟨by simp, ?_⟩⟩
    intro all
    exact absurd (none_failed.mpr all) clean

end Summary

namespace Engine

/-- What becomes of a file, by its contents: its outcome, and the contents that it has
afterwards. -/
inductive Handled (engine : Engine) (path : Path) (content : Bytes) : Outcome → Bytes → Prop
  | skipped (unfit : engine.formatters.filter (·.appliesTo path) = []) :
      Handled engine path content ⟨path, .skipped, [], none⟩ content
  | failed {formatters : List Formatter} {fault : FileFault}
      (chosen : engine.formatters.filter (·.appliesTo path) = formatters) (fit : formatters ≠ [])
      (stopped : (Pipeline.apply engine.conversion engine.config formatters content).result =
        .error (.file fault none)) :
      Handled engine path content ⟨path, .failed, formatters.map (·.name), some fault⟩ content
  | unchanged {formatters : List Formatter}
      (chosen : engine.formatters.filter (·.appliesTo path) = formatters) (fit : formatters ≠ [])
      (same : (Pipeline.apply engine.conversion engine.config formatters content).result =
        .ok content) :
      Handled engine path content ⟨path, .unchanged, formatters.map (·.name), none⟩ content
  | changed {formatters : List Formatter} {formatted : Bytes}
      (chosen : engine.formatters.filter (·.appliesTo path) = formatters) (fit : formatters ≠ [])
      (done : (Pipeline.apply engine.conversion engine.config formatters content).result =
        .ok formatted) (differs : formatted ≠ content) :
      Handled engine path content ⟨path, .changed, formatters.map (·.name), none⟩ formatted

theorem Confined.handled_verdict {engine : Engine} (confined : engine.Confined) (path : Path)
    (content : Bytes) :
    Handled engine path content (engine.verdict path content).1
      (engine.verdict path content).2 := by
  cases none_apply : (engine.applicable path).isEmpty with
  | true =>
    rw [verdict_of_none none_apply]
    exact .skipped (List.isEmpty_iff.mp none_apply)
  | false =>
    have fit : engine.applicable path ≠ [] := by simpa using none_apply
    cases piped : engine.pipe path content with
    | error fault =>
      obtain ⟨cause, rfl⟩ := confined.pipe_error piped
      rw [verdict_of_error none_apply piped]
      exact .failed rfl fit piped
    | ok formatted =>
      rw [verdict_of_ok none_apply piped]
      by_cases same : formatted = content
      · subst same
        rw [if_pos rfl]
        exact .unchanged rfl fit piped
      · rw [if_neg same]
        exact .changed rfl fit piped same

/-- The effect of a run over a directory on the files. -/
structure Effect (engine : Engine) (root : Path) (before after : FileSystem) (summary : Summary) :
    Prop where
  paths : summary.outcomes.map (·.path) = Walk.files before engine.excluded root
  outcomes : ∀ outcome ∈ summary.outcomes, ∃ content final mode,
    before.stat outcome.path = .ok (.file content mode) ∧
      Handled engine outcome.path content outcome final ∧
      after.stat outcome.path = .ok (.file final mode)
  others : ∀ loc, (∀ path ∈ Walk.files before engine.excluded root,
    before.locate true path ≠ .ok loc) →
    after.get? loc = before.get? loc
  modes : ∀ loc, (after.get? loc).map Entry.outline = (before.get? loc).map Entry.outline
  entries : after.locations = before.locations
  counted : summary.visited =
    summary.count .changed + summary.count .unchanged + summary.count .skipped +
      summary.count .failed
  exit : (summary.exitCode = 1 ↔ ∃ outcome ∈ summary.outcomes, outcome.status = .failed) ∧
    (summary.exitCode = 0 ↔ ∀ outcome ∈ summary.outcomes, outcome.status ≠ .failed)

theorem visit_effect (engine : Engine) (world : World) (root : Path) (sequential : engine.jobs ≤ 1)
    (confined : engine.Confined) (tree : world.files.IsTree)
    (directory : world.files.isDirectory root = true)
    (room : engine.CanSave world.files (Walk.files world.files engine.excluded root)) :
    ∃ summary after, engine.visit root world = (.ok summary, after) ∧
      Effect engine root world.files after.files summary := by
  have targets := Walk.targets_of_directory engine.excluded directory
  obtain ⟨after, visited, settled⟩ :=
    visitRoot_settled confined tree (.inr directory) (targets ▸ room)
  rw [targets] at visited settled
  have plan := plan_files tree engine.excluded directory
  have summed : engine.visit root world =
      (.ok ⟨(Walk.files world.files engine.excluded root).map (engine.outcomeOf world.files)⟩,
        after) := by
    simp [visit, visited, Nat.not_lt.mpr sequential]
  refine ⟨_, after, summed, ?_⟩
  constructor
  case paths =>
    rw [List.map_map]
    apply List.map_id''
    intro path
    exact path_verdict engine path _
  case outcomes =>
    intro outcome member
    obtain ⟨path, found, rfl⟩ := List.mem_map.mp member
    obtain ⟨loc, content, mode, aims⟩ := plan.files path found
    have here : (engine.outcomeOf world.files path).path = path := path_verdict engine path _
    rw [here, outcomeOf_eq aims]
    exact ⟨content, _, mode, stat_of_locate aims.leads aims.there,
      confined.handled_verdict path content,
      settled.alike.growsTo.stat_file aims.leads (settled.settled path found aims)⟩
  case others => exact settled.others
  case modes => exact settled.alike.outlines
  case entries => exact settled.alike.locations
  case counted => exact Summary.visited_eq _
  case exit => exact Summary.exitCode_eq _

theorem Handled.unique {engine : Engine} {path : Path} {content final final' : Bytes}
    {outcome outcome' : Outcome} (one : Handled engine path content outcome final)
    (two : Handled engine path content outcome' final') : outcome = outcome' ∧ final = final' := by
  cases one <;> cases two <;> simp_all

theorem Effect.settles {engine : Engine} {root : Path} {before after : FileSystem}
    {summary : Summary} (effect : Effect engine root before after summary)
    {outcome expected : Outcome} {path : Path} {content final : Bytes} {mode : Nat}
    (member : outcome ∈ summary.outcomes) (placed : outcome.path = path)
    (there : before.stat path = .ok (.file content mode))
    (handled : Handled engine path content expected final) :
    outcome = expected ∧ after.stat path = .ok (.file final mode) := by
  subst placed
  obtain ⟨_, _, _, found, same, later⟩ := effect.outcomes outcome member
  cases there.symm.trans found
  obtain ⟨rfl, rfl⟩ := same.unique handled
  exact ⟨rfl, later⟩

/-- Ends a text with a line break, in all files but those with the name `C`. -/
def ending : Formatter where
  name := "ending"
  description := "ends a text with a line break"
  appliesTo path := path.name != "C"
  format _ t := if t = [] then .error (.rejected (.other "empty")) else .ok (t ++ ['\n'])

def leaving : Engine where
  config := {}
  conversion := .ofCodec "utf-8".toList Utf8.codec
  formatters := [ending]
  excluded := fun parts _ => parts == ["x"]

/-- A directory with a file that changes, one that fails, one that is skipped, a link and a
directory that is left out. -/
def mixed : World where
  files := ⟨[(["d"], .directory), (["d", "C"], .file [] 0o644), (["d", "A"], .file [97] 0o640),
    (["d", "B"], .file [255] 0o600), (["d", "l"], .link "A".toList), (["d", "x"], .directory),
    (["d", "x", "A"], .file [97] 0o644)], []⟩

theorem leaving_confined : leaving.Confined := by
  constructor
  case rejects =>
    intro f member config t fault failed
    obtain rfl := List.mem_singleton.mp member
    simp only [ending] at failed
    split at failed
    · cases failed
      exact ⟨_, rfl⟩
    · cases failed
  case decodes =>
    intro bytes fault failed
    have decoded : (Utf8.decode bytes).mapError _ = .error fault :=
      (Utf8.ofCodec_decode _ bytes).symm.trans failed
    exact error_of_mapError decoded
  case encodes =>
    intro t fault failed
    cases failed
  case saves => exact fun _ => rfl

theorem files_mixed : Walk.files mixed.files leaving.excluded ⟨.current, ["d"]⟩ =
    [⟨.current, ["d", "A"]⟩, ⟨.current, ["d", "B"]⟩, ⟨.current, ["d", "C"]⟩] := by cbv

theorem mixed_tree : mixed.files.IsTree := by decide +kernel

theorem mixed_room {engine : Engine} :
    engine.CanSave mixed.files (Walk.files mixed.files leaving.excluded ⟨.current, ["d"]⟩) := by
  intro path member loc content mode aims _
  rw [files_mixed] at member
  simp only [List.mem_cons, List.not_mem_nil, or_false] at member
  refine ⟨_, (Saving.create_temporary_iff mixed_tree aims.there).mpr ⟨?_, rfl⟩⟩
  rcases member with rfl | rfl | rfl
  · have found : mixed.files.locate true ⟨.current, ["d", "A"]⟩ = .ok ["d", "A"] := by cbv
    cases found.symm.trans aims.leads
    exact ⟨by decide +kernel, by decide +kernel⟩
  · have found : mixed.files.locate true ⟨.current, ["d", "B"]⟩ = .ok ["d", "B"] := by cbv
    cases found.symm.trans aims.leads
    exact ⟨by decide +kernel, by decide +kernel⟩
  · have found : mixed.files.locate true ⟨.current, ["d", "C"]⟩ = .ok ["d", "C"] := by cbv
    cases found.symm.trans aims.leads
    exact ⟨by decide +kernel, by decide +kernel⟩

def mixedOutcomes : List Outcome :=
  [⟨⟨.current, ["d", "A"]⟩, .changed, ["ending"], none⟩,
    ⟨⟨.current, ["d", "B"]⟩, .failed, ["ending"],
      some (.undecodable "utf-8".toList ⟨"invalid start byte", 0⟩)⟩,
    ⟨⟨.current, ["d", "C"]⟩, .skipped, [], none⟩]

theorem mixedOutcomes_of_effect {after : FileSystem} {summary : Summary}
    (effect : Effect leaving ⟨.current, ["d"]⟩ mixed.files after summary) :
    summary.outcomes = mixedOutcomes ∧
      after.stat ⟨.current, ["d", "A"]⟩ = .ok (.file [97, 10] 0o640) := by
  obtain ⟨outcomes⟩ := summary
  have paths := effect.paths.trans files_mixed
  simp only [List.map_eq_cons_iff, List.map_eq_nil_iff] at paths
  obtain ⟨a, _, rfl, placed, b, _, rfl, placed', c, _, rfl, placed'', rfl⟩ := paths
  have fit {name : String} (other : name ≠ "C") :
      leaving.formatters.filter (·.appliesTo ⟨.current, ["d", name]⟩) = [ending] := by
    simpa [leaving, ending, Path.name] using other
  have changed : (Pipeline.apply leaving.conversion leaving.config [ending] [97]).result =
      .ok [97, 10] := by decide +kernel
  have failed : (Pipeline.apply leaving.conversion leaving.config [ending] [255]).result =
      .error (.file (.undecodable "utf-8".toList ⟨"invalid start byte", 0⟩) none) := by
        decide +kernel
  have among : a ∈ [a, b, c] ∧ b ∈ [a, b, c] ∧ c ∈ [a, b, c] := by simp
  obtain ⟨one, written⟩ := effect.settles among.1 placed (by cbv)
    (.changed (fit (by decide)) (by simp) changed (by decide))
  obtain ⟨two, _⟩ := effect.settles among.2.1 placed' (by cbv)
    (.failed (fit (by decide)) (by simp) failed)
  obtain ⟨three, _⟩ := effect.settles among.2.2 placed'' (by cbv) (.skipped rfl)
  refine ⟨?_, written⟩
  rw [one, two, three]
  rfl

theorem visit_effect_mixed :
    leaving.jobs ≤ 1 ∧ leaving.Confined ∧ mixed.files.IsTree ∧
      mixed.files.isDirectory ⟨.current, ["d"]⟩ = true ∧
      leaving.CanSave mixed.files (Walk.files mixed.files leaving.excluded ⟨.current, ["d"]⟩) ∧
      ∃ summary after, leaving.visit ⟨.current, ["d"]⟩ mixed = (.ok summary, after) ∧
        Effect leaving ⟨.current, ["d"]⟩ mixed.files after.files summary ∧
        summary.outcomes = mixedOutcomes ∧
        after.files.stat ⟨.current, ["d", "A"]⟩ = .ok (.file [97, 10] 0o640) := by
  have sequential : leaving.jobs ≤ 1 := by decide
  have directory : mixed.files.isDirectory ⟨.current, ["d"]⟩ = true := by cbv
  obtain ⟨summary, after, visited, effect⟩ :=
    visit_effect leaving mixed _ sequential leaving_confined mixed_tree directory mixed_room
  exact ⟨sequential, leaving_confined, mixed_tree, directory, mixed_room, summary, after, visited,
    effect, mixedOutcomes_of_effect effect⟩

end Engine

end SourceTidy
