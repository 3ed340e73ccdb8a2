import SourceTidy.Proofs.Discovery
import SourceTidy.Run

/-!
What a run makes of the files that it visits, said without the order in which it does so.

`verdict` gives the outcome and the final contents of a file, and `Settled` says that some files
have their final contents and that all else is as it was. A file system is known by what has been
settled in it (`Settled.unique`).
-/
namespace SourceTidy

open FileSystem

section Results

variable {ε δ α β : Type}

theorem ok_of_bind {result : Except ε α} {next : α → Except ε β} {b : β}
    (done : result >>= next = .ok b) : ∃ a, result = .ok a ∧ next a = .ok b := by
  cases result with
  | error e => cases done
  | ok a => exact ⟨a, rfl, done⟩

theorem error_of_mapError {result : Except ε α} {f : ε → δ} {d : δ}
    (failed : result.mapError f = .error d) : ∃ e, d = f e := by
  cases result with
  | error e => exact ⟨e, (Except.error.inj failed).symm⟩
  | ok a => cases failed

theorem ok_of_mapError {result : Except ε α} {f : ε → δ} {a : α}
    (done : result.mapError f = .ok a) : result = .ok a := by
  cases result with
  | error e => cases done
  | ok b =>
    cases done
    rfl

end Results

/-- Faults of an engine are confined to files: formatters do nothing worse than to reject a text,
the conversion stops only at defects, and nothing is withheld. -/
structure Engine.Confined (engine : Engine) : Prop where
  rejects : ∀ f ∈ engine.formatters, ∀ config t fault, f.format config t = .error fault →
    ∃ cause, fault = .rejected cause
  decodes : ∀ bytes fault, engine.conversion.decode bytes = .error fault →
    ∃ defect, fault = .file (.undecodable engine.config.encoding defect) none
  encodes : ∀ t fault, engine.conversion.encode t = .error fault →
    ∃ defect, fault = .file (.unencodable engine.config.encoding defect) none
  saves : ∀ path, engine.withheld path = none

namespace Engine

def pipe (engine : Engine) (path : Path) (content : Bytes) : Except Fault Bytes :=
  (Pipeline.apply engine.conversion engine.config (engine.applicable path) content).result

/-- What becomes of a file: its outcome, and the contents that it has afterwards. -/
def verdict (engine : Engine) (path : Path) (content : Bytes) : Outcome × Bytes :=
  let names := (engine.applicable path).map (·.name)
  if (engine.applicable path).isEmpty then (⟨path, .skipped, [], none⟩, content)
  else
    match engine.pipe path content with
    | .ok formatted =>
      (⟨path, if formatted = content then .unchanged else .changed, names, none⟩, formatted)
    | .error (.file fault _) => (failure names path fault, content)
    | .error _ => (⟨path, .failed, names, none⟩, content)

theorem path_verdict (engine : Engine) (path : Path) (content : Bytes) :
    (engine.verdict path content).1.path = path := by
  unfold verdict
  split
  · rfl
  · split <;> rfl

section Verdicts

variable {engine : Engine} {path : Path} {content : Bytes}

theorem verdict_of_none (empty : (engine.applicable path).isEmpty = true) :
    engine.verdict path content = (⟨path, .skipped, [], none⟩, content) := by
  simp [verdict, empty]

theorem verdict_of_ok {formatted : Bytes} (applies : (engine.applicable path).isEmpty = false)
    (piped : engine.pipe path content = .ok formatted) :
    engine.verdict path content = (⟨path, if formatted = content then .unchanged else .changed,
      (engine.applicable path).map (·.name), none⟩, formatted) := by
  simp [verdict, applies, piped]

theorem verdict_of_error {fault : FileFault} {place : Option Path}
    (applies : (engine.applicable path).isEmpty = false)
    (piped : engine.pipe path content = .error (.file fault place)) :
    engine.verdict path content =
      (failure ((engine.applicable path).map (·.name)) path fault, content) := by
  simp [verdict, applies, piped]

end Verdicts

theorem formatAll_error {config : Configuration} {formatters : List Formatter} {t : Text}
    {fault : Fault} (failed : (Pipeline.formatAll config formatters t).1 = .error fault) :
    ∃ f ∈ formatters, ∃ given reason, f.format config given = .error reason ∧
      fault = Pipeline.faultOf f.name reason := by
  induction formatters generalizing t with
  | nil => cases failed
  | cons f rest ih =>
    rw [Pipeline.formatAll] at failed
    cases formatted : f.format config t with
    | error reason =>
      rw [formatted] at failed
      cases failed
      exact ⟨f, by simp, t, reason, formatted, rfl⟩
    | ok next =>
      rw [formatted] at failed
      obtain ⟨g, member, origin⟩ := ih failed
      exact ⟨g, List.mem_cons_of_mem f member, origin⟩

theorem apply_eq_error_iff {conversion : Conversion} {config : Configuration}
    {formatters : List Formatter} {content : Bytes} {fault : Fault} :
    (Pipeline.apply conversion config formatters content).result = .error fault ↔
      conversion.decode content = .error fault ∨
        ∃ t, conversion.decode content = .ok t ∧
          ((Pipeline.formatAll config formatters t).1 = .error fault ∨
            ∃ formatted, (Pipeline.formatAll config formatters t).1 = .ok formatted ∧
              conversion.encode (Pipeline.finish config formatted) = .error fault) := by
  unfold Pipeline.apply
  cases conversion.decode content with
  | error other => simp
  | ok t =>
    cases formatted : Pipeline.formatAll config formatters t with
    | mk result handed =>
      cases result with
      | error other => simp [formatted]
      | ok next => simp [formatted]

theorem Confined.pipe_error {engine : Engine} (confined : engine.Confined) {path : Path}
    {content : Bytes} {fault : Fault} (failed : engine.pipe path content = .error fault) :
    ∃ cause, fault = .file cause none := by
  rcases apply_eq_error_iff.mp failed
    with undecoded | ⟨t, _, unformatted | ⟨formatted, _, unencoded⟩⟩
  · obtain ⟨defect, rfl⟩ := confined.decodes _ _ undecoded
    exact ⟨_, rfl⟩
  · obtain ⟨f, member, t, reason, rejected, rfl⟩ := formatAll_error unformatted
    obtain ⟨cause, rfl⟩ := confined.rejects f (List.mem_filter.mp member).1 _ _ _ rejected
    exact ⟨_, rfl⟩
  · obtain ⟨defect, rfl⟩ := confined.encodes _ _ unencoded
    exact ⟨_, rfl⟩

theorem Confined.withJobs {engine : Engine} (confined : engine.Confined) (jobs : Nat) :
    Confined { engine with jobs } :=
  ⟨confined.rejects, confined.decodes, confined.encodes, confined.saves⟩

end Engine

structure FileSystem.Aims (fs : FileSystem) (path : Path) (loc : Location) (content : Bytes)
    (mode : Nat) :
    Prop where
  leads : fs.locate true path = .ok loc
  there : fs.get? loc = some (.file content mode)

theorem FileSystem.Aims.read {fs : FileSystem} {path : Path} {loc : Location} {content : Bytes}
    {mode : Nat} (aims : fs.Aims path loc content mode) : fs.read path = .ok content :=
  read_of_locate aims.leads aims.there

/-- The pipeline does not stop the run at a file: it gives bytes, or a fault of that file. -/
def Engine.Manages (engine : Engine) (fs : FileSystem) (path : Path) : Prop :=
  ∀ loc content mode fault, fs.Aims path loc content mode →
    (engine.applicable path).isEmpty = false → engine.pipe path content = .error fault →
    ∃ cause place, fault = .file cause place

theorem Engine.Confined.manages {engine : Engine} (confined : engine.Confined) (fs : FileSystem)
    (path : Path) : engine.Manages fs path := by
  intro loc content mode fault _ _ failed
  obtain ⟨cause, rfl⟩ := confined.pipe_error failed
  exact ⟨cause, none, rfl⟩

theorem Engine.process_of_error {engine : Engine} {path : Path} {world : World} {content : Bytes}
    {fault : Fault} (applies : (engine.applicable path).isEmpty = false)
    (read : world.files.read path = .ok content) (piped : engine.pipe path content = .error fault) :
    ∃ after : World, after.files = world.files ∧
      ((∃ cause place, fault = .file cause place ∧ engine.process path world =
          (.ok (Engine.failure ((engine.applicable path).map (·.name)) path cause), after)) ∨
        (∀ cause place, fault ≠ .file cause place) ∧
        engine.process path world = (.error fault, after)) := by
  obtain ⟨now, failed, files⟩ : ∃ now : World,
      engine.formatFile path (engine.applicable path) content world = (.error fault, now) ∧
        now.files = world.files := by
    unfold Engine.pipe at piped
    simp only [Engine.formatFile, piped]
    exact ⟨_, rfl, rfl⟩
  cases fault with
  | file cause place =>
    refine ⟨now.report [.failedToFormat path cause], files, .inl ⟨cause, place, rfl, ?_⟩⟩
    simp [Engine.process, applies, read, failed]
  | _ =>
    refine ⟨now, files, .inr ⟨by simp, ?_⟩⟩
    simp [Engine.process, applies, read, failed]

/-- What the run says about a file, by its contents before the run. -/
def Engine.outcomeOf (engine : Engine) (fs : FileSystem) (path : Path) : Outcome :=
  (engine.verdict path ((fs.read path).toOption.getD [])).1

theorem Engine.outcomeOf_of_read {engine : Engine} {fs : FileSystem} {path : Path} {content : Bytes}
    (read : fs.read path = .ok content) :
    engine.outcomeOf fs path = (engine.verdict path content).1 := by
  rw [Engine.outcomeOf, read]
  rfl

theorem Engine.outcomeOf_eq {engine : Engine} {fs : FileSystem} {path : Path} {loc : Location}
    {content : Bytes} {mode : Nat} (aims : fs.Aims path loc content mode) :
    engine.outcomeOf fs path = (engine.verdict path content).1 := outcomeOf_of_read aims.read

/-- Paths that lead to different files. -/
structure Plan (fs : FileSystem) (paths : List Path) : Prop where
  files : ∀ path ∈ paths, ∃ loc content mode, fs.Aims path loc content mode
  apart : ∀ path ∈ paths, ∀ other ∈ paths, ∀ loc, fs.locate true path = .ok loc →
    fs.locate true other = .ok loc → path = other
  distinct : paths.Nodup

theorem plan_files {fs : FileSystem} (tree : fs.IsTree) (excluded : Walk.Excluded) {root : Path}
    (directory : fs.isDirectory root = true) : Plan fs (Walk.files fs excluded root) := by
  obtain ⟨base, start, there⟩ := isDirectory_iff.mp directory
  obtain ⟨distinct, spec⟩ := Walk.files_spec tree start there
  have aims {path : Path} (member : path ∈ Walk.files fs excluded root) :
      ∃ parts content mode, path = Walk.pathTo root parts ∧
        fs.Aims path (base ++ parts) content mode := by
    obtain ⟨parts, rfl, ⟨content, mode, regular⟩, _⟩ := spec path member
    exact ⟨parts, content, mode, rfl, Walk.locate_pathTo tree start regular (by simp), regular⟩
  refine ⟨?_, ?_, distinct⟩
  · intro path member
    obtain ⟨parts, content, mode, _, leads⟩ := aims member
    exact ⟨_, content, mode, leads⟩
  · intro path member other second loc first same
    obtain ⟨parts, _, _, rfl, here⟩ := aims member
    obtain ⟨more, _, _, rfl, elsewhere⟩ := aims second
    rw [here.leads] at first
    rw [elsewhere.leads, ← first] at same
    rw [List.append_cancel_left (Except.ok.inj same)]

/-- The files of a run: the root itself, if it is a file, or else those that a walk finds. -/
def Walk.targets (fs : FileSystem) (excluded : Walk.Excluded) (root : Path) : List Path :=
  if fs.isFile root then [root] else Walk.files fs excluded root

theorem Walk.targets_of_directory {fs : FileSystem} (excluded : Walk.Excluded) {root : Path}
    (directory : fs.isDirectory root = true) :
    targets fs excluded root = files fs excluded root := by
  obtain ⟨base, found, there⟩ := isDirectory_iff.mp directory
  simp [targets, isFile, stat_of_locate found there]

theorem plan_targets {fs : FileSystem} (tree : fs.IsTree) (excluded : Walk.Excluded) {root : Path}
    (rooted : fs.isFile root = true ∨ fs.isDirectory root = true) :
    Plan fs (Walk.targets fs excluded root) := by
  unfold Walk.targets
  by_cases file : fs.isFile root = true
  · obtain ⟨loc, content, mode, leads, there⟩ := isFile_iff.mp file
    rw [if_pos file]
    refine ⟨?_, ?_, by simp⟩
    · intro path member
      obtain rfl := List.mem_singleton.mp member
      exact ⟨loc, content, mode, leads, there⟩
    · intro path member other second _ _ _
      rw [List.mem_singleton.mp member, List.mem_singleton.mp second]
  · rw [if_neg file]
    exact plan_files tree excluded (rooted.resolve_left file)

/-- Some files have their final contents, and all else is as it was. -/
structure Settled (engine : Engine) (fs g : FileSystem) (done : List Path) : Prop where
  alike : fs.Alike g
  settled : ∀ path ∈ done, ∀ {loc content mode}, fs.Aims path loc content mode →
    g.get? loc = some (.file (engine.verdict path content).2 mode)
  others : ∀ loc, (∀ path ∈ done, fs.locate true path ≠ .ok loc) → g.get? loc = fs.get? loc

namespace Settled

variable {engine : Engine} {fs g : FileSystem} {done : List Path}

theorem start (engine : Engine) (fs : FileSystem) : Settled engine fs fs [] :=
  ⟨.refl fs, by simp, fun _ _ => rfl⟩

theorem unique {g' : FileSystem} (tree : fs.IsTree) (plan : Plan fs done)
    (one : Settled engine fs g done) (two : Settled engine fs g' done) : g = g' := by
  have same : g.locations = fs.locations := one.alike.locations
  refine eq_of_get? (one.alike.current.trans two.alike.current.symm)
    (same.trans two.alike.locations.symm) (same ▸ tree.distinct) (same ▸ tree.inner) ?_
  intro loc
  by_cases visited : ∃ path ∈ done, fs.locate true path = .ok loc
  · obtain ⟨path, member, leads⟩ := visited
    obtain ⟨place, content, mode, aims⟩ := plan.files path member
    cases leads.symm.trans aims.leads
    rw [one.settled path member aims, two.settled path member aims]
  · have away : ∀ path ∈ done, fs.locate true path ≠ .ok loc :=
      fun path member leads => visited ⟨path, member, leads⟩
    rw [one.others loc away, two.others loc away]

theorem add {g' : FileSystem} (before : Settled engine fs g done) {path : Path} {loc : Location}
    {content : Bytes} {mode : Nat} (aims : fs.Aims path loc content mode)
    (fresh : ∀ other ∈ done, fs.locate true other ≠ .ok loc) (alike : fs.Alike g')
    (now : g'.get? loc = some (.file (engine.verdict path content).2 mode))
    (rest : ∀ k, k ≠ loc → g'.get? k = g.get? k) : Settled engine fs g' (done ++ [path]) := by
  refine ⟨alike, ?_, ?_⟩
  · intro other member place bytes bits leads
    rcases List.mem_append.mp member with member | member
    · rw [rest, before.settled other member leads]
      rintro rfl
      exact fresh other member leads.leads
    · obtain rfl := List.mem_singleton.mp member
      cases aims.leads.symm.trans leads.leads
      cases aims.there.symm.trans leads.there
      exact now
  · intro k away
    have other : k ≠ loc := by
      rintro rfl
      exact away path (by simp) aims.leads
    rw [rest k other, before.others k fun p member => away p (List.mem_append_left _ member)]

end Settled

end SourceTidy
