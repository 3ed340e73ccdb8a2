import SourceTidy.Proofs.RealCalls
import SourceTidy.Proofs.Settlement

/-!
A run with several workers, as a machine that takes turns.

The walk goes on while workers process the files that it has handed over, and a worker makes one
call of the operating system in a turn. A schedule says whose turn it is and which tag a new
temporary file gets, so the schedules are the interleavings of a run. A turn that cannot be taken,
or in which a call fails, is no turn: what is said here is about runs in which all calls succeed.
The outcomes are collected in any order, when all files have been handed over.
-/
namespace SourceTidy.Workers

open FileSystem

/-- What the walk has still to do: hand over a given file, list a directory, enter one unless it is
a link, or look at a name. -/
inductive Item
  | given (path : Path)
  | directory (depth : Nat) (below : List String)
  | subdirectory (depth : Nat) (below : List String)
  | look (below : List String) (name : String)

inductive Progress
  | waiting
  | loaded (content : Bytes)
  | saving (target : Path) (formatted : Bytes) (stage : Saving.Stage)
  | finished (outcome : Outcome)
  | delivered

def Progress.isBusy : Progress → Bool
  | loaded _ => true
  | saving _ _ _ => true
  | _ => false

def Progress.isWaiting : Progress → Bool
  | waiting => true
  | _ => false

structure Task where
  path : Path
  progress : Progress

structure State where
  files : FileSystem
  agenda : List Item
  tasks : List Task := []
  outcomes : List Outcome := []

inductive Turn
  | walk
  | work (task : Nat) (tag : Saving.Tag)
  | collect (task : Nat)

def handOver (path : Path) (rest : List Item) (state : State) : State :=
  { state with agenda := rest, tasks := state.tasks ++ [⟨path, .waiting⟩] }

def walk (engine : Engine) (root : Path) (state : State) : Option State :=
  match state.agenda with
  | [] => none
  | .given path :: rest => some (handOver path rest state)
  | .directory 0 _ :: rest => some { state with agenda := rest }
  | .directory (depth + 1) below :: rest =>
    match Walk.listing state.files engine.excluded root below with
    | .error _ => none
    | .ok (files, directories) =>
      let more := files.map (.look below) ++
        directories.map fun name => .subdirectory depth (below ++ [name])
      some { state with agenda := more ++ rest }
  | .subdirectory depth below :: rest =>
    let more := if state.files.isLink (Walk.pathTo root below) then [] else [.directory depth below]
    some { state with agenda := more ++ rest }
  | .look below name :: rest =>
    match Walk.inspect state.files engine.excluded root below name with
    | .file path => some (handOver path rest state)
    | .note _ => some { state with agenda := rest }

/-- Nothing fails, and a new temporary file gets the tag. -/
def untroubled (tag : Saving.Tag) : Saving.Faults :=
  { tag := fun _ _ => tag }

def advance (engine : Engine) (tag : Saving.Tag) (path : Path) (fs : FileSystem) :
    Progress → Option (Progress × FileSystem)
  | .waiting =>
    if (engine.applicable path).isEmpty then some (.finished ⟨path, .skipped, [], none⟩, fs)
    else
      match fs.read path with
      | .ok content => some (.loaded content, fs)
      | .error _ => none
  | .loaded content =>
    match engine.pipe path content with
    | .ok formatted => some (.saving (fs.realPath path) formatted (.compare (some content)), fs)
    | .error (.file fault _) =>
      some (.finished (Engine.failure ((engine.applicable path).map (·.name)) path fault), fs)
    | .error _ => none
  | .saving target formatted stage =>
    match Saving.step (untroubled tag) target formatted stage fs with
    | (.finished (.ok changed), fs) =>
      some (.finished ⟨path, if changed then .changed else .unchanged,
        (engine.applicable path).map (·.name), none⟩, fs)
    | (.finished (.error _), _) => none
    | (.cleanUp _ _, _) => none
    | (next, fs) => some (.saving target formatted next, fs)
  | .finished _ => none
  | .delivered => none

/-- No more than `jobs` files are being processed at a time. -/
def hasRoom (engine : Engine) (state : State) : Bool :=
  state.tasks.countP (·.progress.isBusy) < engine.jobs

def step (engine : Engine) (root : Path) (state : State) : Turn → Option State
  | .walk => walk engine root state
  | .work i tag =>
    match state.tasks[i]? with
    | none => none
    | some task =>
      if task.progress.isWaiting && !hasRoom engine state then none
      else
        match advance engine tag task.path state.files task.progress with
        | none => none
        | some (progress, files) =>
          some { state with files, tasks := state.tasks.set i ⟨task.path, progress⟩ }
  | .collect i =>
    match state.agenda, state.tasks[i]? with
    | [], some ⟨path, .finished outcome⟩ =>
      some { state with
        tasks := state.tasks.set i ⟨path, .delivered⟩, outcomes := state.outcomes ++ [outcome] }
    | _, _ => none

def run (engine : Engine) (root : Path) : List Turn → State → Option State
  | [], state => some state
  | turn :: schedule, state =>
    match step engine root state turn with
    | none => none
    | some next => run engine root schedule next

def start (fs : FileSystem) (root : Path) : State where
  files := fs
  agenda := if fs.isFile root then [.given root] else [.directory (fs.entries.length + 1) []]

def State.isComplete (state : State) : Bool :=
  state.agenda.isEmpty && state.tasks.all fun task =>
    match task.progress with
    | .delivered => true
    | _ => false

/- What one worker does. -/

def Progress.temporary : Progress → Option Location
  | saving _ _ (.write temporary _) => some temporary.parts
  | saving _ _ (.setMode temporary _) => some temporary.parts
  | saving _ _ (.replace temporary) => some temporary.parts
  | _ => none

def Task.temporary (task : Task) : Option Location :=
  task.progress.temporary

section Standing

variable (engine : Engine) (fs : FileSystem) (path : Path) (loc : Location) (content : Bytes)
  (mode : Nat) (g : FileSystem)

/-- There is a temporary file with a tag that was free before the run. -/
def Beside (temporary : Path) (entry : Entry) : Prop :=
  ∃ tag, Saving.Free fs loc tag ∧ temporary = ⟨.root, Saving.beside loc tag⟩ ∧
    g.get? (Saving.beside loc tag) = some entry

/-- What holds at a stage of a saving in which nothing fails. -/
def Ongoing (formatted : Bytes) : Saving.Stage → Prop
  | .compare known => known = some content
  | .measure => formatted ≠ content
  | .create now => formatted ≠ content ∧ now = mode
  | .write temporary now =>
    formatted ≠ content ∧ now = mode ∧ Beside fs loc g temporary (.file [] privateMode)
  | .setMode temporary now =>
    formatted ≠ content ∧ now = mode ∧ Beside fs loc g temporary (.file formatted privateMode)
  | .replace temporary => formatted ≠ content ∧ Beside fs loc g temporary (.file formatted mode)
  | .cleanUp _ _ => False
  | .finished _ => False

/-- What holds of the file at `loc`, which had these contents and this mode before the run. -/
def Stands : Progress → Prop
  | .waiting => g.get? loc = some (.file content mode)
  | .loaded bytes =>
    bytes = content ∧ (engine.applicable path).isEmpty = false ∧
    g.get? loc = some (.file content mode)
  | .saving target formatted stage =>
    (engine.applicable path).isEmpty = false ∧ engine.pipe path content = .ok formatted ∧
      target = ⟨.root, loc⟩ ∧ g.get? loc = some (.file content mode) ∧
      Ongoing fs loc content mode g formatted stage
  | .finished outcome =>
    outcome = (engine.verdict path content).1 ∧
      g.get? loc = some (.file (engine.verdict path content).2 mode)
  | .delivered => g.get? loc = some (.file (engine.verdict path content).2 mode)

end Standing

/-- What a turn of a worker does to the files, by the temporary file that it had and the one that it
has. -/
inductive Moved (fs g : FileSystem) (loc : Location) (mode : Nat) :
    Option Location → Option Location → FileSystem → Prop
  | kept (temporary : Option Location) : Moved fs g loc mode temporary temporary g
  | made {tag : Saving.Tag} : Saving.Free g loc tag → fs.get? (Saving.beside loc tag) = none →
      Moved fs g loc mode none (some (Saving.beside loc tag))
        (g.set (Saving.beside loc tag) (.file [] privateMode))
  | changed {temporary : Location} {old : Bytes} {before : Nat} (new : Bytes) (now : Nat) :
      g.get? temporary = some (.file old before) → fs.get? temporary = none →
      Moved fs g loc mode (some temporary) (some temporary) (g.set temporary (.file new now))
  | moved {temporary : Location} {new : Bytes} :
      g.get? temporary = some (.file new mode) → fs.get? temporary = none →
      Moved fs g loc mode (some temporary) none ((g.set loc (.file new mode)).erase temporary)

section Turns

variable {engine : Engine} {fs g : FileSystem} (grown : g.IsTree) (grows : fs.GrowsTo g)
  {path : Path} {loc : Location} {content : Bytes} {mode : Nat}
    (aims : fs.Aims path loc content mode)

theorem attempt_untroubled {α : Type} (tag : Saving.Tag) (call : Saving.Call)
    (action : Except OsError α) :
    Saving.attempt (untroubled tag) call action = action.mapError .os := rfl

include grown grows aims in
theorem step_ongoing {tag : Saving.Tag} {formatted : Bytes} {stage : Saving.Stage}
    (there : g.get? loc = some (.file content mode))
    (ongoing : Ongoing fs loc content mode g formatted stage) {next : Saving.Stage}
    {g' : FileSystem} (stepped : Saving.step (untroubled tag) ⟨.root, loc⟩ formatted stage g =
      (next, g')) :
    let temporary (stage : Saving.Stage) := (Progress.saving ⟨.root, loc⟩ formatted stage).temporary
    Moved fs g loc mode (temporary stage) (temporary next) g' ∧
      match next with
      | .finished (.ok changed) =>
        changed = decide (formatted ≠ content) ∧ g'.get? loc = some (.file formatted mode)
      | .finished (.error _) => True
      | .cleanUp _ _ => True
      | next => g'.get? loc = some (.file content mode) ∧
        Ongoing fs loc content mode g' formatted next := by
  cases stage with
  | compare known =>
    obtain rfl := ongoing
    by_cases same : content = formatted
    · cases stepped.symm.trans (if_pos same)
      exact ⟨.kept none, by simp [same], same ▸ there⟩
    · cases stepped.symm.trans (if_neg same)
      exact ⟨.kept none, there, Ne.symm same⟩
  | measure =>
    simp only [Saving.step, attempt_untroubled, grown.stat_real there, Except.mapError] at stepped
    cases stepped
    exact ⟨.kept none, there, ongoing, rfl⟩
  | create now =>
    obtain ⟨differs, rfl⟩ := ongoing
    simp only [Saving.step, untroubled] at stepped
    cases created : g.create (Saving.temporaryPath ⟨.root, loc⟩ tag) with
    | error error =>
      rw [created] at stepped
      cases stepped
      exact ⟨.kept none, trivial⟩
    | ok made =>
      rw [created] at stepped
      cases stepped
      obtain ⟨free, rfl⟩ := (Saving.create_temporary_iff grown there).mp created
      have inner := Saving.beside_ne_nil loc tag
      have unused : fs.get? (Saving.beside loc tag) = none := by
        cases before : fs.get? (Saving.beside loc tag) with
        | none => rfl
        | some entry =>
          obtain ⟨now, still, _⟩ := grows.kept before
          rw [free.unused] at still
          cases still
      refine ⟨.made free unused, ?_, differs, rfl, tag, ⟨free.proper, unused⟩, rfl, ?_⟩
      · rw [get?_set _ inner, if_neg (ne_of_get? there free.unused), there]
      · rw [get?_set _ inner, if_pos rfl]
  | write temporary now =>
    obtain ⟨differs, rfl, tag, free, rfl, held⟩ := ongoing
    simp only [Saving.step, attempt_untroubled, grown.write_real held, Except.mapError] at stepped
    cases stepped
    have inner := Saving.beside_ne_nil loc tag
    refine ⟨.changed formatted _ held free.unused, ?_, differs, rfl, tag, free, rfl, ?_⟩
    · rw [get?_set _ inner, if_neg (ne_of_get? aims.there free.unused), there]
    · rw [get?_set _ inner, if_pos rfl]
  | setMode temporary now =>
    obtain ⟨differs, rfl, tag, free, rfl, held⟩ := ongoing
    simp only [Saving.step, attempt_untroubled, grown.setMode_real held, Except.mapError] at stepped
    cases stepped
    have inner := Saving.beside_ne_nil loc tag
    refine ⟨.changed formatted _ held free.unused, ?_, differs, tag, free, rfl, ?_⟩
    · rw [get?_set _ inner, if_neg (ne_of_get? aims.there free.unused), there]
    · rw [get?_set _ inner, if_pos rfl]
  | replace temporary =>
    obtain ⟨differs, other, free, rfl, held⟩ := ongoing
    have moved : g.replace ⟨.root, Saving.beside loc other⟩ ⟨.root, loc⟩ =
        .ok ((g.set loc (.file formatted mode)).erase (Saving.beside loc other)) :=
      grown.replace_real held there
    have kept : ((untroubled tag).lost = true) = False := by simp [untroubled]
    simp only [Saving.step, attempt_untroubled, kept, if_false, moved, Except.mapError] at stepped
    cases stepped
    refine ⟨.moved held free.unused, by simp [differs], ?_⟩
    rw [get?_erase (Saving.beside_ne_nil loc other), if_neg (ne_of_get? aims.there free.unused),
      get?_set _ (IsTree.file_ne_nil there), if_pos rfl]
  | cleanUp temporary failure => exact ongoing.elim
  | finished result => exact ongoing.elim

include grown grows aims in
theorem advance_stands (confined : engine.Confined) {tag : Saving.Tag} {progress next : Progress}
    {g' : FileSystem} (stands : Stands engine fs path loc content mode g progress)
    (advanced : advance engine tag path g progress = some (next, g')) :
    Moved fs g loc mode progress.temporary next.temporary g' ∧
      Stands engine fs path loc content mode g' next := by
  have leads := grows.locate aims.leads
  cases progress with
  | waiting =>
    simp only [advance] at advanced
    cases empty : (engine.applicable path).isEmpty with
    | true =>
      simp only [empty, if_true] at advanced
      cases advanced
      refine ⟨.kept none, ?_⟩
      simp only [Stands, Engine.verdict_of_none empty, true_and]
      exact stands
    | false =>
      simp only [empty, read_of_locate leads stands] at advanced
      cases advanced
      exact ⟨.kept none, rfl, empty, stands⟩
  | loaded bytes =>
    obtain ⟨rfl, applies, there⟩ := stands
    simp only [advance] at advanced
    cases piped : engine.pipe path bytes with
    | ok formatted =>
      simp only [piped, grown.realPath_of_locate leads] at advanced
      cases advanced
      exact ⟨.kept none, applies, piped, rfl, there, rfl⟩
    | error fault =>
      obtain ⟨cause, rfl⟩ := confined.pipe_error piped
      simp only [piped] at advanced
      cases advanced
      refine ⟨.kept none, ?_⟩
      simp only [Stands, Engine.verdict_of_error applies piped, true_and]
      exact there
  | saving target formatted stage =>
    obtain ⟨applies, piped, rfl, there, ongoing⟩ := stands
    simp only [advance] at advanced
    cases stepped : Saving.step (untroubled tag) ⟨.root, loc⟩ formatted stage g with
    | mk after files =>
      obtain ⟨moved, rest⟩ := step_ongoing grown grows aims there ongoing stepped
      rw [stepped] at advanced
      cases after with
      | compare | measure | create | write | setMode | replace =>
        cases advanced
        exact ⟨moved, applies, piped, rfl, rest.1, rest.2⟩
      | cleanUp temporary failure => cases advanced
      | finished result =>
        cases result with
        | error failure => cases advanced
        | ok changed =>
          obtain ⟨rfl, now⟩ := rest
          cases advanced
          refine ⟨moved, ?_⟩
          simp only [Stands, Engine.verdict_of_ok applies piped]
          refine ⟨?_, now⟩
          by_cases same : formatted = content
          · simp [same]
          · simp [same]
  | finished outcome => cases advanced
  | delivered => cases advanced

end Turns

/- What follows for the files as a whole. -/

section Files

variable {fs g g' : FileSystem} {loc : Location} {content : Bytes} {mode : Nat}
  {old new : Option Location} (moved : Moved fs g loc mode old new g')
    (before : fs.get? loc = some (.file content mode))

include moved before

theorem Moved.isTree (grown : g.IsTree) {bytes : Bytes}
    (there : g.get? loc = some (.file bytes mode)) :
    g'.IsTree := by
  cases moved with
  | kept => exact grown
  | made free _ => exact grown.add_file (grown.parent there) free.proper free.unused [] privateMode
  | changed _ _ held _ => exact grown.set_file held
  | @moved temporary written held free =>
    have other : temporary ≠ loc := (ne_of_get? before free).symm
    have still : (g.set loc (.file written mode)).get? temporary = some (.file written mode) := by
      rw [get?_set _ (IsTree.file_ne_nil there), if_neg other, held]
    have replaced : (g.set loc (.file written mode)).IsTree := grown.set_file there
    exact replaced.erase_file still

theorem Moved.grows (grows : fs.GrowsTo g) : fs.GrowsTo g' := by
  cases moved with
  | kept => exact grows
  | made _ free => exact grows.set_added (Saving.beside_ne_nil _ _) free _ _
  | changed _ _ held free => exact grows.set_added (IsTree.file_ne_nil held) free _ _
  | moved held free => exact (grows.set_kept before _).erase_added (IsTree.file_ne_nil held) free

theorem Moved.frame {k : Location} (elsewhere : k ≠ loc) (notOld : old ≠ some k)
    (notNew : new ≠ some k) :
    g'.get? k = g.get? k := by
  cases moved with
  | kept => rfl
  | made _ _ =>
    rw [get?_set _ (Saving.beside_ne_nil _ _), if_neg]
    exact fun same => notNew (congrArg some same.symm)
  | changed _ _ held _ =>
    rw [get?_set _ (IsTree.file_ne_nil held), if_neg]
    exact fun same => notNew (congrArg some same.symm)
  | moved held _ =>
    rw [get?_erase (IsTree.file_ne_nil held), if_neg fun same => notOld (congrArg some same.symm),
      get?_set _ (IsTree.file_ne_nil before), if_neg elsewhere]

omit before in
theorem Moved.old_or_fresh {k : Location} (held : new = some k) :
    old = some k ∨ g.get? k = none := by
  cases moved with
  | kept => exact .inl held
  | made free _ =>
    cases held
    exact .inr free.unused
  | changed => exact .inl held
  | moved => cases held

/-- The only new entry is a new temporary file, and one that the worker no longer has is gone. -/
theorem Moved.mem_locations {bytes : Bytes} (there : g.get? loc = some (.file bytes mode))
    {k : Location} (member : k ∈ g'.locations) :
    new = some k ∨ (k ∈ g.locations ∧ old ≠ some k) := by
  have inner := IsTree.file_ne_nil before
  cases moved with
  | kept =>
    by_cases held : old = some k
    · exact .inl held
    · exact .inr ⟨member, held⟩
  | made free _ =>
    rw [locations_set_of_not_mem _ ((get?_eq_none_iff (Saving.beside_ne_nil _ _)).mp free.unused)]
      at member
    rcases List.mem_append.mp member with member | member
    · exact .inr ⟨member, by simp⟩
    · exact .inl (congrArg some (List.mem_singleton.mp member).symm)
  | @changed temporary _ _ _ _ held _ =>
    rw [locations_set_of_mem _ (mem_locations_of_get? (IsTree.file_ne_nil held) held)] at member
    by_cases same : temporary = k
    · exact .inl (congrArg some same)
    · exact .inr ⟨member, fun equal => same (Option.some.inj equal)⟩
  | @moved temporary _ held _ =>
    rw [locations_erase, locations_set_of_mem _ (mem_locations_of_get? inner there)] at member
    obtain ⟨member, other⟩ := List.mem_filter.mp member
    refine .inr ⟨member, ?_⟩
    intro equal
    simp [Option.some.inj equal] at other

theorem Moved.order {bytes : Bytes} (there : g.get? loc = some (.file bytes mode))
    (order : g.locations.filter (· ∈ fs.locations) = fs.locations) :
    g'.locations.filter (· ∈ fs.locations) = fs.locations := by
  have inner := IsTree.file_ne_nil before
  cases moved with
  | kept => exact order
  | made free unused =>
    have away := (get?_eq_none_iff (Saving.beside_ne_nil _ _)).mp unused
    rw [locations_set_of_not_mem _ ((get?_eq_none_iff (Saving.beside_ne_nil _ _)).mp free.unused),
      List.filter_append, order]
    simp [away]
  | changed _ _ held _ =>
    rw [locations_set_of_mem _ (mem_locations_of_get? (IsTree.file_ne_nil held) held), order]
  | @moved temporary _ held free =>
    have away := (get?_eq_none_iff (IsTree.file_ne_nil held)).mp free
    rw [locations_erase, locations_set_of_mem _ (mem_locations_of_get? inner there),
      List.filter_filter]
    have same : (fun k => decide (k ∈ fs.locations) && decide (k ≠ temporary)) =
        fun k => decide (k ∈ fs.locations) := by
      funext k
      by_cases hit : k = temporary
      · simp [hit, away]
      · simp [hit]
    rw [same, order]

end Files

section Frames

variable {engine : Engine} {fs g g' : FileSystem} {path : Path} {loc : Location} {content : Bytes}
  {mode : Nat} {progress : Progress} (stands : Stands engine fs path loc content mode g progress)

include stands

theorem Stands.file : ∃ bytes, g.get? loc = some (.file bytes mode) := by
  cases progress with
  | waiting => exact ⟨content, stands⟩
  | loaded bytes => exact ⟨content, stands.2.2⟩
  | saving target formatted stage => exact ⟨content, stands.2.2.2.1⟩
  | finished outcome => exact ⟨_, stands.2⟩
  | delivered => exact ⟨_, stands⟩

theorem Stands.temporary {k : Location} (held : progress.temporary = some k) :
    (∃ tag, k = Saving.beside loc tag) ∧ fs.get? k = none ∧ ∃ entry, g.get? k = some entry := by
  cases progress with
  | waiting | loaded | finished | delivered => cases held
  | saving target formatted stage =>
    have ongoing := stands.2.2.2.2
    cases stage with
    | compare | measure | create | cleanUp | finished => cases held
    | write temporary now | setMode temporary now =>
      obtain ⟨_, _, tag, free, rfl, there⟩ := ongoing
      cases held
      exact ⟨⟨tag, rfl⟩, free.unused, _, there⟩
    | replace temporary =>
      obtain ⟨_, tag, free, rfl, there⟩ := ongoing
      cases held
      exact ⟨⟨tag, rfl⟩, free.unused, _, there⟩

/-- A worker stands where it stood while others do not touch its file and its temporary file. -/
theorem Stands.frame (same : g'.get? loc = g.get? loc)
    (held : ∀ k, progress.temporary = some k → g'.get? k = g.get? k) :
    Stands engine fs path loc content mode g' progress := by
  have kept {temporary : Path} {entry : Entry}
    (untouched : g'.get? temporary.parts = g.get? temporary.parts)
      (there : Beside fs loc g temporary entry) : Beside fs loc g' temporary entry := by
    obtain ⟨tag, free, rfl, found⟩ := there
    exact ⟨tag, free, rfl, untouched.trans found⟩
  cases progress with
  | waiting => exact same.trans stands
  | loaded bytes => exact ⟨stands.1, stands.2.1, same.trans stands.2.2⟩
  | saving target formatted stage =>
    obtain ⟨applies, piped, aimed, there, ongoing⟩ := stands
    refine ⟨applies, piped, aimed, same.trans there, ?_⟩
    cases stage with
    | compare | measure | create | cleanUp | finished => exact ongoing
    | write temporary now | setMode temporary now =>
      exact ⟨ongoing.1, ongoing.2.1, kept (held _ rfl) ongoing.2.2⟩
    | replace temporary => exact ⟨ongoing.1, kept (held _ rfl) ongoing.2⟩
  | finished outcome => exact ⟨stands.1, same.trans stands.2⟩
  | delivered => exact same.trans stands

end Frames

end SourceTidy.Workers
