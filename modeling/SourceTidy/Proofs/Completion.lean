import SourceTidy.Proofs.AtomicSaving
import SourceTidy.Proofs.WorkerInvariant

/-!
Runs with several workers end.

Each turn uses up one of the turns that `State.left` counts, so no schedule goes on for ever. Until
all is done somebody can take a turn, if names for temporary files can be had.
-/
namespace SourceTidy.Workers

open FileSystem

/- The turns that are left. -/

def Progress.left : Progress → Nat
  | waiting => 11
  | loaded _ => 10
  | saving _ _ stage => stage.left + 2
  | finished _ => 1
  | delivered => 0

/-- The turns that are left with a file which has not been handed over. -/
def turnsAhead : Nat := Progress.waiting.left + 1

def turnsBelow (engine : Engine) (fs : FileSystem) (root : Path) : Nat → List String → Nat
  | 0, _ => 1
  | depth + 1, below =>
    match Walk.listing fs engine.excluded root below with
    | .error _ => 1
    | .ok (files, directories) =>
      1 + files.length * turnsAhead +
        (directories.map fun name => 1 + turnsBelow engine fs root depth (below ++ [name])).sum

def Item.turns (engine : Engine) (fs : FileSystem) (root : Path) : Item → Nat
  | given _ => turnsAhead
  | directory depth below => turnsBelow engine fs root depth below
  | subdirectory depth below => 1 + turnsBelow engine fs root depth below
  | look _ _ => turnsAhead

def State.left (engine : Engine) (fs : FileSystem) (root : Path) (state : State) : Nat :=
  (state.agenda.map (Item.turns engine fs root)).sum + (state.tasks.map (·.progress.left)).sum

theorem left_of_advance {engine : Engine} {tag : Saving.Tag} {path : Path} {g g' : FileSystem}
    {progress next : Progress} (advanced : advance engine tag path g progress = some (next, g')) :
    next.left < progress.left := by
  cases progress with
  | finished outcome => cases advanced
  | delivered => cases advanced
  | waiting =>
    simp only [advance] at advanced
    split at advanced
    · cases advanced
      simp [Progress.left]
    · split at advanced
      · cases advanced
        simp [Progress.left]
      · cases advanced
  | loaded bytes =>
    simp only [advance] at advanced
    split at advanced
    · cases advanced
      simp [Progress.left, Saving.Stage.left]
    · cases advanced
      simp [Progress.left]
    · cases advanced
  | saving target formatted stage =>
    have less := Saving.left_step (untroubled tag) target formatted stage g
    simp only [advance] at advanced
    split at advanced
    · cases advanced
      simp [Progress.left]
    · cases advanced
    · cases advanced
    · rename_i after files notDone _ _ stepped
      cases advanced
      rw [stepped] at less
      have some_left : 0 < after.left := by
        cases after with
        | finished result => cases result <;> simp_all
        | _ => simp [Saving.Stage.left]
      simp only [Progress.left] at less ⊢
      omega

section Steps

variable {engine : Engine} {fs : FileSystem} {root : Path} {base : Location} {state : State}
  (sound : Sound engine fs root base state)
  (plan : Plan fs (Walk.targets fs engine.excluded root)) (tree : fs.IsTree)
  (start : fs.locate true root = .ok base)

theorem left_handOver {item : Item} {rest : List Item} (agenda : state.agenda = item :: rest)
    (turns : item.turns engine fs root = turnsAhead) (path : Path) :
    (handOver path rest state).left engine fs root < state.left engine fs root := by
  simp only [State.left, handOver, agenda, List.map_cons, List.map_append, List.sum_cons,
    List.sum_append, turns, turnsAhead, List.map_nil, List.sum_nil]
  omega

theorem left_reschedule {item : Item} {rest more : List Item} (agenda : state.agenda = item :: rest)
    (fewer : (more.map (Item.turns engine fs root)).sum < item.turns engine fs root) :
    { state with agenda := more ++ rest }.left engine fs root < state.left engine fs root := by
  simp only [State.left, agenda, List.map_cons, List.map_append, List.sum_cons, List.sum_append]
  omega

theorem left_set {i : Nat} {task : Task} {next : Progress} {files : FileSystem}
    {outcomes : List Outcome} (found : state.tasks[i]? = some task)
    (less : next.left < task.progress.left) :
    State.left engine fs root
        { state with files, tasks := state.tasks.set i ⟨task.path, next⟩, outcomes } <
      state.left engine fs root := by
  obtain ⟨before, after, split, changed⟩ := split_of_getElem? found
  simp only [State.left]
  rw [changed, split]
  simp only [List.map_append, List.map_cons, List.sum_append, List.sum_cons]
  omega

include sound plan tree start

theorem Sound.left_walk {next : State} (stepped : Workers.walk engine root state = some next) :
    next.left engine fs root < state.left engine fs root := by
  simp only [Workers.walk] at stepped
  split at stepped
  · cases stepped
  · rename_i path rest agenda
    cases stepped
    exact left_handOver agenda rfl path
  · rename_i below rest agenda
    cases stepped
    have fewer : (([] : List Item).map (Item.turns engine fs root)).sum < 1 := by simp
    exact left_reschedule agenda fewer
  · rename_i depth below rest agenda
    have listed : Item.directory (depth + 1) below ∈ state.agenda := by simp [agenda]
    rw [sound.listing plan tree start listed] at stepped
    split at stepped
    · cases stepped
    · rename_i files directories lists
      cases stepped
      apply left_reschedule agenda
      simp only [Item.turns, turnsBelow, lists, List.map_append, List.map_map, List.sum_append,
        Function.comp_def, List.map_const', List.sum_replicate, smul_eq_mul]
      omega
  · rename_i depth below rest agenda
    cases stepped
    apply left_reschedule agenda
    split
    · simp [Item.turns]
    · simp [Item.turns]
  · rename_i below name rest agenda
    split at stepped
    · rename_i path finding
      cases stepped
      exact left_handOver agenda rfl path
    · cases stepped
      have fewer : (([] : List Item).map (Item.turns engine fs root)).sum < turnsAhead := by
        simp [turnsAhead]
      exact left_reschedule agenda fewer

theorem Sound.left_step {turn : Turn} {next : State}
    (stepped : Workers.step engine root state turn = some next) :
    next.left engine fs root < state.left engine fs root := by
  cases turn with
  | walk => exact sound.left_walk plan tree start stepped
  | work i tag =>
    obtain ⟨task, progress, files, found, advanced, rfl⟩ := work_cases stepped
    exact left_set found (left_of_advance advanced)
  | collect i =>
    simp only [Workers.step] at stepped
    split at stepped
    · rename_i path outcome _ found
      cases stepped
      exact left_set found (by simp [Progress.left])
    · cases stepped

/-- A schedule has no more turns than are left. -/
theorem Sound.length_le (confined : engine.Confined) {schedule : List Turn} {final : State}
    (ran : run engine root schedule state = some final) :
    schedule.length ≤ state.left engine fs root := by
  induction schedule generalizing state with
  | nil => exact Nat.zero_le _
  | cons turn schedule ih =>
    simp only [run] at ran
    split at ran
    · cases ran
    · rename_i next stepped
      have rest := ih (sound.step plan tree start confined stepped) ran
      have less := sound.left_step plan tree start stepped
      simp only [List.length_cons]
      omega

end Steps

/- Somebody can take a turn. -/

/-- Workers that are about to make a temporary file find a name for it. -/
def State.CanCreate (state : State) : Prop :=
  ∀ task ∈ state.tasks, ∀ target formatted mode,
    task.progress = .saving target formatted (.create mode) →
    ∃ tag made, state.files.create (Saving.temporaryPath target tag) = .ok made

section Turns

variable {engine : Engine} {fs g : FileSystem} (grown : g.IsTree) (grows : fs.GrowsTo g)
  {path : Path} {loc : Location} {content : Bytes} {mode : Nat}
    (aims : fs.Aims path loc content mode)

include grown in
theorem advance_saving {formatted : Bytes} {stage : Saving.Stage}
    (there : g.get? loc = some (.file content mode))
    (ongoing : Ongoing fs loc content mode g formatted stage)
    (creatable : ∀ now, stage = .create now →
      ∃ tag made, g.create (Saving.temporaryPath ⟨.root, loc⟩ tag) = .ok made) :
    ∃ tag next g', advance engine tag path g (.saving ⟨.root, loc⟩ formatted stage) =
      some (next, g') := by
  cases stage with
  | compare known =>
    obtain rfl := ongoing
    refine ⟨.ofNat 0, ?_⟩
    by_cases same : content = formatted
    · simp [advance, Saving.step, same]
    · simp [advance, Saving.step, same]
  | measure =>
    refine ⟨.ofNat 0, ?_⟩
    simp only [advance, Saving.step, attempt_untroubled, grown.stat_real there, Except.mapError]
    exact ⟨_, _, rfl⟩
  | create now =>
    obtain ⟨tag, made, created⟩ := creatable now rfl
    refine ⟨tag, ?_⟩
    simp only [advance, Saving.step, untroubled, created]
    exact ⟨_, _, rfl⟩
  | write temporary now =>
    obtain ⟨_, _, tag, _, rfl, held⟩ := ongoing
    refine ⟨tag, ?_⟩
    simp only [advance, Saving.step, attempt_untroubled, grown.write_real held, Except.mapError]
    exact ⟨_, _, rfl⟩
  | setMode temporary now =>
    obtain ⟨_, _, tag, _, rfl, held⟩ := ongoing
    refine ⟨tag, ?_⟩
    simp only [advance, Saving.step, attempt_untroubled, grown.setMode_real held, Except.mapError]
    exact ⟨_, _, rfl⟩
  | replace temporary =>
    obtain ⟨_, tag, _, rfl, held⟩ := ongoing
    refine ⟨tag, ?_⟩
    have moved : g.replace ⟨.root, Saving.beside loc tag⟩ ⟨.root, loc⟩ =
        .ok ((g.set loc (.file formatted mode)).erase (Saving.beside loc tag)) :=
      grown.replace_real held there
    have kept : ((untroubled tag).lost = true) = False := by simp [untroubled]
    simp only [advance, Saving.step, attempt_untroubled, kept, if_false, moved, Except.mapError]
    exact ⟨_, _, rfl⟩
  | cleanUp temporary failure => exact ongoing.elim
  | finished result => exact ongoing.elim

include grown grows aims in
theorem advance_unfinished (confined : engine.Confined) {progress : Progress}
    (stands : Stands engine fs path loc content mode g progress)
    (unfinished : progress.isWaiting = true ∨ progress.isBusy = true)
    (creatable : ∀ target formatted now, progress = .saving target formatted (.create now) →
      ∃ tag made, g.create (Saving.temporaryPath target tag) = .ok made) :
    ∃ tag next g', advance engine tag path g progress = some (next, g') := by
  cases progress with
  | waiting =>
    refine ⟨.ofNat 0, ?_⟩
    have read := read_of_locate (grows.locate aims.leads) stands
    cases empty : (engine.applicable path).isEmpty with
    | true => simp [advance, empty]
    | false => simp [advance, empty, read]
  | loaded bytes =>
    refine ⟨.ofNat 0, ?_⟩
    cases piped : engine.pipe path bytes with
    | ok formatted => simp [advance, piped]
    | error fault =>
      obtain ⟨cause, rfl⟩ := confined.pipe_error piped
      simp [advance, piped]
  | saving target formatted stage =>
    obtain ⟨_, _, rfl, there, ongoing⟩ := stands
    refine advance_saving grown there ongoing ?_
    rintro now rfl
    exact creatable _ formatted now rfl
  | finished outcome => simp [Progress.isWaiting, Progress.isBusy] at unfinished
  | delivered => simp [Progress.isWaiting, Progress.isBusy] at unfinished

end Turns

section Progress

variable {engine : Engine} {fs : FileSystem} {root : Path} {base : Location} {state : State}
  (sound : Sound engine fs root base state)

include sound

theorem Sound.walk_goes_on (plan : Plan fs (Walk.targets fs engine.excluded root))
    (tree : fs.IsTree) (start : fs.locate true root = .ok base) (more : state.agenda ≠ []) :
    ∃ next, Workers.walk engine root state = some next := by
  unfold Workers.walk
  split
  · contradiction
  · exact ⟨_, rfl⟩
  · exact ⟨_, rfl⟩
  · rename_i depth below rest agenda
    have listed : Item.directory (depth + 1) below ∈ state.agenda := by simp [agenda]
    rw [sound.listing plan tree start listed,
      Walk.listing_of_directory tree start (sound.valid _ listed)]
    exact ⟨_, rfl⟩
  · exact ⟨_, rfl⟩
  · split
    · exact ⟨_, rfl⟩
    · exact ⟨_, rfl⟩

theorem Sound.worker_goes_on (confined : engine.Confined) (creatable : state.CanCreate)
    {task : Task} (member : task ∈ state.tasks)
    (unfinished : task.progress.isWaiting = true ∨ task.progress.isBusy = true)
    (room : task.progress.isWaiting = true → hasRoom engine state = true) :
    ∃ turn next, Workers.step engine root state turn = some next := by
  obtain ⟨loc, content, mode, aims, stands⟩ := sound.stands task member
  obtain ⟨tag, progress, files, advanced⟩ :=
    advance_unfinished sound.grown sound.grows aims confined
    stands unfinished (creatable task member)
  obtain ⟨i, found⟩ := List.mem_iff_getElem?.mp member
  have allowed : (task.progress.isWaiting && !hasRoom engine state) = false := by
    cases waiting : task.progress.isWaiting with
    | true => simp [room waiting]
    | false => rfl
  refine ⟨.work i tag, ?_⟩
  simp [Workers.step, found, allowed, advanced]

/-- Until all is done, somebody can take a turn. -/
theorem Sound.goes_on (plan : Plan fs (Walk.targets fs engine.excluded root)) (tree : fs.IsTree)
    (start : fs.locate true root = .ok base) (confined : engine.Confined)
    (workers : 0 < engine.jobs) (creatable : state.CanCreate)
    (unfinished : state.isComplete = false) :
    ∃ turn next, Workers.step engine root state turn = some next := by
  by_cases more : state.agenda = []
  · by_cases busy : ∃ task ∈ state.tasks, task.progress.isBusy = true
    · obtain ⟨task, member, working⟩ := busy
      refine sound.worker_goes_on confined creatable member (.inr working) ?_
      cases progress : task.progress <;> simp_all [Progress.isBusy, Progress.isWaiting]
    · -- All workers are idle, so there is one for a file that waits.
      have room : hasRoom engine state = true := by
        have none_busy : state.tasks.countP (·.progress.isBusy) = 0 := by
          simpa [List.countP_eq_zero] using busy
        simpa [hasRoom, none_busy] using workers
      have open_task : ∃ task ∈ state.tasks, task.progress ≠ .delivered := by
        by_contra all
        push Not at all
        rw [isComplete_iff.mpr ⟨more, all⟩] at unfinished
        cases unfinished
      obtain ⟨⟨path, progress⟩, member, notYet⟩ := open_task
      cases progress with
      | waiting => exact sound.worker_goes_on confined creatable member (.inl rfl) fun _ => room
      | loaded bytes => exact absurd ⟨_, member, rfl⟩ busy
      | saving target formatted stage => exact absurd ⟨_, member, rfl⟩ busy
      | finished outcome =>
        obtain ⟨i, found⟩ := List.mem_iff_getElem?.mp member
        refine ⟨.collect i, ?_⟩
        simp [Workers.step, more, found]
      | delivered => exact absurd rfl notYet
  · obtain ⟨next, walked⟩ := sound.walk_goes_on plan tree start more
    exact ⟨.walk, next, walked⟩

end Progress

end SourceTidy.Workers
