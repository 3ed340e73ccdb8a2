import Mathlib.Tactic.Tauto
import SourceTidy.Proofs.Workers

/-!
What holds in every state of a run with several workers.

`Sound` is kept by every turn, so it holds whatever the schedule. Each worker stands somewhere on
the way of its own file and has at most one temporary file of its own, all else is as it was, and
what has been handed over and what is still on the agenda are together the files of the run. No
temporary file is in a directory that the walk has still to list, because the walk would find the
target of that file a second time.
-/
namespace SourceTidy.Workers

open FileSystem

def Progress.isDelivered : Progress → Bool
  | delivered => true
  | _ => false

def Item.paths (engine : Engine) (fs : FileSystem) (root : Path) : Item → List Path
  | given path => [path]
  | directory depth below =>
    (Walk.findingsFrom fs engine.excluded root depth below).filterMap Finding.path?
  | subdirectory depth below =>
    if fs.isLink (Walk.pathTo root below) then []
    else (Walk.findingsFrom fs engine.excluded root depth below).filterMap Finding.path?
  | look below name => (Walk.inspect fs engine.excluded root below name).path?.toList

def Item.Valid (fs : FileSystem) (root : Path) (base : Location) : Item → Prop
  | given _ => True
  | directory _ below => fs.get? (base ++ below) = some .directory
  | subdirectory _ below =>
    ∃ above name, below = above ++ [name] ∧ name ∈ fs.names (base ++ above) ∧
      fs.isDirectory (Walk.pathTo root below) = true
  | look below name => name ∈ fs.names (base ++ below)

structure Sound (engine : Engine) (fs : FileSystem) (root : Path) (base : Location)
    (state : State) :
    Prop where
  grown : state.files.IsTree
  grows : fs.GrowsTo state.files
  order : state.files.locations.filter (· ∈ fs.locations) = fs.locations
  extra : ∀ k ∈ state.files.locations, k ∈ fs.locations ∨
    ∃ task ∈ state.tasks, task.temporary = some k
  apart : (state.tasks.filterMap Task.temporary).Nodup
  sent : state.tasks.map (·.path) ++ state.agenda.flatMap (Item.paths engine fs root) =
    Walk.targets fs engine.excluded root
  stands : ∀ task ∈ state.tasks, ∃ loc content mode, fs.Aims task.path loc content mode ∧
    Stands engine fs task.path loc content mode state.files task.progress
  others : ∀ k entry, (∀ task ∈ state.tasks, fs.locate true task.path ≠ .ok k) →
    fs.get? k = some entry → state.files.get? k = some entry
  valid : ∀ item ∈ state.agenda, item.Valid fs root base
  collected : state.outcomes.Perm ((state.tasks.filter (·.progress.isDelivered)).map fun task =>
    engine.outcomeOf fs task.path)

/- Lists of tasks. -/

section Tasks

variable {before after : List Task} {task : Task}

theorem mem_split {other : Task} :
    other ∈ before ++ task :: after ↔ other = task ∨ other ∈ before ++ after := by
  simp only [List.mem_append, List.mem_cons]
  tauto

theorem split_of_getElem? {tasks : List Task} {i : Nat} (found : tasks[i]? = some task) :
    ∃ before after, tasks = before ++ task :: after ∧
      ∀ new, tasks.set i new = before ++ new :: after := by
  obtain ⟨inside, rfl⟩ := List.getElem?_eq_some_iff.mp found
  refine ⟨tasks.take i, tasks.drop (i + 1), by simp, ?_⟩
  intro new
  rw [List.set_eq_take_append_cons_drop, if_pos inside]

theorem temporary_ne_of_apart
    (apart : ((before ++ task :: after).filterMap Task.temporary).Nodup) {other : Task}
    (member : other ∈ before ++ after) {k : Location} (held : other.temporary = some k) :
    task.temporary ≠ some k := by
  intro same
  have inside : k ∈ (before ++ after).filterMap Task.temporary :=
    List.mem_filterMap.mpr ⟨other, member, held⟩
  rw [List.filterMap_append, List.filterMap_cons_some same, List.nodup_middle, List.nodup_cons,
    ← List.filterMap_append] at apart
  exact apart.1 inside

theorem apart_of_new {next : Task}
    (apart : ((before ++ task :: after).filterMap Task.temporary).Nodup)
    (new : ∀ k, next.temporary = some k → task.temporary = some k ∨
      ∀ other ∈ before ++ after, other.temporary ≠ some k) :
    ((before ++ next :: after).filterMap Task.temporary).Nodup := by
  have rest : ((before ++ after).filterMap Task.temporary).Nodup := by
    have part : (before ++ after).Sublist (before ++ task :: after) :=
      (List.sublist_cons_self task after).append_left before
    exact apart.sublist (part.filterMap Task.temporary)
  cases held : next.temporary with
  | none => simpa [List.filterMap_append, held] using rest
  | some k =>
    rw [List.filterMap_append, List.filterMap_cons_some held, List.nodup_middle, List.nodup_cons,
      ← List.filterMap_append]
    refine ⟨?_, rest⟩
    intro inside
    obtain ⟨other, member, same⟩ := List.mem_filterMap.mp inside
    rcases new k held with old | fresh
    · exact temporary_ne_of_apart apart member same old
    · exact fresh other member same

end Tasks

section Steps

variable {engine : Engine} {fs : FileSystem} {root : Path} {base : Location} {state : State}
  (sound : Sound engine fs root base state)
  (plan : Plan fs (Walk.targets fs engine.excluded root))

include sound plan

theorem Sound.paths : (state.tasks.map (·.path)).Nodup ∧
    ∀ task ∈ state.tasks, task.path ∈ Walk.targets fs engine.excluded root := by
  have distinct := plan.distinct
  rw [← sound.sent] at distinct
  refine ⟨(List.nodup_append.mp distinct).1, ?_⟩
  intro task member
  rw [← sound.sent]
  exact List.mem_append_left _ (List.mem_map.mpr ⟨task, member, rfl⟩)

theorem Sound.locate_ne {before after : List Task} {task other : Task}
    (split : state.tasks = before ++ task :: after) (member : other ∈ before ++ after)
    {loc : Location} (leads : fs.locate true task.path = .ok loc) :
    fs.locate true other.path ≠ .ok loc := by
  intro same
  obtain ⟨distinct, inside⟩ := sound.paths plan
  rw [split] at distinct inside
  have equal := plan.apart task.path (inside task (mem_split.mpr (.inl rfl))) other.path
    (inside other (mem_split.mpr (.inr member))) loc leads same
  rw [List.map_append, List.map_cons, List.nodup_middle, List.nodup_cons, ← List.map_append]
    at distinct
  exact distinct.1 (List.mem_map.mpr ⟨other, member, equal.symm⟩)

theorem Sound.update {before after : List Task} {task : Task} {next : Progress} {g : FileSystem}
    {outcomes : List Outcome} {loc : Location} {content : Bytes} {mode : Nat}
    (split : state.tasks = before ++ task :: after) (aims : fs.Aims task.path loc content mode)
    (stood : Stands engine fs task.path loc content mode state.files task.progress)
    (moved : Moved fs state.files loc mode task.temporary next.temporary g)
    (stands : Stands engine fs task.path loc content mode g next)
    (collected : outcomes.Perm (((before ++ ⟨task.path, next⟩ :: after).filter
      (·.progress.isDelivered)).map fun task => engine.outcomeOf fs task.path)) :
    Sound engine fs root base
      { state with files := g, tasks := before ++ ⟨task.path, next⟩ :: after, outcomes } := by
  obtain ⟨bytes, there⟩ := stood.file
  have inTasks {other : Task} (member : other ∈ before ++ after) : other ∈ state.tasks := by
    rw [split]
    exact mem_split.mpr (.inr member)
  have notOld {k : Location} {entry : Entry} (present : fs.get? k = some entry) :
      task.temporary ≠ some k := by
    exact fun held => ne_of_get? present (stood.temporary held).2.1 rfl
  have notNew {k : Location} {entry : Entry} (present : fs.get? k = some entry) :
      next.temporary ≠ some k := by
    exact fun held => ne_of_get? present (stands.temporary held).2.1 rfl
  have oldApart : ((before ++ task :: after).filterMap Task.temporary).Nodup := split ▸ sound.apart
  have newApart : ((before ++ ⟨task.path, next⟩ :: after).filterMap Task.temporary).Nodup := by
    apply apart_of_new oldApart
    intro k held
    rcases moved.old_or_fresh held with old | fresh
    · exact .inl old
    · refine .inr fun other member same => ?_
      obtain ⟨_, _, _, _, holds⟩ := sound.stands other (inTasks member)
      obtain ⟨entry, found⟩ := (holds.temporary same).2.2
      rw [fresh] at found
      cases found
  constructor
  case grown => exact moved.isTree aims.there sound.grown there
  case grows => exact moved.grows aims.there sound.grows
  case order => exact moved.order aims.there there sound.order
  case extra =>
    intro k member
    rcases moved.mem_locations aims.there there member with new | ⟨old, gone⟩
    · exact .inr ⟨⟨task.path, next⟩, mem_split.mpr (.inl rfl), new⟩
    · rcases sound.extra k old with first | ⟨other, listed, held⟩
      · exact .inl first
      · rw [split] at listed
        rcases mem_split.mp listed with rfl | listed
        · exact absurd held gone
        · exact .inr ⟨other, mem_split.mpr (.inr listed), held⟩
  case apart => exact newApart
  case sent =>
    have sent := sound.sent
    rw [split] at sent
    simpa using sent
  case stands =>
    intro other member
    rcases mem_split.mp member with rfl | member
    · exact ⟨loc, content, mode, aims, stands⟩
    · obtain ⟨place, stuff, bits, leads, holds⟩ := sound.stands other (inTasks member)
      refine ⟨place, stuff, bits, leads, holds.frame ?_ ?_⟩
      · apply moved.frame aims.there _ (notOld leads.there) (notNew leads.there)
        rintro rfl
        exact sound.locate_ne plan split member aims.leads leads.leads
      · intro k held
        apply moved.frame aims.there
        · exact (ne_of_get? aims.there (holds.temporary held).2.1).symm
        · exact temporary_ne_of_apart oldApart member held
        · exact temporary_ne_of_apart newApart member held
  case others =>
    intro k entry away present
    have elsewhere : k ≠ loc := by
      rintro rfl
      exact away ⟨task.path, next⟩ (mem_split.mpr (.inl rfl)) aims.leads
    rw [moved.frame aims.there elsewhere (notOld present) (notNew present)]
    refine sound.others k entry ?_ present
    intro other listed
    rw [split] at listed
    rcases mem_split.mp listed with rfl | listed
    · exact away ⟨other.path, next⟩ (mem_split.mpr (.inl rfl))
    · exact away other (mem_split.mpr (.inr listed))
  case valid => exact sound.valid
  case collected => exact collected

omit sound plan in
theorem undelivered_of_advance {tag : Saving.Tag} {path : Path} {g g' : FileSystem}
    {progress next : Progress} (advanced : advance engine tag path g progress = some (next, g')) :
    progress.isDelivered = false ∧ next.isDelivered = false := by
  cases progress with
  | delivered => cases advanced
  | finished outcome => cases advanced
  | waiting =>
    simp only [advance] at advanced
    split at advanced
    · cases advanced
      exact ⟨rfl, rfl⟩
    · split at advanced
      · cases advanced
        exact ⟨rfl, rfl⟩
      · cases advanced
  | loaded bytes =>
    simp only [advance] at advanced
    split at advanced
    · cases advanced
      exact ⟨rfl, rfl⟩
    · cases advanced
      exact ⟨rfl, rfl⟩
    · cases advanced
  | saving target formatted stage =>
    simp only [advance] at advanced
    split at advanced
    · cases advanced
      exact ⟨rfl, rfl⟩
    · cases advanced
    · cases advanced
    · cases advanced
      exact ⟨rfl, rfl⟩

omit sound plan in
theorem work_cases {i : Nat} {tag : Saving.Tag} {next : State}
    (stepped : step engine root state (.work i tag) = some next) :
    ∃ task progress files, state.tasks[i]? = some task ∧
      advance engine tag task.path state.files task.progress = some (progress, files) ∧
      next = { state with files, tasks := state.tasks.set i ⟨task.path, progress⟩ } := by
  simp only [step] at stepped
  split at stepped
  · cases stepped
  · rename_i task found
    split at stepped
    · cases stepped
    · split at stepped
      · cases stepped
      · rename_i progress files advanced
        cases stepped
        exact ⟨task, progress, files, found, advanced, rfl⟩

theorem Sound.work (confined : engine.Confined) {i : Nat} {tag : Saving.Tag} {next : State}
    (stepped : step engine root state (.work i tag) = some next) :
    Sound engine fs root base next := by
  obtain ⟨task, progress, files, found, advanced, rfl⟩ := work_cases stepped
  obtain ⟨before, after, split, changed⟩ := split_of_getElem? found
  obtain ⟨loc, content, mode, aims, stood⟩ := sound.stands task (List.mem_of_getElem? found)
  obtain ⟨moved, stands⟩ := advance_stands sound.grown sound.grows aims confined stood advanced
  obtain ⟨notYet, still⟩ := undelivered_of_advance advanced
  rw [changed]
  apply sound.update plan split aims stood moved stands
  have collected := sound.collected
  rw [split] at collected
  simpa [notYet, still] using collected

theorem Sound.collect {i : Nat} {next : State}
    (stepped : step engine root state (.collect i) = some next) :
    Sound engine fs root base next := by
  simp only [step] at stepped
  split at stepped
  · rename_i path outcome _ found
    obtain ⟨before, after, split, changed⟩ := split_of_getElem? found
    obtain ⟨loc, content, mode, aims, stood⟩ := sound.stands _ (List.mem_of_getElem? found)
    rw [changed] at stepped
    cases stepped
    refine sound.update plan split aims stood (.kept none) stood.2 ?_
    have collected := sound.collected
    rw [split] at collected
    have this_one : outcome = engine.outcomeOf fs path :=
      stood.1.trans (Engine.outcomeOf_eq aims).symm
    simp only [List.filter_append, List.filter_cons, Progress.isDelivered, List.map_append,
      List.map_cons, if_true, this_one] at collected ⊢
    exact (collected.append_right [engine.outcomeOf fs path]).trans
      (List.perm_append_singleton _ _ |>.trans
      List.perm_middle.symm)
  · cases stepped

omit plan in
theorem Sound.reschedule {agenda : List Item}
    (same : agenda.flatMap (Item.paths engine fs root) =
      state.agenda.flatMap (Item.paths engine fs root))
    (valid : ∀ item ∈ agenda, item.Valid fs root base) :
    Sound engine fs root base { state with agenda } :=
  { sound with sent := same ▸ sound.sent, valid }

omit plan in
theorem Sound.valid_rest {item : Item} {rest : List Item} (agenda : state.agenda = item :: rest) :
    ∀ other ∈ rest, other.Valid fs root base :=
  fun other listed => sound.valid other (agenda ▸ List.mem_cons_of_mem _ listed)

theorem Sound.handOver {item : Item} {rest : List Item} {path : Path}
    (agenda : state.agenda = item :: rest) (paths : item.paths engine fs root = [path]) :
    Sound engine fs root base (handOver path rest state) := by
  have sent := sound.sent
  rw [agenda, List.flatMap_cons, paths] at sent
  have member : path ∈ Walk.targets fs engine.excluded root := by
    rw [← sent]
    simp
  obtain ⟨loc, content, mode, aims⟩ := plan.files path member
  have fresh : ∀ task ∈ state.tasks, fs.locate true task.path ≠ .ok loc := by
    intro task listed leads
    have same := plan.apart task.path ((sound.paths plan).2 task listed) path member loc leads
      aims.leads
    have distinct := plan.distinct
    rw [← sent] at distinct
    exact (List.nodup_append.mp distinct).2.2 task.path (List.mem_map.mpr ⟨task, listed, rfl⟩) path
      (by simp) same
  constructor
  case grown => exact sound.grown
  case grows => exact sound.grows
  case order => exact sound.order
  case extra =>
    intro k inside
    rcases sound.extra k inside with first | ⟨task, listed, held⟩
    · exact .inl first
    · exact .inr ⟨task, List.mem_append_left _ listed, held⟩
  case apart =>
    have nothing : [(⟨path, .waiting⟩ : Task)].filterMap Task.temporary = [] := rfl
    simpa [Workers.handOver, List.filterMap_append, nothing] using sound.apart
  case sent => simpa [Workers.handOver] using sent
  case stands =>
    intro task listed
    rcases List.mem_append.mp listed with listed | listed
    · exact sound.stands task listed
    · obtain rfl := List.mem_singleton.mp listed
      exact ⟨loc, content, mode, aims, sound.others loc _ fresh aims.there⟩
  case others =>
    intro k entry away
    exact sound.others k entry fun task listed => away task (List.mem_append_left _ listed)
  case valid => exact sound.valid_rest agenda
  case collected => simpa [Workers.handOver, Progress.isDelivered] using sound.collected

section Walking

variable (tree : fs.IsTree) (start : fs.locate true root = .ok base)

include tree start

/-- No temporary file is in a directory that is still to be listed. -/
theorem Sound.temporary_elsewhere {depth : Nat} {below : List String}
    (listed : Item.directory (depth + 1) below ∈ state.agenda) {task : Task}
    (sent : task ∈ state.tasks) {k : Location} (held : task.temporary = some k) :
    k.dropLast ≠ base ++ below := by
  intro here
  have there : fs.get? (base ++ below) = some .directory := sound.valid _ listed
  have directory : fs.get? base = some .directory := by
    by_cases top : below = []
    · simpa [top] using there
    · exact tree.above top there
  have targets := Walk.targets_of_directory engine.excluded
    (isDirectory_iff.mpr ⟨base, start, directory⟩)
  obtain ⟨loc, content, mode, aims, stands⟩ := sound.stands task sent
  obtain ⟨⟨tag, rfl⟩, _, _⟩ := stands.temporary held
  -- The target of the temporary file is in the directory, so the walk would find it again.
  obtain ⟨parts, path, found⟩ := (Walk.files_spec tree start directory).2 task.path
    (targets ▸ (sound.paths plan).2 task sent)
  obtain ⟨bytes, bits, regular⟩ := found.regular
  have place : loc = base ++ parts := by
    have leads := Walk.locate_pathTo tree start regular (by simp)
    rw [← path, aims.leads] at leads
    exact Except.ok.inj leads
  obtain ⟨front, last, rfl⟩ : ∃ front last, parts = front ++ [last] := by
    rcases List.eq_nil_or_concat' parts with rfl | split
    · rw [List.append_nil, directory] at regular
      cases regular
    · exact split
  have same : front = below := by
    simpa [Saving.beside, place, ← List.append_assoc] using here
  subst same
  have again : task.path ∈ state.agenda.flatMap (Item.paths engine fs root) :=
    List.mem_flatMap.mpr ⟨_, listed, path ▸ Walk.mem_paths_of_found tree start there found⟩
  have distinct := plan.distinct
  rw [← sound.sent] at distinct
  exact (List.nodup_append.mp distinct).2.2 task.path (List.mem_map.mpr ⟨task, sent, rfl⟩) task.path
    again rfl

/-- A directory that is still to be listed has the names that it had before the run. -/
theorem Sound.names {depth : Nat} {below : List String}
    (listed : Item.directory (depth + 1) below ∈ state.agenda) :
    state.files.names (base ++ below) = fs.names (base ++ below) := by
  rw [names_eq, names_eq, ← sound.order, List.filterMap_filter]
  apply List.filterMap_congr
  intro k member
  by_cases old : k ∈ fs.locations
  · simp [old]
  · obtain ⟨task, sent, held⟩ := (sound.extra k member).resolve_left old
    simp [old, sound.temporary_elsewhere plan tree start listed sent held]

theorem Sound.listing {depth : Nat} {below : List String}
    (listed : Item.directory (depth + 1) below ∈ state.agenda) :
    Walk.listing state.files engine.excluded root below =
      Walk.listing fs engine.excluded root below := by
  have there : fs.get? (base ++ below) = some .directory := sound.valid _ listed
  exact Walk.listing_grows tree sound.grown sound.grows engine.excluded start there
    (sound.names plan tree start listed)

theorem Sound.list {depth : Nat} {below : List String} {rest : List Item}
    (agenda : state.agenda = .directory (depth + 1) below :: rest) {files directories : List String}
    (lists : Walk.listing state.files engine.excluded root below = .ok (files, directories)) :
    Sound engine fs root base { state with
      agenda := (files.map (.look below) ++
        directories.map fun name => .subdirectory depth (below ++ [name])) ++ rest } := by
  have listed : Item.directory (depth + 1) below ∈ state.agenda := by simp [agenda]
  have there : fs.get? (base ++ below) = some .directory := sound.valid _ listed
  rw [sound.listing plan tree start listed] at lists
  obtain ⟨inFiles, inDirectories⟩ := Walk.mem_of_listing tree start there lists
  apply sound.reschedule
  · rw [agenda, List.flatMap_cons, Item.paths, Walk.paths_of_listing lists,
      List.filterMap_eq_flatMap_toList]
    simp only [List.flatMap_append, List.flatMap_map, Item.paths]
  · intro item member
    rcases List.mem_append.mp member with member | member
    · rcases List.mem_append.mp member with member | member
      · obtain ⟨name, among, rfl⟩ := List.mem_map.mp member
        exact inFiles name among
      · obtain ⟨name, among, rfl⟩ := List.mem_map.mp member
        exact ⟨below, name, rfl, inDirectories name among⟩
    · exact sound.valid_rest agenda item member

omit plan in
theorem Sound.enter {depth : Nat} {below : List String} {rest : List Item}
    (agenda : state.agenda = .subdirectory depth below :: rest) :
    Sound engine fs root base { state with
      agenda := (if state.files.isLink (Walk.pathTo root below) then []
        else [.directory depth below]) ++
        rest } := by
  obtain ⟨above, name, rfl, among, isDirectory⟩ :=
    sound.valid (.subdirectory depth below) (by simp [agenda])
  rw [Walk.isLink_grows tree sound.grown sound.grows start among]
  apply sound.reschedule
  · rw [agenda, List.flatMap_append, List.flatMap_cons]
    by_cases link : fs.isLink (Walk.pathTo root (above ++ [name])) = true
    · simp [link, Item.paths]
    · simp [link, Item.paths]
  · intro item member
    rcases List.mem_append.mp member with member | member
    · split at member
      · cases member
      · rename_i plain
        obtain rfl := List.mem_singleton.mp member
        exact Walk.directory_of_listed tree start among isDirectory (by simpa using plain)
    · exact sound.valid_rest agenda item member

theorem Sound.walk {next : State} (stepped : walk engine root state = some next) :
    Sound engine fs root base next := by
  simp only [Workers.walk] at stepped
  split at stepped
  · cases stepped
  · rename_i path rest agenda
    cases stepped
    exact sound.handOver plan agenda rfl
  · rename_i below rest agenda
    cases stepped
    apply sound.reschedule
    · rw [agenda]
      rfl
    · exact sound.valid_rest agenda
  · rename_i depth below rest agenda
    split at stepped
    · cases stepped
    · rename_i files directories lists
      cases stepped
      exact sound.list plan tree start agenda lists
  · rename_i depth below rest agenda
    cases stepped
    exact sound.enter tree start agenda
  · rename_i below name rest agenda
    have among : name ∈ fs.names (base ++ below) :=
      sound.valid (.look below name) (by simp [agenda])
    rw [Walk.inspect_grows tree sound.grown sound.grows engine.excluded start among] at stepped
    cases finding : Walk.inspect fs engine.excluded root below name with
    | file path =>
      rw [finding] at stepped
      cases stepped
      exact sound.handOver plan agenda (by simp [Item.paths, finding, Finding.path?])
    | note event =>
      rw [finding] at stepped
      cases stepped
      apply sound.reschedule
      · rw [agenda]
        simp [Item.paths, finding, Finding.path?]
      · exact sound.valid_rest agenda

theorem Sound.step (confined : engine.Confined) {turn : Turn} {next : State}
    (stepped : step engine root state turn = some next) : Sound engine fs root base next := by
  cases turn with
  | walk => exact sound.walk plan tree start stepped
  | work i tag => exact sound.work plan confined stepped
  | collect i => exact sound.collect plan stepped

omit plan tree start in
/-- Without temporary files the entries are those from before the run. -/
theorem Sound.alike (idle : ∀ task ∈ state.tasks, task.temporary = none) :
    fs.Alike state.files := by
  have old : ∀ k ∈ state.files.locations, k ∈ fs.locations := by
    intro k member
    rcases sound.extra k member with first | ⟨task, listed, held⟩
    · exact first
    · rw [idle task listed] at held
      cases held
  have locations : state.files.locations = fs.locations := by
    rw [← sound.order]
    exact (List.filter_eq_self.mpr fun k member => by simpa using old k member).symm
  refine ⟨sound.grows.current, locations, ?_⟩
  intro k
  cases before : fs.get? k with
  | none =>
    have inner : k ≠ [] := by
      rintro rfl
      simp at before
    have missing : state.files.get? k = none := by
      rw [get?_eq_none_iff inner, locations]
      exact (get?_eq_none_iff inner).mp before
    rw [missing]
  | some entry =>
    obtain ⟨now, still, same⟩ := sound.grows.kept before
    rw [still]
    exact congrArg some same

omit sound plan tree start in
theorem isComplete_iff : state.isComplete = true ↔
    state.agenda = [] ∧ ∀ task ∈ state.tasks, task.progress = .delivered := by
  simp only [State.isComplete, Bool.and_eq_true, List.isEmpty_iff, List.all_eq_true]
  refine and_congr_right fun _ => forall₂_congr fun task _ => ?_
  cases task.progress with
  | waiting | loaded | saving | finished | delivered => simp

omit plan tree start in
theorem Sound.settled (complete : state.isComplete = true) :
    Settled engine fs state.files (Walk.targets fs engine.excluded root) ∧
      state.outcomes.Perm ((Walk.targets fs engine.excluded root).map (engine.outcomeOf fs)) := by
  obtain ⟨done, all⟩ := isComplete_iff.mp complete
  have sent : state.tasks.map (·.path) = Walk.targets fs engine.excluded root := by
    simpa [done] using sound.sent
  have alike : fs.Alike state.files := by
    apply sound.alike
    intro task listed
    rw [Task.temporary, all task listed]
    rfl
  refine ⟨⟨alike, ?_, ?_⟩, ?_⟩
  · intro path member loc content mode aims
    rw [← sent] at member
    obtain ⟨task, listed, rfl⟩ := List.mem_map.mp member
    obtain ⟨place, bytes, bits, leads, stands⟩ := sound.stands task listed
    rw [all task listed] at stands
    cases aims.leads.symm.trans leads.leads
    cases aims.there.symm.trans leads.there
    exact stands
  · intro k away
    rcases alike.file_or_same k with ⟨old, _, mode, before, _⟩ | same
    · rw [before]
      refine sound.others k _ ?_ before
      intro task listed
      exact away task.path (sent ▸ List.mem_map.mpr ⟨task, listed, rfl⟩)
    · exact same
  · have everything : state.tasks.filter (·.progress.isDelivered) = state.tasks :=
      List.filter_eq_self.mpr fun task member => by simp [all task member, Progress.isDelivered]
    have collected := sound.collected
    rw [everything] at collected
    rw [← sent, List.map_map]
    exact collected

end Walking

end Steps

section Runs

variable {engine : Engine} (confined : engine.Confined) {fs : FileSystem} (tree : fs.IsTree)
  {root : Path}

include tree

theorem sound_start {base : Location} (leads : fs.locate true root = .ok base)
    (rooted : fs.isFile root = true ∨ fs.isDirectory root = true) :
    Sound engine fs root base (start fs root) := by
  constructor
  case grown => exact tree
  case grows => exact .refl fs
  case order => exact List.filter_eq_self.mpr fun k member => decide_eq_true member
  case extra => exact fun k member => .inl member
  case apart => exact List.nodup_nil
  case sent =>
    by_cases file : fs.isFile root = true
    · simp [start, file, Walk.targets, Item.paths]
    · simp [start, file, Walk.targets, Item.paths, Walk.files, Walk.findings]
  case stands => exact fun task member => absurd member (by simp [start])
  case others => exact fun k entry _ found => found
  case valid =>
    intro item member
    by_cases file : fs.isFile root = true
    · simp only [start, file, if_true] at member
      obtain rfl := List.mem_singleton.mp member
      exact trivial
    · simp only [start, file] at member
      obtain rfl := List.mem_singleton.mp member
      obtain ⟨loc, found, there⟩ := isDirectory_iff.mp (rooted.resolve_left file)
      cases leads.symm.trans found
      simpa [Item.Valid] using there
  case collected => exact .nil

include confined in
theorem sound_run {base : Location} (leads : fs.locate true root = .ok base)
    (plan : Plan fs (Walk.targets fs engine.excluded root)) (schedule : List Turn)
    {state final : State} (sound : Sound engine fs root base state)
    (ran : run engine root schedule state = some final) :
    Sound engine fs root base final := by
  induction schedule generalizing state with
  | nil =>
    cases ran
    exact sound
  | cons turn schedule ih =>
    simp only [run] at ran
    split at ran
    · cases ran
    · rename_i next stepped
      exact ih (sound.step plan tree leads confined stepped) ran

end Runs

end SourceTidy.Workers
