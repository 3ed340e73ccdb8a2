import SourceTidy.Proofs.BreakStyle
import SourceTidy.Proofs.SequentialRun

namespace SourceTidy

open FileSystem

/-- What a second run says of a file, by what the first one said. -/
def Outcome.again (outcome : Outcome) : Outcome :=
  if outcome.status = .changed then { outcome with status := .unchanged } else outcome

namespace Outcome

@[simp] theorem path_again (outcome : Outcome) : outcome.again.path = outcome.path := by
  unfold again
  split <;> rfl

theorem again_of_changed {outcome : Outcome} (changed : outcome.status = .changed) :
    outcome.again.status = .unchanged := by
  simp [again, changed]

theorem again_of_ne {outcome : Outcome} (kept : outcome.status ≠ .changed) :
    outcome.again = outcome :=
  if_neg kept

theorem status_again_ne (outcome : Outcome) : outcome.again.status ≠ .changed := by
  by_cases changed : outcome.status = .changed
  · simp [again_of_changed changed]
  · rwa [again_of_ne changed]

theorem again_unchanged_iff (outcome : Outcome) :
    outcome.again.status = .unchanged ↔ outcome.status = .changed ∨
    outcome.status = .unchanged := by
  by_cases changed : outcome.status = .changed
  · simp [again_of_changed changed, changed]
  · simp [again_of_ne changed, changed]

def isIdle (outcome : Outcome) : Bool :=
  outcome.status = .skipped || outcome.status = .failed

theorem filter_isIdle_again (outcomes : List Outcome) :
    (outcomes.map again).filter isIdle = outcomes.filter isIdle := by
  induction outcomes with
  | nil => rfl
  | cons outcome rest ih =>
    by_cases changed : outcome.status = .changed
    · have before : outcome.isIdle = false := by simp [isIdle, changed]
      have after : outcome.again.isIdle = false := by simp [isIdle, again_of_changed changed]
      simp [before, after, ih]
    · rw [List.map_cons, again_of_ne changed, List.filter_cons, List.filter_cons, ih]

end Outcome

theorem FileSystem.Alike.rooted {fs g : FileSystem} (alike : fs.Alike g) {root : Path}
    (rooted : fs.isFile root = true ∨ fs.isDirectory root = true) :
    g.isFile root = true ∨ g.isDirectory root = true := by
  rcases rooted with file | directory
  · exact .inl ((alike.isFile root).trans file)
  · exact .inr ((alike.growsTo.isDirectory root).trans directory)

theorem Walk.targets_alike {fs g : FileSystem} (alike : fs.Alike g) (excluded : Excluded)
    (root : Path) :
    targets g excluded root = targets fs excluded root := by
  unfold targets
  rw [alike.isFile, files_alike alike]

namespace Engine

/-- The pipeline gives its own results again, for all formatters that are for one path. -/
def Stable (engine : Engine) : Prop :=
  ∀ path content formatted, (engine.applicable path).isEmpty = false →
    engine.pipe path content = .ok formatted → engine.pipe path formatted = .ok formatted

theorem verdict_again {engine : Engine} (stable : engine.Stable) (path : Path) (content : Bytes) :
    engine.verdict path (engine.verdict path content).2 =
      ((engine.verdict path content).1.again, (engine.verdict path content).2) := by
  cases none_apply : (engine.applicable path).isEmpty with
  | true =>
    have verdict (bytes : Bytes) : engine.verdict path bytes = _ := verdict_of_none none_apply
    rw [verdict, verdict]
    rfl
  | false =>
    cases piped : engine.pipe path content with
    | ok formatted =>
      rw [verdict_of_ok none_apply piped,
        verdict_of_ok none_apply (stable path content formatted none_apply piped), if_pos rfl]
      by_cases same : formatted = content
      · rw [if_pos same]
        rfl
      · rw [if_neg same]
        rfl
    | error fault =>
      have kept : (engine.verdict path content).2 = content ∧
          (engine.verdict path content).1.status ≠ .changed := by
        unfold verdict
        simp only [none_apply, piped, Bool.false_eq_true, if_false]
        split <;> simp_all [failure]
      rw [kept.1, Outcome.again_of_ne kept.2]
      exact Prod.ext rfl kept.1

section Again

variable {engine : Engine} (stable : engine.Stable) {fs g : FileSystem} {paths : List Path}
  (plan : Plan fs paths) (settled : Settled engine fs g paths)

include plan settled in
theorem aims_again {path : Path} (member : path ∈ paths) : ∃ loc content mode,
    fs.Aims path loc content mode ∧ g.Aims path loc (engine.verdict path content).2 mode := by
  obtain ⟨loc, content, mode, aims⟩ := plan.files path member
  exact ⟨loc, content, mode, aims, settled.alike.growsTo.locate aims.leads,
    settled.settled path member aims⟩

include stable plan settled

theorem outcomeOf_again {path : Path} (member : path ∈ paths) :
    engine.outcomeOf g path = (engine.outcomeOf fs path).again := by
  obtain ⟨loc, content, mode, before, after⟩ := aims_again plan settled member
  rw [outcomeOf_eq before, outcomeOf_eq after, verdict_again stable]

/-- A file that was formatted is formatted again, and any other file is as it was. -/
theorem manages_again {path : Path} (member : path ∈ paths) (managed : engine.Manages fs path) :
    engine.Manages g path := by
  obtain ⟨loc, content, mode, before, after⟩ := aims_again plan settled member
  intro place bytes bits fault aims applies failed
  cases after.leads.symm.trans aims.leads
  cases after.there.symm.trans aims.there
  cases piped : engine.pipe path content with
  | ok formatted =>
    rw [verdict_of_ok applies piped, stable path content formatted applies piped] at failed
    cases failed
  | error first =>
    obtain ⟨cause, place, rfl⟩ := managed loc content mode first before applies piped
    rw [verdict_of_error applies piped, failure, piped] at failed
    exact ⟨cause, place, (Except.error.inj failed).symm⟩

theorem canSave_again : engine.CanSave g paths := by
  intro path member place bytes bits aims changes
  obtain ⟨loc, content, mode, _, after⟩ := aims_again plan settled member
  cases after.leads.symm.trans aims.leads
  cases after.there.symm.trans aims.there
  exact absurd (by rw [verdict_again stable]) changes

theorem settled_again : Settled engine g g paths := by
  refine ⟨.refl g, ?_, fun _ _ => rfl⟩
  intro path member place bytes bits aims
  obtain ⟨loc, content, mode, _, after⟩ := aims_again plan settled member
  cases after.leads.symm.trans aims.leads
  cases after.there.symm.trans aims.there
  rw [verdict_again stable]
  exact after.there

end Again

theorem visit_ok_iff {engine : Engine} {root : Path} {world after : World} {summary : Summary} :
    engine.visit root world = (.ok summary, after) ↔
      ∃ outcomes, engine.visitRoot root world = (.ok outcomes, after) ∧
        summary = ⟨if 1 < engine.jobs then sortOutcomes outcomes else outcomes⟩ := by
  unfold visit
  constructor
  · intro returned
    split at returned
    · cases returned
    · rename_i outcomes between visited
      cases returned
      exact ⟨outcomes, visited, rfl⟩
  · rintro ⟨outcomes, visited, rfl⟩
    rw [visited]

theorem rooted_of_visitRoot {engine : Engine} {root : Path} {world after : World}
    {outcomes : List Outcome} (visited : engine.visitRoot root world = (.ok outcomes, after)) :
    world.files.isFile root = true ∨ world.files.isDirectory root = true := by
  unfold visitRoot at visited
  split at visited
  · rename_i probed
    exact .inl (by rw [isFile, probe_some_iff.mp probed])
  · rename_i probed
    exact .inr (by rw [isDirectory, probe_some_iff.mp probed])
  · cases visited
  · cases visited

/-- The order of the outcomes is one of their paths. -/
theorem sorted_again (jobs : Nat) (outcomes : List Outcome) :
    (if 1 < jobs then sortOutcomes (outcomes.map Outcome.again) else outcomes.map Outcome.again) =
      (if 1 < jobs then sortOutcomes outcomes else outcomes).map Outcome.again := by
  split
  · symm
    apply List.map_mergeSort
    intro a _ b _
    simp
  · rfl

/-- The second of two runs, by what the first one found and said. -/
structure Repeats (engine : Engine) (root : Path) (before after final : FileSystem)
    (first second : Summary) : Prop where
  discovered : Walk.targets after engine.excluded root = Walk.targets before engine.excluded root
  paths : second.outcomes.map (·.path) = first.outcomes.map (·.path)
  files : final = after
  settled : ∀ outcome ∈ second.outcomes, outcome.status ≠ .changed
  unchanged : ∀ path, (∃ outcome ∈ second.outcomes, outcome.path = path ∧
    outcome.status = .unchanged) ↔
    ∃ outcome ∈ first.outcomes, outcome.path = path ∧
      (outcome.status = .changed ∨ outcome.status = .unchanged)
  idle : second.outcomes.filter Outcome.isIdle = first.outcomes.filter Outcome.isIdle

theorem Repeats.of_again {engine : Engine} {root : Path} {before after : FileSystem}
    {first : Summary} (discovered : Walk.targets after engine.excluded root =
      Walk.targets before engine.excluded root) :
    Repeats engine root before after after first ⟨first.outcomes.map Outcome.again⟩ := by
  constructor
  case discovered => exact discovered
  case paths => simp
  case files => rfl
  case settled =>
    intro outcome member
    obtain ⟨earlier, _, rfl⟩ := List.mem_map.mp member
    exact earlier.status_again_ne
  case unchanged => simp [Outcome.again_unchanged_iff]
  case idle => exact Outcome.filter_isIdle_again first.outcomes

/-- A second run changes nothing. -/
theorem visit_twice (engine : Engine) (world after : World) (root : Path) (first : Summary)
    (stable : engine.Stable) (saves : ∀ path, engine.withheld path = none)
    (tree : world.files.IsTree)
    (room : engine.CanSave world.files (Walk.targets world.files engine.excluded root))
    (returned : engine.visit root world = (.ok first, after)) :
    ∃ second final, engine.visit root after = (.ok second, final) ∧
      Repeats engine root world.files after.files final.files first second := by
  obtain ⟨outcomes, visited, rfl⟩ := visit_ok_iff.mp returned
  have rooted := rooted_of_visitRoot visited
  have plan := plan_targets tree engine.excluded rooted
  have managed := (visitRoot_managed saves tree rooted room).1 outcomes after visited
  obtain ⟨_, again, settled⟩ := (visitRoot_managed saves tree rooted room).2 managed
  cases visited.symm.trans again
  -- The walk sees the same files, so the second run has the same plan.
  have discovered := Walk.targets_alike settled.alike engine.excluded root
  have tree_after := settled.alike.isTree tree
  have rooted_after := settled.alike.rooted rooted
  have plan_after := plan_targets tree_after engine.excluded rooted_after
  have room_after := discovered.symm ▸ canSave_again stable plan settled
  obtain ⟨final, visited_after, settled_after⟩ := (visitRoot_managed saves tree_after rooted_after
    room_after).2 (by
      rw [discovered]
      exact fun path member => manages_again stable plan settled member (managed path member))
  rw [discovered] at visited_after settled_after plan_after
  have files := settled_after.unique tree_after plan_after (settled_again stable plan settled)
  have outcomes : (Walk.targets world.files engine.excluded root).map
    (engine.outcomeOf after.files) =
      ((Walk.targets world.files engine.excluded root).map (engine.outcomeOf world.files)).map
        Outcome.again := by
    rw [List.map_map]
    apply List.map_congr_left
    exact fun path member => outcomeOf_again stable plan settled member
  rw [outcomes] at visited_after
  refine ⟨_, final, visit_ok_iff.mpr ⟨_, visited_after, rfl⟩, ?_⟩
  rw [sorted_again, files]
  exact .of_again discovered

/-- Leaves texts as they are, in all files but those with the name `C`. -/
def plain : Formatter where
  name := "plain"
  description := "leaves texts as they are"
  appliesTo path := path.name != "C"
  format _ t := .ok t

def heading : Engine where
  config := { header := some "// h".toList }
  conversion := .ofCodec "utf-8".toList Utf8.codec
  formatters := [plain]
  excluded := leaving.excluded

theorem pipe_heading {path : Path} (applies : (heading.applicable path).isEmpty = false)
    (content : Bytes) :
    heading.pipe path content =
      ((Utf8.decode content).mapError fun d => .file (.undecodable "utf-8".toList d) none).map
        fun t => Utf8.encode (Pipeline.finish heading.config t) := by
  have only : heading.applicable path = [plain] := by
    have filtered : heading.applicable path = if plain.appliesTo path then [plain] else [] :=
      List.filter_cons
    rw [filtered] at applies ⊢
    split at applies
    · exact if_pos ‹_›
    · cases applies
  have decoding : heading.conversion.decode content = _ := Utf8.ofCodec_decode _ content
  have encoding (t : Text) : heading.conversion.encode t = .ok (Utf8.encode t) := rfl
  have formatting (t : Text) : Pipeline.formatAll heading.config [plain] t = (.ok t, [t]) := rfl
  cases decoded : Utf8.decode content with
  | error defect => simp only [pipe, Pipeline.apply, decoding, decoded, Except.mapError, Except.map]
  | ok t =>
    simp only [pipe, only, Pipeline.apply, decoding, decoded, formatting, encoding, Except.mapError,
      Except.map]

theorem heading_stable : heading.Stable := by
  intro path content formatted applies piped
  have unmarked (header : Text) (there : heading.config.header = some header) :
      (Header.normalize header).head? ≠ some Header.mark := by
    cases there
    decide
  rw [pipe_heading applies] at piped ⊢
  cases decoded : Utf8.decode content with
  | error defect =>
    rw [decoded] at piped
    cases piped
  | ok t =>
    rw [decoded] at piped
    cases piped
    rw [Utf8.decode_encode]
    simp only [Except.mapError, Except.map, Pipeline.finish_finish unmarked]

theorem heading_manages (fs : FileSystem) (path : Path) : heading.Manages fs path := by
  intro loc content mode fault _ applies failed
  rw [pipe_heading applies] at failed
  cases decoded : Utf8.decode content with
  | error defect =>
    rw [decoded] at failed
    cases failed
    exact ⟨_, _, rfl⟩
  | ok t =>
    rw [decoded] at failed
    cases failed

theorem heading_statuses :
    [⟨.current, ["d", "A"]⟩, ⟨.current, ["d", "B"]⟩, ⟨.current, ["d", "C"]⟩].map
      (fun path => (heading.outcomeOf mixed.files path).status) =
        [.changed, .failed, .skipped] := by
  have changed : (heading.outcomeOf mixed.files ⟨.current, ["d", "A"]⟩).status = .changed := by
    have applies : (heading.applicable ⟨.current, ["d", "A"]⟩).isEmpty = false := by decide
    have read : mixed.files.read ⟨.current, ["d", "A"]⟩ = .ok [97] := by cbv
    rw [outcomeOf_of_read read, verdict_of_ok applies (pipe_heading applies [97])]
    decide
  have failed : (heading.outcomeOf mixed.files ⟨.current, ["d", "B"]⟩).status = .failed := by
    have applies : (heading.applicable ⟨.current, ["d", "B"]⟩).isEmpty = false := by decide
    have read : mixed.files.read ⟨.current, ["d", "B"]⟩ = .ok [255] := by cbv
    rw [outcomeOf_of_read read, verdict_of_error applies (pipe_heading applies [255])]
    rfl
  have skipped : (heading.outcomeOf mixed.files ⟨.current, ["d", "C"]⟩).status = .skipped := by
    have none_apply : (heading.applicable ⟨.current, ["d", "C"]⟩).isEmpty = true := by decide
    have read : mixed.files.read ⟨.current, ["d", "C"]⟩ = .ok [] := by cbv
    rw [outcomeOf_of_read read, verdict_of_none none_apply]
  simp [changed, failed, skipped]

theorem visit_twice_mixed : ∃ first after second final,
    heading.visit ⟨.current, ["d"]⟩ mixed = (.ok first, after) ∧
      first.outcomes.map (·.status) = [.changed, .failed, .skipped] ∧
      heading.visit ⟨.current, ["d"]⟩ after = (.ok second, final) ∧
      Repeats heading ⟨.current, ["d"]⟩ mixed.files after.files final.files first second := by
  have directory : mixed.files.isDirectory ⟨.current, ["d"]⟩ = true := by cbv
  have targets : Walk.targets mixed.files heading.excluded ⟨.current, ["d"]⟩ = _ :=
    (Walk.targets_of_directory heading.excluded directory).trans files_mixed
  have room : heading.CanSave mixed.files
      (Walk.targets mixed.files heading.excluded ⟨.current, ["d"]⟩) :=
    Walk.targets_of_directory heading.excluded directory ▸ mixed_room
  obtain ⟨after, visited, _⟩ :=
    (visitRoot_managed (fun _ => rfl) mixed_tree (.inr directory) room).2
    fun path _ => heading_manages mixed.files path
  have first := visit_ok_iff.mpr ⟨_, visited, rfl⟩
  obtain ⟨second, final, again, repeats⟩ := visit_twice heading mixed after ⟨.current, ["d"]⟩ _
    heading_stable (fun _ => rfl) mixed_tree room first
  refine ⟨_, after, second, final, first, ?_, again, repeats⟩
  rw [targets]
  exact (List.map_map ..).trans heading_statuses

end Engine

end SourceTidy
