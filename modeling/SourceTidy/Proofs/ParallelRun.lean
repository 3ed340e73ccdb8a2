import SourceTidy.Proofs.Completion
import SourceTidy.Proofs.SequentialRun

namespace SourceTidy

open FileSystem

/- The order of outcomes. -/

theorem Walk.toString_injOn_targets {fs : FileSystem} (tree : fs.IsTree) {excluded : Excluded}
    {root : Path} (rooted : fs.isFile root = true ∨ fs.isDirectory root = true) {path other : Path}
    (member : path ∈ targets fs excluded root) (second : other ∈ targets fs excluded root)
    (same : path.toString = other.toString) : path = other := by
  unfold targets at member second
  by_cases file : fs.isFile root = true
  · rw [if_pos file] at member second
    rw [List.mem_singleton.mp member, List.mem_singleton.mp second]
  · rw [if_neg file] at member second
    obtain ⟨base, start, there⟩ := isDirectory_iff.mp (rooted.resolve_left file)
    have named {p : Path} (found : p ∈ files fs excluded root) :
        ∃ parts, p = pathTo root parts ∧ parts ≠ [] ∧ ∀ name ∈ parts, '/' ∉ name.toList := by
      obtain ⟨parts, rfl, ⟨content, mode, regular⟩, _⟩ := (files_spec tree start there).2 p found
      refine ⟨parts, rfl, ?_, ?_⟩
      · rintro rfl
        rw [List.append_nil, there] at regular
        cases regular
      · intro name inside
        exact (tree.proper_of_get? regular name (List.mem_append_right _ inside)).single
    obtain ⟨parts, rfl, below, free⟩ := named member
    obtain ⟨more, rfl, further, clear⟩ := named second
    rw [toString_pathTo_inj below further free clear same]

theorem Engine.sortOutcomes_perm (outcomes : List Outcome) :
    (sortOutcomes outcomes).Perm outcomes :=
  List.mergeSort_perm _ _

theorem Engine.sortOutcomes_sorted (outcomes : List Outcome) :
    (sortOutcomes outcomes).Pairwise fun a b => a.path.toString ≤ b.path.toString := by
  have sorted : (sortOutcomes outcomes).Pairwise fun a b =>
      decide (a.path.toString ≤ b.path.toString) = true := by
    apply List.pairwise_mergeSort
    · intro a b c first second
      simp only [decide_eq_true_eq] at first second ⊢
      exact String.le_trans first second
    · intro a b
      simp only [Bool.or_eq_true, decide_eq_true_eq]
      exact String.le_total _ _
  simpa only [decide_eq_true_eq] using sorted

theorem Engine.sortOutcomes_eq_of_perm {outcomes others : List Outcome}
    (perm : outcomes.Perm others)
    (named : ∀ a ∈ others, ∀ b ∈ others, a.path.toString = b.path.toString → a = b) :
    sortOutcomes outcomes = sortOutcomes others := by
  have same : (sortOutcomes outcomes).Perm (sortOutcomes others) :=
    (sortOutcomes_perm outcomes).trans (perm.trans (sortOutcomes_perm others).symm)
  apply List.Perm.eq_of_pairwise _ (sortOutcomes_sorted outcomes) (sortOutcomes_sorted others) same
  intro a b first second below above
  have among : a ∈ others := perm.mem_iff.mp ((sortOutcomes_perm outcomes).mem_iff.mp first)
  have between : b ∈ others := (sortOutcomes_perm others).mem_iff.mp second
  exact named a among b between (String.le_antisymm below above)

namespace Workers

/-- Each interleaving of a run over `fs` ends, can be continued until all is done, and then comes to
these files and outcomes, which are returned in their order. -/
structure Agreement (engine : Engine) (root : Path) (fs after : FileSystem)
    (outcomes sorted : List Outcome) : Prop where
  ends : ∃ bound, ∀ schedule state, run engine root schedule (start fs root) = some state →
    schedule.length ≤ bound
  goesOn : ∀ schedule state, run engine root schedule (start fs root) = some state →
    state.isComplete = false → state.CanCreate →
      ∃ turn next, step engine root state turn = some next
  files : ∀ schedule state, run engine root schedule (start fs root) = some state →
    state.isComplete = true → state.files = after
  collected : ∀ schedule state, run engine root schedule (start fs root) = some state →
    state.isComplete = true → state.outcomes.Perm outcomes ∧
      Engine.sortOutcomes state.outcomes = sorted
  ordered : sorted.Pairwise fun a b => a.path.toString ≤ b.path.toString
  complete : sorted.Perm outcomes

theorem run_agrees (engine : Engine) (world : World) (root : Path) (parallel : 1 < engine.jobs)
    (confined : engine.Confined) (tree : world.files.IsTree)
    (rooted : world.files.isFile root = true ∨ world.files.isDirectory root = true)
    (room : engine.CanSave world.files (Walk.targets world.files engine.excluded root)) :
    ∃ outcomes after, { engine with jobs := 1 }.visit root world = (.ok ⟨outcomes⟩, after) ∧
      ∃ sorted also, engine.visit root world = (.ok ⟨sorted⟩, also) ∧ also.files = after.files ∧
        Agreement engine root world.files after.files outcomes sorted := by
  obtain ⟨base, leads⟩ : ∃ base, world.files.locate true root = .ok base := by
    rcases rooted with file | directory
    · obtain ⟨loc, _, _, found, _⟩ := isFile_iff.mp file
      exact ⟨loc, found⟩
    · obtain ⟨loc, found, _⟩ := isDirectory_iff.mp directory
      exact ⟨loc, found⟩
  have plan := plan_targets tree engine.excluded rooted
  have first : Sound engine world.files root base (start world.files root) :=
    sound_start tree leads rooted
  have sound {schedule : List Turn} {state : State}
      (ran : run engine root schedule (start world.files root) = some state) :
      Sound engine world.files root base state :=
        sound_run confined tree leads plan schedule first ran
  -- The number of jobs plays no part in what becomes of a file.
  obtain ⟨after, visited, inTurn⟩ := Engine.visitRoot_settled (confined.withJobs 1) tree rooted room
  obtain ⟨also, visitedToo, alsoInTurn⟩ := Engine.visitRoot_settled confined tree rooted room
  have settled : Settled engine world.files after.files
      (Walk.targets world.files engine.excluded root) :=
        ⟨inTurn.alike, inTurn.settled, inTurn.others⟩
  have returned : engine.visit root world = (.ok ⟨Engine.sortOutcomes
      ((Walk.targets world.files engine.excluded root).map (engine.outcomeOf world.files))⟩,
      also) := by
    simp only [Engine.visit, visitedToo, parallel, if_true]
  refine ⟨(Walk.targets world.files engine.excluded root).map (engine.outcomeOf world.files),
    after, ?_, _, also, returned, alsoInTurn.unique tree plan settled, ?_⟩
  · simp only [Engine.visit, visited]
    rfl
  · constructor
    case ends => exact ⟨_, fun schedule state ran => first.length_le plan tree leads confined ran⟩
    case goesOn =>
      intro schedule state ran unfinished creatable
      have workers : 0 < engine.jobs := by omega
      exact (sound ran).goes_on plan tree leads confined workers creatable unfinished
    case files =>
      intro schedule state ran complete
      exact ((sound ran).settled complete).1.unique tree plan settled
    case collected =>
      intro schedule state ran complete
      have collected := ((sound ran).settled complete).2
      refine ⟨collected, Engine.sortOutcomes_eq_of_perm collected ?_⟩
      intro a one b other same
      obtain ⟨path, member, rfl⟩ := List.mem_map.mp one
      obtain ⟨second, among, rfl⟩ := List.mem_map.mp other
      simp only [Engine.outcomeOf, Engine.path_verdict] at same
      rw [Walk.toString_injOn_targets tree rooted member among same]
    case ordered => exact Engine.sortOutcomes_sorted _
    case complete => exact Engine.sortOutcomes_perm _

/-- Two workers, who take turns with the walk. The third file is done while the first is being
written. -/
def interleaved : List Turn :=
  let tag := .ofNat 7
  [.walk, .walk, .work 0 tag, .walk, .work 0 tag, .work 0 tag, .work 0 tag, .work 0 tag,
    .work 1 tag, .walk, .work 0 tag, .walk, .work 0 tag, .work 1 tag, .work 2 tag, .collect 2,
    .work 0 tag, .collect 0, .collect 1]

def paired : Engine := { Engine.leaving with jobs := 2 }

/-- The last outcome is collected first. -/
theorem run_interleaved :
    (run paired ⟨.current, ["d"]⟩ interleaved (start Engine.mixed.files ⟨.current, ["d"]⟩)).map
      (fun state => (state.isComplete, state.outcomes)) =
        some (true, Engine.mixedOutcomes.drop 2 ++ Engine.mixedOutcomes.take 2) := by cbv

theorem sortOutcomes_mixed :
    Engine.sortOutcomes (Engine.mixedOutcomes.drop 2 ++ Engine.mixedOutcomes.take 2) =
    Engine.mixedOutcomes := by
  have perm : (Engine.mixedOutcomes.drop 2 ++ Engine.mixedOutcomes.take 2).Perm
      Engine.mixedOutcomes :=
    List.perm_append_comm
  rw [Engine.sortOutcomes_eq_of_perm perm (by decide +kernel)]
  exact List.mergeSort_of_pairwise (by decide +kernel)

theorem mixed_targets : Walk.targets Engine.mixed.files paired.excluded ⟨.current, ["d"]⟩ =
    Walk.files Engine.mixed.files Engine.leaving.excluded ⟨.current, ["d"]⟩ := by
  have directory : Engine.mixed.files.isDirectory ⟨.current, ["d"]⟩ = true := by cbv
  exact Walk.targets_of_directory _ directory

theorem run_agrees_interleaved :
    1 < paired.jobs ∧ paired.Confined ∧ Engine.mixed.files.IsTree ∧
      Engine.mixed.files.isDirectory ⟨.current, ["d"]⟩ = true ∧
      paired.CanSave Engine.mixed.files
        (Walk.targets Engine.mixed.files paired.excluded ⟨.current, ["d"]⟩) ∧
      ∃ outcomes after,
        { paired with jobs := 1 }.visit ⟨.current, ["d"]⟩ Engine.mixed = (.ok ⟨outcomes⟩, after) ∧
        Agreement paired ⟨.current, ["d"]⟩ Engine.mixed.files after.files outcomes
          Engine.mixedOutcomes ∧
        ∃ final, run paired ⟨.current, ["d"]⟩ interleaved
          (start Engine.mixed.files ⟨.current, ["d"]⟩) =
            some final ∧
          final.isComplete = true ∧ final.files = after.files ∧ final.outcomes.Perm outcomes := by
  have parallel : 1 < paired.jobs := by decide
  have confined : paired.Confined := Engine.leaving_confined.withJobs 2
  have directory : Engine.mixed.files.isDirectory ⟨.current, ["d"]⟩ = true := by cbv
  have room : paired.CanSave Engine.mixed.files
      (Walk.targets Engine.mixed.files paired.excluded ⟨.current, ["d"]⟩) := by
    rw [mixed_targets]
    exact Engine.mixed_room
  obtain ⟨final, ran, found⟩ := Option.map_eq_some_iff.mp run_interleaved
  obtain ⟨complete, returned⟩ := Prod.mk.injEq .. ▸ found
  obtain ⟨outcomes, after, visited, sorted, _, _, _, agreement⟩ := run_agrees paired Engine.mixed
    ⟨.current, ["d"]⟩ parallel confined Engine.mixed_tree (.inr directory) room
  obtain ⟨collected, same⟩ := agreement.collected _ _ ran complete
  obtain rfl : sorted = Engine.mixedOutcomes := by rw [← same, returned, sortOutcomes_mixed]
  exact ⟨parallel, confined, Engine.mixed_tree, directory, room, outcomes, after, visited,
    agreement, final, ran, complete, agreement.files _ _ ran complete, collected⟩

end Workers

end SourceTidy
