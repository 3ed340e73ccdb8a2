import Mathlib
import SourceTidy.Proofs.Growth
import SourceTidy.Proofs.RealCalls
import SourceTidy.Run

/-!
A saving is atomic, whatever fails.

`Reached` says for each stage what has been done when a saving has come to it. A stage leads from
one such state to another (`step_reached`), so every state of a saving is one (`steps_reached`), and
in all of them the target has either its old contents or the new ones.
-/
namespace SourceTidy.Saving

open FileSystem

def Call.before : Call → List Call
  | .read => []
  | .stat => [.read]
  | .create => [.stat, .read]
  | .write => [.create, .stat, .read]
  | .setMode => [.write, .create, .stat, .read]
  | .replace => [.setMode, .write, .create, .stat, .read]

/-- All calls that are made are successful, where known contents are not read. -/
def Clear (faults : Faults) (known : Option Bytes) (calls : List Call) : Prop :=
  ∀ call ∈ calls, (call = .read → known = none) → faults.on call = none

/-- The operating system refuses a call of its own accord: the temporary file cannot be made, or it
is gone when it should be moved. -/
inductive Refused (faults : Faults) (fs : FileSystem) (target : Path) : Call → OsError → Prop
  | create {error : OsError}
      (refused : fs.create (temporaryPath target (faults.tag fs target)) = .error error) :
      Refused faults fs target .create error
  | replace (lost : faults.lost = true) : Refused faults fs target .replace .noEntry

/-- The call at which a saving stops, and its failure. -/
structure StopsAt (faults : Faults) (fs : FileSystem) (target : Path) (known : Option Bytes)
    (call : Call) (failure : Failure) : Prop where
  made : call = .read → known = none
  clear : Clear faults known call.before
  failed : faults.on call = some failure ∨
    faults.on call = none ∧ ∃ error, failure = .os error ∧ Refused faults fs target call error

/-- How a failure surfaces: an error of the operating system as a fault of the file, and anything
else as it is. -/
def Failure.surfaced (path : Path) : Failure → Fault
  | .os error => .file (.unwritable error) (some path)
  | .other fault => fault

/-- The last call fails after it has been carried out. -/
def Late (faults : Faults) : Prop :=
  faults.late .replace = true ∧ ∃ failure, faults.on .replace = some failure

/-- The file has other contents, as far as is known, and the calls up to here have been
successful. -/
structure Underway (faults : Faults) (known : Option Bytes) (old content : Bytes)
    (calls : List Call) : Prop where
  differs : known.getD old ≠ content
  clear : Clear faults known calls

section Progress

variable {faults : Faults} {known : Option Bytes} {old content : Bytes}

theorem Underway.next {calls : List Call} (underway : Underway faults known old content calls)
    {call : Call} (successful : faults.on call = none) :
    Underway faults known old content (call :: calls) :=
  ⟨underway.differs, List.forall_mem_cons.mpr ⟨fun _ => successful, underway.clear⟩⟩

theorem Underway.stopsAt {call : Call} (underway : Underway faults known old content call.before)
    (fs : FileSystem) (target : Path) (later : call ≠ .read) {failure : Failure}
    (befallen : faults.on call = some failure) : StopsAt faults fs target known call failure :=
  ⟨fun first => absurd first later, underway.clear, .inl befallen⟩

end Progress

section Attempts

variable {α : Type} {faults : Faults} {call : Call} {action : Except OsError α}

/-- A call fails if a failure befalls it, or if the operating system refuses it. -/
theorem attempt_error {failure : Failure} (failed : attempt faults call action = .error failure) :
    faults.on call = some failure ∨
      faults.on call = none ∧ ∃ error, failure = .os error ∧ action = .error error := by
  unfold attempt at failed
  cases planned : faults.on call with
  | some other =>
    rw [planned] at failed
    cases failed
    exact .inl rfl
  | none =>
    rw [planned] at failed
    cases action with
    | ok a => cases failed
    | error error =>
      cases failed
      exact .inr ⟨rfl, error, rfl, rfl⟩

theorem of_attempt {a : α} (done : attempt faults call action = .ok a) :
    faults.on call = none ∧ action = .ok a := by
  unfold attempt at done
  cases planned : faults.on call with
  | some other =>
    rw [planned] at done
    cases done
  | none =>
    rw [planned] at done
    cases action with
    | ok b =>
      cases done
      exact ⟨rfl, rfl⟩
    | error error => cases done

theorem on_of_attempt_ok {a : α} {failure : Failure}
    (failed : attempt faults call (.ok a) = .error failure) : faults.on call = some failure := by
  rcases attempt_error failed with befallen | ⟨_, error, _, refused⟩
  · exact befallen
  · cases refused

end Attempts

@[simp] theorem orElse_ok (fs changed : FileSystem) : orElse fs (.ok changed) = changed := rfl

@[simp] theorem orElse_error (fs : FileSystem) (error : OsError) : orElse fs (.error error) = fs :=
  rfl

section Stages

variable (faults : Faults) (fs : FileSystem) (loc : Location) (old content : Bytes) (mode : Nat)
  (known : Option Bytes)

/-- Nothing has changed but for a temporary file. -/
def Holding (temporary : Path) (entry : Entry) (g : FileSystem) : Prop :=
  ∃ tag, Free fs loc tag ∧ temporary = ⟨.root, beside loc tag⟩ ∧ g = fs.set (beside loc tag) entry

/-- Paths lead where they led, and the file is the old one or the new one. -/
structure Intact (g : FileSystem) : Prop where
  grows : fs.GrowsTo g
  file : g.get? loc = some (.file old mode) ∨ g.get? loc = some (.file content mode)

/-- What has been done when the saving has come to a stage. -/
def Reached : Stage → FileSystem → Prop
  | .compare now, g => now = known ∧ g = fs
  | .measure, g => Underway faults known old content (Call.before .stat) ∧ g = fs
  | .create now, g => Underway faults known old content (Call.before .create) ∧ now = mode ∧ g = fs
  | .write temporary now, g =>
    Underway faults known old content (Call.before .write) ∧ now = mode ∧
      Holding fs loc temporary (.file [] privateMode) g
  | .setMode temporary now, g =>
    Underway faults known old content (Call.before .setMode) ∧ now = mode ∧
      Holding fs loc temporary (.file content privateMode) g
  | .replace temporary, g =>
    Underway faults known old content (Call.before .replace) ∧
      Holding fs loc temporary (.file content mode) g
  | .cleanUp temporary failure, g =>
    known.getD old ≠ content ∧ (∃ call, StopsAt faults fs ⟨.root, loc⟩ known call failure) ∧
      ((∃ written now, Holding fs loc temporary (.file written now) g) ∨
        (∃ tag, Free fs loc tag ∧ temporary = ⟨.root, beside loc tag⟩) ∧
          (g = fs ∨ (Late faults ∧ g = fs.set loc (.file content mode))))
  | .finished (.ok true), g =>
    Underway faults known old content (.replace :: Call.before .replace) ∧
      g = fs.set loc (.file content mode)
  | .finished (.ok false), g =>
    known.getD old = content ∧ (known = none → faults.on .read = none) ∧ g = fs
  | .finished (.error failure), g =>
    (∃ call, StopsAt faults fs ⟨.root, loc⟩ known call failure ∧
        (call = .read ∨ known.getD old ≠ content)) ∧
      (g = fs ∨ (Late faults ∧ g = fs.set loc (.file content mode)) ∨
        (faults.cleanUp = true ∧ ∃ temporary written now,
          Holding fs loc temporary (.file written now) g))

end Stages

section Steps

variable {faults : Faults} {fs : FileSystem} {loc : Location} {old content : Bytes} {mode : Nat}
  {known : Option Bytes} (tree : fs.IsTree) (target : fs.get? loc = some (.file old mode))

include tree target

theorem temporary_calls {tag : Tag} (free : Free fs loc tag) (written : Bytes) (now : Nat) :
    let g := fs.set (beside loc tag) (.file written now)
    (∀ new, g.write ⟨.root, beside loc tag⟩ new = .ok (fs.set (beside loc tag) (.file new now))) ∧
    (∀ new, g.setMode ⟨.root, beside loc tag⟩ new =
      .ok (fs.set (beside loc tag) (.file written new))) ∧
    g.unlink ⟨.root, beside loc tag⟩ = .ok fs ∧
    g.replace ⟨.root, beside loc tag⟩ ⟨.root, loc⟩ = .ok (fs.set loc (.file written now)) := by
  intro g
  have inner := beside_ne_nil loc tag
  have there : g.get? (beside loc tag) = some (.file written now) := by
    rw [get?_set _ inner, if_pos rfl]
  have kept : g.get? loc = some (.file old mode) := by
    rw [get?_set _ inner, if_neg (ne_of_get? target free.unused), target]
  have grown : g.IsTree :=
    tree.add_file (tree.parent target) free.proper free.unused written now
  refine ⟨?_, ?_, ?_, ?_⟩
  · intro new
    rw [grown.write_real there, set_set]
  · intro new
    rw [grown.setMode_real there, set_set]
  · have gone : g.unlink ⟨.root, beside loc tag⟩ = .ok (g.erase (beside loc tag)) :=
      grown.unlink_real there
    rw [gone, tree.erase_set inner free.unused]
  · have moved : g.replace ⟨.root, beside loc tag⟩ ⟨.root, loc⟩ =
        .ok ((g.set loc (.file written now)).erase (beside loc tag)) :=
          grown.replace_real there kept
    rw [moved, tree.erase_set_set inner free.unused target (IsTree.file_ne_nil target)]

theorem missing_calls {tag : Tag} (free : Free fs loc tag) (elsewhere : Path) :
    fs.unlink ⟨.root, beside loc tag⟩ = .error .noEntry ∧
      fs.replace ⟨.root, beside loc tag⟩ elsewhere = .error .noEntry :=
  ⟨tree.unlink_missing (tree.parent target) free.proper free.unused,
    tree.replace_missing (tree.parent target) free.proper free.unused elsewhere⟩

theorem compare_reached :
    let next := step faults ⟨.root, loc⟩ content (.compare known) fs
    Reached faults fs loc old content mode known next.1 next.2 := by
  have decided (bytes : Bytes) (same : known.getD old = bytes)
      (successful : known = none → faults.on .read = none) :
      let next : Stage × FileSystem :=
        if bytes = content then (.finished (.ok false), fs) else (.measure, fs)
      Reached faults fs loc old content mode known next.1 next.2 := by
    by_cases equal : bytes = content
    · rw [if_pos equal]
      exact ⟨same.trans equal, successful, rfl⟩
    · rw [if_neg equal]
      exact ⟨⟨same ▸ equal, by simpa [Clear, Call.before] using successful⟩, rfl⟩
  cases known with
  | some bytes => exact decided bytes rfl (by simp)
  | none =>
    simp only [step, tree.read_real target]
    cases attempted : attempt faults .read (.ok old) with
    | ok bytes =>
      obtain ⟨successful, equal⟩ := of_attempt attempted
      cases equal
      exact decided old rfl fun _ => successful
    | error failure =>
      have stops : StopsAt faults fs ⟨.root, loc⟩ none .read failure :=
        ⟨fun _ => rfl, by simp [Clear, Call.before], .inl (on_of_attempt_ok attempted)⟩
      exact ⟨⟨.read, stops, .inl rfl⟩, .inl rfl⟩

theorem measure_reached (underway : Underway faults known old content (Call.before .stat)) :
    let next := step faults ⟨.root, loc⟩ content .measure fs
    Reached faults fs loc old content mode known next.1 next.2 := by
  simp only [step, tree.stat_real target]
  cases attempted : attempt faults .stat (.ok (Entry.file old mode)) with
  | ok entry =>
    obtain ⟨successful, equal⟩ := of_attempt attempted
    cases equal
    exact ⟨underway.next successful, rfl, rfl⟩
  | error failure =>
    have stops := underway.stopsAt fs ⟨.root, loc⟩ (by decide) (on_of_attempt_ok attempted)
    exact ⟨⟨.stat, stops, .inr underway.differs⟩, .inl rfl⟩

theorem create_reached (underway : Underway faults known old content (Call.before .create)) :
    let next := step faults ⟨.root, loc⟩ content (.create mode) fs
    Reached faults fs loc old content mode known next.1 next.2 := by
  simp only [step]
  cases attempted : attempt faults .create
      (fs.create (temporaryPath ⟨.root, loc⟩ (faults.tag fs ⟨.root, loc⟩))) with
  | error failure =>
    have stops : StopsAt faults fs ⟨.root, loc⟩ known .create failure := by
      refine ⟨by simp, underway.clear, (attempt_error attempted).imp_right ?_⟩
      rintro ⟨planned, error, os, refused⟩
      exact ⟨planned, error, os, .create refused⟩
    exact ⟨⟨.create, stops, .inr underway.differs⟩, .inl rfl⟩
  | ok made =>
    obtain ⟨successful, created⟩ := of_attempt attempted
    obtain ⟨free, rfl⟩ := (create_temporary_iff tree target).mp created
    exact ⟨underway.next successful, rfl, _, free, rfl, rfl⟩

theorem write_reached {temporary : Path} {g : FileSystem}
    (underway : Underway faults known old content (Call.before .write))
    (holding : Holding fs loc temporary (.file [] privateMode) g) :
    let next := step faults ⟨.root, loc⟩ content (.write temporary mode) g
    Reached faults fs loc old content mode known next.1 next.2 := by
  obtain ⟨tag, free, rfl, rfl⟩ := holding
  have written := (temporary_calls tree target free [] privateMode).1
  simp only [step, written, orElse_ok]
  cases attempted : attempt faults .write
      (.ok (fs.set (beside loc tag) (.file content privateMode))) with
  | ok done =>
    obtain ⟨successful, equal⟩ := of_attempt attempted
    cases equal
    exact ⟨underway.next successful, rfl, tag, free, rfl, rfl⟩
  | error failure =>
    have stops := underway.stopsAt fs ⟨.root, loc⟩ (by decide) (on_of_attempt_ok attempted)
    exact ⟨underway.differs, ⟨.write, stops⟩, .inl ⟨_, _, tag, free, rfl, rfl⟩⟩

theorem setMode_reached {temporary : Path} {g : FileSystem}
    (underway : Underway faults known old content (Call.before .setMode))
    (holding : Holding fs loc temporary (.file content privateMode) g) :
    let next := step faults ⟨.root, loc⟩ content (.setMode temporary mode) g
    Reached faults fs loc old content mode known next.1 next.2 := by
  obtain ⟨tag, free, rfl, rfl⟩ := holding
  have changed := (temporary_calls tree target free content privateMode).2.1
  simp only [step, changed, orElse_ok]
  cases attempted : attempt faults .setMode
      (.ok (fs.set (beside loc tag) (.file content mode))) with
  | ok done =>
    obtain ⟨successful, equal⟩ := of_attempt attempted
    cases equal
    exact ⟨underway.next successful, tag, free, rfl, rfl⟩
  | error failure =>
    have stops := underway.stopsAt fs ⟨.root, loc⟩ (by decide) (on_of_attempt_ok attempted)
    refine ⟨underway.differs, ⟨.setMode, stops⟩, .inl ?_⟩
    by_cases late : faults.late .setMode = true
    · exact ⟨content, mode, tag, free, rfl, if_pos late⟩
    · exact ⟨content, privateMode, tag, free, rfl, if_neg late⟩

theorem replace_reached {temporary : Path} {g : FileSystem}
    (underway : Underway faults known old content (Call.before .replace))
    (holding : Holding fs loc temporary (.file content mode) g) :
    let next := step faults ⟨.root, loc⟩ content (.replace temporary) g
    Reached faults fs loc old content mode known next.1 next.2 := by
  obtain ⟨tag, free, rfl, rfl⟩ := holding
  obtain ⟨_, _, deleted, moved⟩ := temporary_calls tree target free content mode
  have absent := (missing_calls tree target free ⟨.root, loc⟩).2
  simp only [step, deleted, orElse_ok]
  by_cases lost : faults.lost = true
  · simp only [if_pos lost, absent, orElse_error, ite_self]
    cases attempted : attempt faults .replace (.error .noEntry : Except OsError FileSystem) with
    | ok done => cases (of_attempt attempted).2
    | error failure =>
      have stops : StopsAt faults fs ⟨.root, loc⟩ known .replace failure := by
        refine ⟨by simp, underway.clear, (attempt_error attempted).imp_right ?_⟩
        rintro ⟨planned, error, os, refused⟩
        cases refused
        exact ⟨planned, _, os, .replace lost⟩
      exact ⟨underway.differs, ⟨.replace, stops⟩, .inr ⟨⟨tag, free, rfl⟩, .inl rfl⟩⟩
  · simp only [if_neg lost, moved, orElse_ok]
    cases attempted : attempt faults .replace (.ok (fs.set loc (.file content mode))) with
    | ok done =>
      obtain ⟨successful, equal⟩ := of_attempt attempted
      cases equal
      exact ⟨underway.next successful, rfl⟩
    | error failure =>
      have stops := underway.stopsAt fs ⟨.root, loc⟩ (by decide) (on_of_attempt_ok attempted)
      refine ⟨underway.differs, ⟨.replace, stops⟩, ?_⟩
      by_cases late : faults.late .replace = true
      · refine .inr ⟨⟨tag, free, rfl⟩, .inr ⟨⟨late, failure, on_of_attempt_ok attempted⟩, ?_⟩⟩
        exact if_pos late
      · exact .inl ⟨content, mode, tag, free, rfl, if_neg late⟩

/-- After the last call has been carried out there is no temporary file to clean up. -/
theorem unlink_after_replace {tag : Tag} (free : Free fs loc tag) :
    (fs.set loc (.file content mode)).unlink ⟨.root, beside loc tag⟩ = .error .noEntry := by
  have inner := IsTree.file_ne_nil target
  have still : (fs.set loc (.file content mode)).IsTree := tree.set_file target
  apply still.unlink_missing _ free.proper
  · rw [← free.unused]
    exact (get?_set _ inner _).trans (if_neg (Ne.symm (ne_of_get? target free.unused)))
  · rw [get?_set _ inner, if_neg, tree.parent target]
    intro same
    have up := tree.parent target
    rw [same, target] at up
    cases up

theorem cleanUp_reached {temporary : Path} {failure : Failure} {g : FileSystem}
    (reached : Reached faults fs loc old content mode known (.cleanUp temporary failure) g) :
    let next := step faults ⟨.root, loc⟩ content (.cleanUp temporary failure) g
    Reached faults fs loc old content mode known next.1 next.2 := by
  obtain ⟨differs, ⟨call, stops⟩, state⟩ := reached
  refine ⟨⟨call, stops, .inr differs⟩, ?_⟩
  rcases state with ⟨written, now, tag, free, rfl, rfl⟩ |
    ⟨⟨tag, free, rfl⟩, unchanged | ⟨late, new⟩⟩
  · have deleted := (temporary_calls tree target free written now).2.2.1
    by_cases stuck : faults.cleanUp = true
    · exact .inr (.inr ⟨stuck, _, written, now, tag, free, rfl, if_pos stuck⟩)
    · refine .inl ((if_neg stuck).trans ?_)
      rw [deleted, orElse_ok]
  · subst unchanged
    left
    simp only [step, (missing_calls tree target free ⟨.root, loc⟩).1, orElse_error, ite_self]
  · subst new
    refine .inr (.inl ⟨late, ?_⟩)
    simp only [step, unlink_after_replace tree target free, orElse_error, ite_self]

theorem step_reached {stage : Stage} {g : FileSystem}
    (reached : Reached faults fs loc old content mode known stage g) :
    let next := step faults ⟨.root, loc⟩ content stage g
    Reached faults fs loc old content mode known next.1 next.2 := by
  cases stage with
  | compare now =>
    obtain ⟨rfl, rfl⟩ := reached
    exact compare_reached tree target
  | measure =>
    obtain ⟨underway, rfl⟩ := reached
    exact measure_reached tree target underway
  | create now =>
    obtain ⟨underway, rfl, rfl⟩ := reached
    exact create_reached tree target underway
  | write temporary now =>
    obtain ⟨underway, rfl, holding⟩ := reached
    exact write_reached tree target underway holding
  | setMode temporary now =>
    obtain ⟨underway, rfl, holding⟩ := reached
    exact setMode_reached tree target underway holding
  | replace temporary =>
    obtain ⟨underway, holding⟩ := reached
    exact replace_reached tree target underway holding
  | cleanUp temporary failure => exact cleanUp_reached tree target reached
  | finished result => exact reached

theorem steps_reached (n : Nat) (state : Stage × FileSystem)
    (reached : Reached faults fs loc old content mode known state.1 state.2) :
    let last := steps faults ⟨.root, loc⟩ content n state
    Reached faults fs loc old content mode known last.1 last.2 := by
  induction n generalizing state with
  | zero => exact reached
  | succ n ih => exact ih _ (step_reached tree target reached)

omit tree in
theorem intact_of_reached {stage : Stage} {g : FileSystem}
    (reached : Reached faults fs loc old content mode known stage g) :
    Intact fs loc old content mode g := by
  have before : Intact fs loc old content mode fs := ⟨.refl fs, .inl target⟩
  have after {g : FileSystem} (new : g = fs.set loc (.file content mode)) :
      Intact fs loc old content mode g := by
    subst new
    refine ⟨(GrowsTo.refl fs).set_kept target content, .inr ?_⟩
    rw [get?_set _ (IsTree.file_ne_nil target), if_pos rfl]
  have between {temporary : Path} {written : Bytes} {now : Nat} {g : FileSystem}
      (holding : Holding fs loc temporary (.file written now) g) :
      Intact fs loc old content mode g := by
    obtain ⟨tag, free, rfl, rfl⟩ := holding
    have inner := beside_ne_nil loc tag
    refine ⟨(GrowsTo.refl fs).set_added inner free.unused written now, .inl ?_⟩
    rw [get?_set _ inner, if_neg (ne_of_get? target free.unused), target]
  cases stage with
  | compare now => exact reached.2 ▸ before
  | measure => exact reached.2 ▸ before
  | create now => exact reached.2.2 ▸ before
  | write temporary now => exact between reached.2.2
  | setMode temporary now => exact between reached.2.2
  | replace temporary => exact between reached.2
  | cleanUp temporary failure =>
    rcases reached.2.2 with ⟨written, now, holding⟩ | ⟨_, unchanged | ⟨_, changed⟩⟩
    · exact between holding
    · exact unchanged ▸ before
    · exact after changed
  | finished result =>
    match result with
    | .ok true => exact after reached.2
    | .ok false => exact reached.2.2 ▸ before
    | .error failure =>
      rcases reached.2 with unchanged | ⟨_, changed⟩ | ⟨_, temporary, written, now, holding⟩
      · exact unchanged ▸ before
      · exact after changed
      · exact between holding

end Steps

/- A saving comes to its end. -/

def Stage.left : Stage → Nat
  | .compare _ => 7
  | .measure => 6
  | .create _ => 5
  | .write _ _ => 4
  | .setMode _ _ => 3
  | .replace _ => 2
  | .cleanUp _ _ => 1
  | .finished _ => 0

theorem left_step (faults : Faults) (target : Path) (content : Bytes) (stage : Stage)
    (fs : FileSystem) : (step faults target content stage fs).1.left ≤ stage.left - 1 := by
  cases stage with
  | compare known =>
    simp only [step]
    split
    · simp [Stage.left]
    · split <;> simp [Stage.left]
  | measure | create mode | write temporary mode | setMode temporary mode | replace temporary =>
    simp only [step]
    split <;> simp [Stage.left]
  | cleanUp temporary failure => simp [step, Stage.left]
  | finished result => simp [step, Stage.left]

theorem left_steps (faults : Faults) (target : Path) (content : Bytes) (n : Nat)
    (state : Stage × FileSystem) :
    (steps faults target content n state).1.left ≤ state.1.left - n := by
  induction n generalizing state with
  | zero => exact Nat.le_refl _
  | succ n ih =>
    have one := left_step faults target content state.1 state.2
    have rest := ih (step faults target content state.1 state.2)
    simp only [steps]
    omega

theorem steps_finished (faults : Faults) (target : Path) (content : Bytes) (known : Option Bytes)
    (fs : FileSystem) :
    ∃ result, (steps faults target content stages (.compare known, fs)).1 = .finished result := by
  have none_left := left_steps faults target content stages (.compare known, fs)
  cases stage : (steps faults target content stages (.compare known, fs)).1 with
  | finished result => exact ⟨result, rfl⟩
  | _ =>
    rw [stage] at none_left
    exact absurd none_left (by simp [Stage.left, stages])

theorem run_reached (faults : Faults) {fs : FileSystem} (tree : fs.IsTree) {path : Path}
    {loc : Location} {old : Bytes} {mode : Nat} (leads : fs.locate true path = .ok loc)
    (target : fs.get? loc = some (.file old mode)) (content : Bytes) (known : Option Bytes) :
    Reached faults fs loc old content mode known (.finished (run faults fs path content known).1)
      (run faults fs path content known).2 := by
  have real := tree.realPath_of_locate leads
  have start : Reached faults fs loc old content mode known (.compare known) fs := ⟨rfl, rfl⟩
  have reached := steps_reached tree target stages (.compare known, fs) start
  obtain ⟨result, ended⟩ := steps_finished faults ⟨.root, loc⟩ content known fs
  unfold run
  rw [real]
  generalize steps faults ⟨.root, loc⟩ content stages (.compare known, fs) = last at reached ended
  obtain ⟨stage, g⟩ := last
  cases ended
  exact reached

end SourceTidy.Saving

namespace SourceTidy

/-- The entry at a path itself, with a link at its end not followed. -/
def FileSystem.itself (fs : FileSystem) (p : Path) : Option Entry :=
  (fs.locate false p).toOption.bind fs.get?

theorem FileSystem.Alike.itself_link {fs g : FileSystem} (alike : fs.Alike g) {p : Path}
    {target : Text} (before : fs.itself p = some (.link target)) :
    g.itself p = some (.link target) := by
  unfold itself at before ⊢
  rw [alike.locate]
  obtain ⟨loc, found, there⟩ := Option.bind_eq_some_iff.mp before
  exact Option.bind_eq_some_iff.mpr ⟨loc, found, alike.growsTo.link_iff.mpr there⟩

namespace Saving

open FileSystem

def course (faults : Faults) (fs : FileSystem) (path : Path) (content : Bytes)
    (known : Option Bytes) (n : Nat) : FileSystem :=
  (steps faults (fs.realPath path) content n (.compare known, fs)).2

theorem course_stages (faults : Faults) (fs : FileSystem) (path : Path) (content : Bytes)
    (known : Option Bytes) :
    course faults fs path content known stages = (run faults fs path content known).2 := by
  obtain ⟨result, ended⟩ := steps_finished faults (fs.realPath path) content known fs
  unfold course run
  generalize steps faults (fs.realPath path) content stages (.compare known, fs) = last at ended
  obtain ⟨stage, g⟩ := last
  cases ended
  rfl

section Course

variable {faults : Faults} {fs : FileSystem} {path : Path} {loc : Location} {old content : Bytes}
  {mode : Nat} {known : Option Bytes} (tree : fs.IsTree) (leads : fs.locate true path = .ok loc)
  (target : fs.get? loc = some (.file old mode))

include tree leads target

theorem course_intact (n : Nat) :
    Intact fs loc old content mode (course faults fs path content known n) := by
  have start : Reached faults fs loc old content mode known (.compare known) fs := ⟨rfl, rfl⟩
  unfold course
  rw [tree.realPath_of_locate leads]
  exact intact_of_reached target (steps_reached tree target n (.compare known, fs) start)

omit tree leads target in
theorem steps_of_finished (target : Path) (n : Nat) (result : Except Failure Bool) :
    steps faults target content n (.finished result, fs) = (.finished result, fs) := by
  induction n with
  | zero => rfl
  | succ n ih => exact ih

/-- A saving of contents that are there already ends at its first stage. -/
theorem steps_same (same : known.getD old = content)
    (successful : known = none → faults.on .read = none) (n : Nat) :
    steps faults (fs.realPath path) content (n + 1) (.compare known, fs) =
      (.finished (.ok false), fs) := by
  have ends : step faults ⟨.root, loc⟩ content (.compare known) fs =
      (.finished (.ok false), fs) := by
    cases known with
    | some bytes => exact if_pos same
    | none =>
      simp only [step, tree.read_real target, attempt, successful rfl]
      exact if_pos same
  rw [tree.realPath_of_locate leads, steps, ends, steps_of_finished]

end Course

end Saving

namespace World

open FileSystem Saving

/-- What a saving promises for the file at `loc`, whatever fails. -/
structure Atomic (faults : Faults) (world : World) (path : Path) (loc : Location)
    (old content : Bytes) (mode : Nat) (known : Option Bytes) : Prop where
  /-- At any time the path leads to the whole old file or to the whole new one. -/
  whole : ∀ n, let now := course faults world.files path content known n
    now.stat path = .ok (.file old mode) ∨ now.stat path = .ok (.file content mode)
  last : (world.save faults path content known).2.files =
    course faults world.files path content known stages
  written : ∀ after, world.save faults path content known = (.ok true, after) →
    known.getD old ≠ content ∧ (∀ call, (call = .read → known = none) → faults.on call = none) ∧
      after.files.stat path = .ok (.file content mode) ∧
      after.files = world.files.set loc (.file content mode) ∧
      ∀ target, world.files.itself path = some (.link target) →
        after.files.itself path = some (.link target)
  same : (world.save faults path content known).1 = .ok false ↔
    known.getD old = content ∧ (known = none → faults.on .read = none)
  idle : (world.save faults path content known).1 = .ok false →
    ∀ n, course faults world.files path content known n = world.files
  /-- A failure leaves all as it was, but for a temporary file that could not be deleted, unless it
  came after the new file had taken its place. -/
  failed : ∀ fault after, world.save faults path content known = (.error fault, after) →
    after.files = world.files ∨
      (faults.cleanUp = true ∧ ∃ tag written now, world.files.get? (beside loc tag) = none ∧
        after.files = world.files.set (beside loc tag) (.file written now)) ∨
      (Late faults ∧ after.files = world.files.set loc (.file content mode))
  /-- The failure that surfaces is that of the call at which the saving stopped. -/
  raised : ∀ fault after, world.save faults path content known = (.error fault, after) →
    ∃ call failure, StopsAt faults world.files ⟨.root, loc⟩ known call failure ∧
      (call = .read ∨ known.getD old ≠ content) ∧ fault = failure.surfaced path

section Answers

variable (faults : Faults) (world : World) (path : Path) (content : Bytes) (known : Option Bytes)

theorem save_files : (world.save faults path content known).2.files =
    (run faults world.files path content known).2 := by
  unfold save
  split <;> simp_all [report]

theorem save_ok_iff (written : Bool) : (world.save faults path content known).1 = .ok written ↔
    (run faults world.files path content known).1 = .ok written := by
  unfold save
  split <;> simp_all

theorem save_error {fault : Fault}
    (failed : (world.save faults path content known).1 = .error fault) :
    ∃ failure, (run faults world.files path content known).1 = .error failure ∧
      fault = failure.surfaced path := by
  unfold save at failed
  split at failed
  · cases failed
  · rename_i error files answer
    cases failed
    exact ⟨.os error, by rw [answer], rfl⟩
  · rename_i other files answer
    cases failed
    exact ⟨.other fault, by rw [answer], rfl⟩

end Answers

theorem save_atomic (faults : Faults) (world : World) (path : Path) (loc : Location)
    (old content : Bytes) (mode : Nat) (known : Option Bytes) (tree : world.files.IsTree)
    (leads : world.files.locate true path = .ok loc)
    (target : world.files.get? loc = some (.file old mode)) :
    Atomic faults world path loc old content mode known := by
  have reached := run_reached faults tree leads target content known
  have files := save_files faults world path content known
  constructor
  case whole =>
    intro n
    obtain ⟨grows, before | after⟩ := course_intact tree leads target n
    · exact .inl (grows.stat_file leads before)
    · exact .inr (grows.stat_file leads after)
  case last =>
    rw [files, course_stages]
  case written =>
    intro after saved
    have answer := (save_ok_iff faults world path content known true).mp (congrArg Prod.fst saved)
    have result : after.files = (run faults world.files path content known).2 := by
      rw [← files, saved]
    rw [answer] at reached
    obtain ⟨underway, new⟩ := reached
    have alike : world.files.Alike after.files := by
      rw [result, new]
      exact (Alike.refl _).set_file target content
    have inner := IsTree.file_ne_nil target
    refine ⟨underway.differs, ?_, ?_, result.trans new, ?_⟩
    · intro call needed
      exact underway.clear call (by cases call <;> decide) needed
    · apply alike.growsTo.stat_file leads
      rw [result, new, get?_set _ inner, if_pos rfl]
    · exact fun link before => alike.itself_link before
  case same =>
    rw [save_ok_iff]
    constructor
    · intro answer
      rw [answer] at reached
      exact ⟨reached.1, reached.2.1⟩
    · rintro ⟨same, successful⟩
      unfold run stages
      rw [steps_same tree leads target same successful 6]
  case idle =>
    intro saved n
    rw [save_ok_iff] at saved
    rw [saved] at reached
    cases n with
    | zero => rfl
    | succ n =>
      unfold course
      rw [steps_same tree leads target reached.1 reached.2.1 n]
  case failed =>
    intro fault after saved
    obtain ⟨failure, answer, _⟩ :=
      save_error faults world path content known (congrArg Prod.fst saved)
    rw [answer] at reached
    have result : after.files = (run faults world.files path content known).2 := by
      rw [← files, saved]
    rw [result]
    rcases reached.2 with unchanged | late | ⟨stuck, temporary, written, now, tag, free, _, left⟩
    · exact .inl unchanged
    · exact .inr (.inr late)
    · exact .inr (.inl ⟨stuck, tag, written, now, free.unused, left⟩)
  case raised =>
    intro fault after saved
    obtain ⟨failure, answer, surfaced⟩ :=
      save_error faults world path content known (congrArg Prod.fst saved)
    rw [answer] at reached
    obtain ⟨⟨call, stops, reason⟩, _⟩ := reached
    exact ⟨call, failure, stops, reason, surfaced⟩

def linked : World :=
  { files := ⟨[(["d"], .directory), (["d", "A"], .file [1] 0o644), (["l"], .link "d/A".toList)],
    []⟩ }

/-- The move of the new file is interrupted, and the clean-up fails. -/
def stranded : Faults :=
  { on := fun call => if call = .replace then some .interrupted else none, cleanUp := true }

def crowded : Faults :=
  { on := fun call => if call = .write then some (.os .noSpace) else none }

theorem save_atomic_stranded :
    linked.files.IsTree ∧ linked.files.locate true ⟨.current, ["l"]⟩ = .ok ["d", "A"] ∧
      linked.files.get? ["d", "A"] = some (.file [1] 0o644) ∧
      (linked.save stranded ⟨.current, ["l"]⟩ [2, 3] none).1 = .error .interrupted ∧
      Atomic stranded linked ⟨.current, ["l"]⟩ ["d", "A"] [1] [2, 3] 0o644 none ∧
      (linked.save crowded ⟨.current, ["l"]⟩ [2, 3] none).1 =
        .error (.file (.unwritable .noSpace) (some ⟨.current, ["l"]⟩)) ∧
      Atomic crowded linked ⟨.current, ["l"]⟩ ["d", "A"] [1] [2, 3] 0o644 none := by
  have tree : linked.files.IsTree := by decide +kernel
  have leads : linked.files.locate true ⟨.current, ["l"]⟩ = .ok ["d", "A"] := by cbv
  have target : linked.files.get? ["d", "A"] = some (.file [1] 0o644) := by decide +kernel
  exact ⟨tree, leads, target, by cbv, save_atomic _ _ _ _ _ _ _ _ tree leads target, by cbv,
    save_atomic _ _ _ _ _ _ _ _ tree leads target⟩

end World

end SourceTidy
