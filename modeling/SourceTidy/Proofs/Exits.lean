import SourceTidy.CommandLine.Run
import SourceTidy.Proofs.FileFaults

/-!
How the command line tool exits. All checks come before the first file: once a run has begun, no
fault of it is fatal, so a fatal exit leaves every file as it was, and no formatter has been given a
text.
-/
namespace SourceTidy

namespace Engine

def Mild (part : Part) : Prop :=
  ∀ world fault after, part world = (.error fault, after) → fault.isFatal = false

section Faults

variable {engine : Engine} {codecs : Charset.Codecs} {name : Text}
  (named : engine.conversion = .ofName codecs name)

include named

theorem formatFile_not_fatal {path : Path} {content : Bytes} {world : World} {fault : Fault}
    (failed : (engine.formatFile path (engine.applicable path) content world).1 = .error fault) :
    fault.isFatal = false := by
  simp only [formatFile, named] at failed
  split at failed
  · rename_i reason piped
    cases failed
    exact (Pipeline.apply_origin piped).not_fatal
  · obtain ⟨cause, place, rfl⟩ := store_error failed
    rfl

theorem process_not_fatal {path : Path} {world after : World} {fault : Fault}
    (failed : engine.process path world = (.error fault, after)) : fault.isFatal = false := by
  simp only [process] at failed
  split at failed
  · cases failed
  · split at failed
    · cases failed
    · split at failed
      · cases failed
      · cases failed
      · rename_i ended
        cases failed
        exact formatFile_not_fatal named (congrArg Prod.fst ended)

omit named in
theorem mild_idle : Mild fun world => (.ok [], world) := by
  intro world fault after failed
  cases failed

theorem mild_meet (finding : Finding) : Mild (engine.meet finding) := by
  intro world fault after failed
  cases finding with
  | note event => cases failed
  | file path =>
    simp only [meet] at failed
    split at failed
    · cases failed
    · rename_i ended
      cases failed
      exact process_not_fatal named ended

omit named in
theorem Mild.andThen {first second : Part} (one : Mild first) (two : Mild second) :
    Mild (andThen first second) := by
  intro world fault after failed
  simp only [Engine.andThen] at failed
  split at failed
  · rename_i ended
    cases failed
    exact one _ _ _ ended
  · split at failed
    · cases failed
    · rename_i ended
      cases failed
      exact two _ _ _ ended

omit named in
theorem Mild.inTurn {part : String → Part} (each : ∀ name, Mild (part name)) (names : List String) :
    Mild (inTurn part names) := by
  induction names with
  | nil => exact mild_idle
  | cons name names ih => exact (each name).andThen ih

theorem mild_visitBelow (root : Path) (depth : Nat) (below : List String) :
    Mild (engine.visitBelow root depth below) := by
  induction depth generalizing below with
  | zero => exact mild_idle
  | succ depth ih =>
    intro world fault after failed
    simp only [visitBelow] at failed
    split at failed
    · cases failed
    · refine Mild.andThen (.inTurn ?_ _) (.inTurn ?_ _) world fault after failed
      · intro name world
        exact mild_meet named _ world
      · intro name world fault after failed
        beta_reduce at failed
        split at failed
        · cases failed
        · exact ih _ world fault after failed

/-- A fatal fault is one of the root, before the first file. -/
theorem visit_fatal {root : Path} {world after : World} {fault : Fault}
    (failed : engine.visit root world = (.error fault, after)) (fatal : fault.isFatal = true) :
    after = world := by
  have ended : engine.visitRoot root world = (.error fault, after) := by
    unfold visit at failed
    split at failed
    · rename_i ended
      cases failed
      exact ended
    · cases failed
  have begun {part : Part} (mild : Mild part) (ended : part world = (.error fault, after)) :
      after = world := by
    rw [mild world fault after ended] at fatal
    cases fatal
  unfold visitRoot at ended
  split at ended
  · exact begun (mild_meet named (.file root)) ended
  · exact begun (mild_visitBelow named root _ []) ended
  · cases ended
    rfl
  · cases ended
    rfl

end Faults

end Engine

theorem Summary.exitCode_le (summary : Summary) : summary.exitCode ≤ 1 := by
  unfold exitCode
  split <;> omega

namespace CommandLine

def AsksHelp (s : Surroundings) (args : List Text) : Prop :=
  ∃ given, s.arguments args = .ok given ∧ given.has .help = true

/-- The arguments can be read, and ask for something else than help. -/
def Requests (s : Surroundings) (args : List Text) (request : Request) : Prop :=
  ∃ given, s.arguments args = .ok given ∧ given.has .help = false ∧ given.request = .ok request

/-- The request is for a run over a path, and the run goes to its end. -/
def Completes (s : Surroundings) (files : FileSystem) (request : Request) (summary : Summary)
    (world : World) : Prop :=
  ∃ separator path engine events,
    (request.given.value? .linesep).mapM Resolve.lineSeparator = .ok separator ∧
    request.path = some path ∧ CommandLine.engine s files request = (.ok engine, events) ∧
    engine.visit path { files, log := events } = (.ok summary, world)

/-- The ways in which a run can go. -/
inductive Course (files : FileSystem) (asked : Prop) (completes : Summary → World → Prop)
    (report : Report) : Prop
  | fatal {code : Nat} {reported : Option Fault} (ending : report.ending = .exit code reported)
      (coded : code = exitFatal ∨ code = exitMissingPath) (untouched : report.files = files)
      (unread : report.handed = [])
  | help (ending : report.ending = .exit 0 none) (asks : asked)
  | stopped {fault : Fault} (ending : report.ending = .stopped fault)
  | summed {summary : Summary} {world : World}
      (ending : report.ending = .exit summary.exitCode none) (ended : completes summary world)

theorem Course.imp {files : FileSystem} {asked asked' : Prop}
    {completes completes' : Summary → World → Prop} {report : Report}
    (course : Course files asked completes report) (asks : asked → asked')
    (ends : ∀ summary world, completes summary world → completes' summary world) :
    Course files asked' completes' report := by
  cases course with
  | fatal ending coded untouched unread => exact .fatal ending coded untouched unread
  | help ending asked => exact .help ending (asks asked)
  | stopped ending => exact .stopped ending
  | summed ending ended => exact .summed ending (ends _ _ ended)

section Running

variable {s : Surroundings} {files : FileSystem}

theorem engine_conversion {request : Request} {engine : Engine} {events : List Event}
    (made : CommandLine.engine s files request = (.ok engine, events)) :
    engine.conversion = .ofName s.codecs engine.config.encoding := by
  unfold CommandLine.engine at made
  split at made
  · cases made
  · split at made
    · cases made
    · dsimp only [after] at made
      split at made
      · cases made
      · dsimp only at made
        split at made
        · cases made
        · obtain ⟨excluded, _, done⟩ := ok_of_bind (congrArg Prod.fst made)
          cases done
          rfl

theorem course_faultReport {asked : Prop} {completes : Summary → World → Prop} {log : String}
    {left : FileSystem} {handed : List Text} {fault : Fault}
    (untouched : fault.isFatal = true → left = files ∧ handed = []) :
    Course files asked completes (faultReport s log left handed fault) := by
  unfold faultReport
  split
  · rename_i fatal
    exact .fatal rfl (.inl rfl) (untouched fatal).1 (untouched fatal).2
  · exact .stopped rfl

theorem course_format {request : Request} {separator : Option LineSeparator} {path : Path}
    (separated : (request.given.value? .linesep).mapM Resolve.lineSeparator = .ok separator)
    (there : request.path = some path) (isVerbose : Bool) :
    Course files False (Completes s files request) (format s files isVerbose request path) := by
  unfold format
  split
  · exact course_faultReport fun _ => ⟨rfl, rfl⟩
  · rename_i engine events made
    split
    · rename_i fault world visited
      refine course_faultReport fun fatal => ?_
      rw [Engine.visit_fatal (engine_conversion made) visited fatal]
      exact ⟨rfl, rfl⟩
    · rename_i summary world visited
      exact .summed rfl ⟨separator, path, engine, events, separated, there, made, visited⟩

theorem course_execute (s : Surroundings) (files : FileSystem) (request : Request) :
    Course files False (Completes s files request) (execute s files request) := by
  simp only [execute]
  split
  · exact course_faultReport fun _ => ⟨rfl, rfl⟩
  · rename_i separator separated
    split
    · rename_i path there
      exact course_format separated there _
    · exact .fatal rfl (.inr rfl) rfl rfl

def Runs (s : Surroundings) (files : FileSystem) (args : List Text) (summary : Summary)
    (world : World) :
    Prop :=
  ∃ request, Requests s args request ∧ Completes s files request summary world

theorem course_run (s : Surroundings) (files : FileSystem) (args : List Text) :
    Course files (AsksHelp s args) (Runs s files args) (run s files args) := by
  unfold run
  split
  · exact .fatal rfl (.inl rfl) rfl rfl
  · rename_i given read
    split
    · rename_i asked
      exact .help rfl ⟨given, read, asked⟩
    · rename_i unasked
      split
      · exact .fatal rfl (.inl rfl) rfl rfl
      · rename_i request requested
        refine (course_execute s files request).imp False.elim fun summary world ended => ?_
        exact ⟨request, ⟨given, read, Bool.eq_false_iff.mpr unasked, requested⟩, ended⟩

structure Reports (report : Report) (summary : Summary) (world : World) : Prop where
  ending : report.ending = .exit summary.exitCode none
  printed : report.out = summaryLine summary
  left : report.files = world.files
  handed : report.handed = world.handed

theorem Completes.reports {request : Request} {summary : Summary} {world : World}
    (completes : Completes s files request summary world) :
    Reports (execute s files request) summary world := by
  obtain ⟨separator, path, engine, events, separated, there, made, visited⟩ := completes
  constructor <;> simp [execute, separated, there, format, made, visited]

theorem Runs.reports {args : List Text} {summary : Summary} {world : World}
    (runs : Runs s files args summary world) : Reports (run s files args) summary world := by
  obtain ⟨request, ⟨given, read, unasked, requested⟩, completes⟩ := runs
  have executed : run s files args = execute s files request := by
    simp [run, read, unasked, requested]
  exact executed ▸ completes.reports

end Running

/-- What an exit code says about the files and about the run. -/
structure Exits (files : FileSystem) (asked : Prop) (completes : Summary → World → Prop)
    (report : Report) : Prop where
  untouched : ∀ code reported, report.ending = .exit code reported → code = 2 ∨ code = 255 →
    report.files = files ∧ report.handed = []
  ended : ∀ code reported, report.ending = .exit code reported → code = 0 ∨ code = 1 →
    asked ∨ ∃ summary world, completes summary world
  completed : ∀ summary world, completes summary world →
    ∃ code, report.ending = .exit code none ∧
      (code = 1 ↔ ∃ outcome ∈ summary.outcomes, outcome.status = .failed) ∧
      (code = 0 ↔ ∀ outcome ∈ summary.outcomes, outcome.status ≠ .failed) ∧
      report.out = summaryLine summary ∧ report.files = world.files ∧ report.handed = world.handed

theorem Course.exits {files : FileSystem} {asked : Prop} {completes : Summary → World → Prop}
    {report : Report} (course : Course files asked completes report)
    (reports : ∀ summary world, completes summary world → Reports report summary world) :
    Exits files asked completes report := by
  constructor
  case untouched =>
    intro code reported ended coded
    cases course with
    | fatal _ _ untouched unread => exact ⟨untouched, unread⟩
    | help ending =>
      cases ending.symm.trans ended
      omega
    | stopped ending => cases ending.symm.trans ended
    | summed ending =>
      rename_i summary world _
      cases ending.symm.trans ended
      have small : summary.exitCode ≤ 1 := summary.exitCode_le
      omega
  case ended =>
    intro code reported ended coded
    cases course with
    | fatal ending fatal =>
      cases ending.symm.trans ended
      simp only [exitFatal, exitMissingPath] at fatal
      omega
    | help _ asks => exact .inl asks
    | stopped ending => cases ending.symm.trans ended
    | summed _ completes => exact .inr ⟨_, _, completes⟩
  case completed =>
    intro summary world completes
    have report := reports summary world completes
    exact ⟨summary.exitCode, report.ending, (Summary.exitCode_eq summary).1,
      (Summary.exitCode_eq summary).2, report.printed, report.left, report.handed⟩

theorem run_exits (s : Surroundings) (files : FileSystem) :
    (∀ request, Exits files False (Completes s files request) (execute s files request)) ∧
      ∀ args, Exits files (AsksHelp s args) (Runs s files args) (run s files args) :=
  ⟨fun request => (course_execute s files request).exits fun _ _ completes => completes.reports,
    fun args => (course_run s files args).exits fun _ _ runs => runs.reports⟩

def bare : Surroundings where
  parser _ _ := default
  home := ⟨.root, ["home"]⟩
  wording := .plain

def garbled : FileSystem := ⟨[(["A.java"], .file [255] 0o644)], []⟩

def asking (name : String) : Request := ⟨⟨[], [name.toList]⟩, some ⟨.current, [name]⟩, none⟩

theorem engine_garbled (name : String) : ∃ engine events,
    CommandLine.engine bare garbled (asking name) = (.ok engine, events) ∧ engine.config = {} ∧
      engine.jobs = 1 ∧ (engine.applicable ⟨.current, ["A.java"]⟩).isEmpty = false := by
  have loaded : Project.load bare.construct garbled (some defaultConfigFile) = .ok {} := by cbv
  have absent : garbled.probe (Resolve.homeProfile bare.home) = .ok none := by cbv
  have file : configFileOf (asking name) = defaultConfigFile := rfl
  have options : optionsOf (asking name) = {} := rfl
  simp only [CommandLine.engine, file, loaded, options, Resolve.configuration, Resolve.profile,
    Resolve.chosenProfile, absent]
  exact ⟨_, _, rfl, rfl, rfl, rfl⟩

theorem runs_garbled : ∃ summary world, Runs bare garbled ["A.java".toList] summary world ∧
    ∃ outcome ∈ summary.outcomes, outcome.status = .failed := by
  obtain ⟨engine, events, made, config, single, applies⟩ := engine_garbled "A.java"
  have named : engine.conversion = .ofName Charset.codecs engine.config.encoding :=
    engine_conversion made
  have read : garbled.read ⟨.current, ["A.java"]⟩ = .ok [255] := by cbv
  have file : garbled.isFile ⟨.current, ["A.java"]⟩ = true := by cbv
  obtain ⟨cause, piped⟩ : ∃ cause,
      engine.pipe ⟨.current, ["A.java"]⟩ [255] = .error (.file cause none) := by
    have decoded := Utf8.ofName_decode [255]
    rw [Engine.pipe, named, config]
    simp only [Pipeline.apply, decoded]
    exact ⟨_, rfl⟩
  have recorded : engine.Recorded _ { files := garbled, log := events } _ :=
    Engine.recorded named applies read
  obtain ⟨after, processed, _⟩ := recorded.failed cause none piped
  obtain ⟨outcome, failed, visited⟩ : ∃ outcome : Outcome, outcome.status = .failed ∧
      engine.visit ⟨.current, ["A.java"]⟩ { files := garbled, log := events } =
        (.ok ⟨[outcome]⟩, after) := by
    have begun : engine.visitRoot ⟨.current, ["A.java"]⟩ { files := garbled, log := events } =
        engine.meet (.file ⟨.current, ["A.java"]⟩) _ := Engine.visitRoot_of_file file
    simp [Engine.visit, begun, Engine.meet, processed, single, Engine.failure]
  have requests : Requests bare ["A.java".toList] (asking "A.java") := ⟨_, rfl, rfl, rfl⟩
  have completes : Completes bare garbled (asking "A.java") ⟨[outcome]⟩ after :=
    ⟨none, _, engine, events, rfl, rfl, made, visited⟩
  exact ⟨_, after, ⟨_, requests, completes⟩, outcome, by simp, failed⟩

theorem run_exits_garbled :
    (∃ reported, (run bare garbled ["B.java".toList]).ending = .exit 2 reported) ∧
      (run bare garbled ["B.java".toList]).files = garbled ∧
      (run bare garbled ["B.java".toList]).handed = [] ∧
      (run bare garbled ["A.java".toList]).ending = .exit 1 none := by
  obtain ⟨engine, events, made, _⟩ := engine_garbled "B.java"
  have visited : engine.visit ⟨.current, ["B.java"]⟩ { files := garbled, log := events } =
      (.error (.unsupportedPath ⟨.current, ["B.java"]⟩), { files := garbled, log := events }) := by
    have missing : garbled.probe ⟨.current, ["B.java"]⟩ = .ok none := by cbv
    simp [Engine.visit, Engine.visitRoot, missing]
  have fatal : ∃ reported, (run bare garbled ["B.java".toList]).ending = .exit 2 reported := by
    have read : bare.arguments ["B.java".toList] = .ok (asking "B.java").given := rfl
    have requested : (asking "B.java").given.request = .ok (asking "B.java") := rfl
    have path : (asking "B.java").path = some ⟨.current, ["B.java"]⟩ := rfl
    simp only [run, read, requested, execute, path, format, made, visited]
    exact ⟨_, rfl⟩
  obtain ⟨reported, ended⟩ := fatal
  obtain ⟨left, handed⟩ :=
    ((run_exits bare garbled).2 ["B.java".toList]).untouched 2 reported ended (.inl rfl)
  obtain ⟨summary, world, runs, failed⟩ := runs_garbled
  obtain ⟨code, ending, failing, _⟩ :=
    ((run_exits bare garbled).2 ["A.java".toList]).completed summary world runs
  exact ⟨⟨reported, ended⟩, left, handed, failing.mpr failed ▸ ending⟩

end CommandLine

end SourceTidy
