import SourceTidy.Configuration.Resolve

/-!
The command line comes before the project: a value that the command line gives decides its part of
the configuration, and the project has no say in it. Two values do not decide, the empty encoding
and the empty level, which give way to those of the project. The main statement says for which
options the command line decides all that it gives.
-/
namespace SourceTidy

/-- The projects differ only where the command line gives a value. -/
structure Project.SameUnless (options : Options) (p q : Project) : Prop where
  conf : options.conf = none → p.conf = q.conf
  level : options.level = none → p.level = q.level
  header : options.header = none → p.header = q.header
  encoding : options.encoding = none → p.encoding = q.encoding
  linesep : options.linesep = none → p.linesep = q.linesep
  exclude : p.exclude = q.exclude
  jobs : p.jobs = q.jobs

namespace Project

theorem sameUnless_encoding {options : Options} (given : options.encoding ≠ none) (p : Project)
    (a b : Option Text) : SameUnless options { p with encoding := a } { p with encoding := b } :=
  { conf := fun _ => rfl, level := fun _ => rfl, header := fun _ => rfl, linesep := fun _ => rfl
    encoding := fun absent => absurd absent given, exclude := rfl, jobs := rfl }

theorem sameUnless_level {options : Options} (given : options.level ≠ none) (p : Project)
    (a b : Option Text) : SameUnless options { p with level := a } { p with level := b } :=
  { conf := fun _ => rfl, encoding := fun _ => rfl, header := fun _ => rfl, linesep := fun _ => rfl
    level := fun absent => absurd absent given, exclude := rfl, jobs := rfl }

end Project

namespace Resolve

variable {codecs : Charset.Codecs} {files : FileSystem} {home : Path} {options : Options}
  {p q : Project}

/-- Projects that differ only where the command line gives a value have the same result. -/
def IsDecided (codecs : Charset.Codecs) (files : FileSystem) (home : Path) (options : Options) :
    Prop :=
  ∀ p q, Project.SameUnless options p q →
    (configuration codecs files home options p).1 = (configuration codecs files home options q).1

def HasBadSeparator (options : Options) : Prop :=
  ∃ name fault, options.linesep = some name ∧ lineSeparator name = .error fault

/-- No project makes a configuration of the options. -/
def IsHopeless (codecs : Charset.Codecs) (files : FileSystem) (home : Path) (options : Options) :
    Prop :=
  ∀ p, ∃ fault, (configuration codecs files home options p).1 = .error fault

/- The parts of a configuration, one after the other. -/

theorem separatorOf_same (same : p.SameUnless options q) :
    separatorOf options p = separatorOf options q := by
  cases given : options.linesep with
  | none => simp only [separatorOf, given, same.linesep given]
  | some name => simp only [separatorOf, given, Option.orElse_some]

theorem headerOf_same (same : p.SameUnless options q) (encoding : Text) :
    headerOf codecs files options p encoding = headerOf codecs files options q encoding := by
  cases given : options.header with
  | none => simp only [headerOf, given, same.header given]
  | some path => simp only [headerOf, given, Option.orElse_some]

theorem orNext_same {first second third : Option Text} (solid : first ≠ some [])
    (same : first = none → second = third) : orNext first second = orNext first third := by
  cases first with
  | none => rw [same rfl]
  | some t =>
    cases t with
    | nil => exact absurd rfl solid
    | cons c t => rfl

theorem encodingOf_same (same : p.SameUnless options q) (solid : options.encoding ≠ some []) :
    encodingOf options p = encodingOf options q := by
  rw [encodingOf, orNext_same solid same.encoding, encodingOf]

theorem profile_same (same : p.SameUnless options q) :
    profile files home options.conf p = profile files home options.conf q := by
  have chosen : chosenProfile files home options.conf p =
      chosenProfile files home options.conf q := by
    cases given : options.conf with
    | none => simp only [chosenProfile, same.conf given]
    | some conf => simp only [chosenProfile]
  simp only [profile, chosen]

theorem withoutProfile_same (same : p.SameUnless options q) (encoding : options.encoding ≠ some [])
    (level : options.level ≠ some []) :
    withoutProfile codecs files options p = withoutProfile codecs files options q := by
  simp only [withoutProfile, separatorOf_same same, encodingOf_same same encoding,
    headerOf_same same, orNext_same level same.level]

theorem configuration_same (codecs : Charset.Codecs) (files : FileSystem) (home : Path)
    (same : p.SameUnless options q) (encoding : options.encoding ≠ some [])
    (level : options.level ≠ some []) :
    configuration codecs files home options p = configuration codecs files home options q := by
  simp only [configuration, withoutProfile_same same encoding level, profile_same same]

/- The level is carried along: it has no part in what can fail. -/

def withLevel (level : Option Text) (result : Except Fault Configuration) :
    Except Fault Configuration :=
  result.map fun config => { config with sourceLevel := level }

theorem withoutProfile_level (codecs : Charset.Codecs) (files : FileSystem) (options : Options)
    (p : Project) :
    withoutProfile codecs files options p =
      withLevel (orNext options.level p.level)
        (withoutProfile codecs files { options with level := none } { p with level := none }) := by
  have separator : separatorOf { options with level := none } { p with level := none } =
      separatorOf options p := rfl
  have encoding : encodingOf { options with level := none } { p with level := none } =
      encodingOf options p := rfl
  have header (encoding : Text) :
      headerOf codecs files { options with level := none } { p with level := none } encoding =
        headerOf codecs files options p encoding := rfl
  simp only [withoutProfile, separator, encoding, header]
  cases separatorOf options p with
  | error fault => rfl
  | ok separator =>
    cases encodingOf options p with
    | error fault => rfl
    | ok name =>
      cases read : headerOf codecs files options p name with
      | error fault => simp only [bind, Except.bind, read]; rfl
      | ok header => simp only [bind, Except.bind, read]; rfl

theorem configuration_level (codecs : Charset.Codecs) (files : FileSystem) (home : Path)
    (options : Options) (p : Project) :
    (configuration codecs files home options p).1 =
      withLevel (orNext options.level p.level)
        (configuration codecs files home { options with level := none }
          { p with level := none }).1 := by
  have profile_level : profile files home options.conf { p with level := none } =
      profile files home options.conf p := rfl
  rw [configuration, withoutProfile_level, configuration]
  cases withoutProfile codecs files { options with level := none } { p with level := none } with
  | error fault => rfl
  | ok config =>
    simp only [withLevel, Except.map, profile_level]
    cases profile files home options.conf p with
    | mk made events =>
      cases made with
      | error fault => rfl
      | ok profile => rfl

/- What an empty value does. -/

theorem configuration_of_bad_separator (bad : HasBadSeparator options) (p q : Project) :
    configuration codecs files home options p = configuration codecs files home options q := by
  obtain ⟨name, fault, given, refused⟩ := bad
  have stopped (project : Project) : configuration codecs files home options project =
      (.error fault, []) := by
    have first : separatorOf options project = .error fault := by
      simp only [separatorOf, given, Option.orElse_some, refused]
    simp only [configuration, withoutProfile, first]
    rfl
  rw [stopped p, stopped q]

theorem separatorOf_ok (sound : ¬HasBadSeparator options) (unset : p.linesep = none) :
    ∃ separator, separatorOf options p = .ok separator := by
  cases given : options.linesep with
  | none => exact ⟨.default, by simp only [separatorOf, given, unset, Option.orElse_none]⟩
  | some name =>
    cases read : lineSeparator name with
    | error fault => exact absurd ⟨name, fault, given, read⟩ sound
    | ok separator => exact ⟨separator, by simp only [separatorOf, given, Option.orElse_some, read]⟩

theorem encoding_of_missing {name : Text} (plain : '\x00' ∉ name)
    (missing : (Charset.find? name).isNone = true) :
    encoding name = .error (.argument (.charset name)) := by
  have free : ¬name.contains '\x00' = true := by simpa using plain
  rw [encoding, if_neg free, Option.isNone_iff_eq_none.mp missing]

theorem configuration_of_unknown {c : Char} {name : Text} (sound : ¬HasBadSeparator options)
    (empty : options.encoding = some [])
    (unknown : encoding (c :: name) = .error (.argument (.charset (c :: name)))) :
    (configuration codecs files home options { encoding := some (c :: name) }).1 =
      .error (.argument (.charset (c :: name))) := by
  obtain ⟨separator, first⟩ := separatorOf_ok (p := { encoding := some (c :: name) }) sound rfl
  have second : encodingOf options { encoding := some (c :: name) } =
      .error (.argument (.charset (c :: name))) := by
    simp only [encodingOf, empty, orNext, nonempty?, unknown]
  simp only [configuration, withoutProfile, first, second]
  rfl

/-- Two names that no encoding has give two faults. -/
theorem hasBadSeparator_of_isDecided (decided : IsDecided codecs files home options)
    (empty : options.encoding = some []) : HasBadSeparator options := by
  refine Classical.byContradiction fun sound => ?_
  have x : encoding ['x'] = .error (.argument (.charset ['x'])) :=
    encoding_of_missing (by decide) (by decide +kernel)
  have y : encoding ['y'] = .error (.argument (.charset ['y'])) :=
    encoding_of_missing (by decide) (by decide +kernel)
  have equal := decided _ _
    (Project.sameUnless_encoding (by simp [empty]) {} (some ['x']) (some ['y']))
  rw [configuration_of_unknown sound empty x, configuration_of_unknown sound empty y] at equal
  cases equal

theorem isHopeless_of_isDecided (decided : IsDecided codecs files home options)
    (empty : options.level = some []) :
    IsHopeless codecs files home options := by
  intro p
  cases made : (configuration codecs files home { options with level := none }
    { p with level := none }).1 with
  | error fault => exact ⟨fault, by rw [configuration_level, made]; rfl⟩
  | ok config =>
    -- A project with a longer level would make another configuration.
    have equal := decided _ _
      (Project.sameUnless_level (by simp [empty]) p p.level (some ('1' :: p.level.getD [])))
    rw [configuration_level codecs files home options p,
      configuration_level codecs files home options { p with level := _ }, made, empty] at equal
    have longer : p.level = some ('1' :: p.level.getD []) :=
      congrArg Configuration.sourceLevel (Except.ok.inj equal)
    cases level : p.level with
    | none => simp [level] at longer
    | some t => simp [level] at longer

theorem configuration_of_hopeless (hopeless : IsHopeless codecs files home options)
    (same : p.SameUnless options q) (encoding : options.encoding ≠ some []) :
    (configuration codecs files home options p).1 =
      (configuration codecs files home options q).1 := by
  have unlevelled : Project.SameUnless { options with level := none } { p with level := none }
      { q with level := none } :=
    { same with level := fun _ => rfl }
  have base := configuration_same codecs files home unlevelled encoding (by simp)
  obtain ⟨fault, failed⟩ := hopeless p
  rw [configuration_level codecs files home options p] at failed ⊢
  rw [configuration_level codecs files home options q, ← base]
  cases made : (configuration codecs files home { options with level := none }
    { p with level := none }).1 with
  | error fault => rfl
  | ok config =>
    rw [made] at failed
    cases failed

/-- The command line decides all that it gives, except that an empty encoding and an empty level are
not heard. An empty encoding makes no difference only behind a line separator that does not exist,
and an empty level only where there is no configuration anyway. With other values the log is
decided, too. -/
theorem configuration_decided_iff (codecs : Charset.Codecs) (files : FileSystem) (home : Path)
    (options : Options) :
    (IsDecided codecs files home options ↔
      (options.encoding = some [] → HasBadSeparator options) ∧
        (options.level = some [] → IsHopeless codecs files home options)) ∧
      (options.encoding ≠ some [] → options.level ≠ some [] → ∀ p q,
        Project.SameUnless options p q →
        configuration codecs files home options p = configuration codecs files home options q) := by
  refine ⟨⟨fun decided => ⟨hasBadSeparator_of_isDecided decided, isHopeless_of_isDecided decided⟩,
    ?_⟩, ?_⟩
  · rintro ⟨unheard, hopeless⟩ p q same
    by_cases encoding : options.encoding = some []
    · rw [configuration_of_bad_separator (unheard encoding) p q]
    · by_cases level : options.level = some []
      · exact configuration_of_hopeless (hopeless level) same encoding
      · rw [configuration_same codecs files home same encoding level]
  · intro encoding level p q same
    exact configuration_same codecs files home same encoding level

def bare : FileSystem := ⟨[], []⟩

def bareHome : Path := ⟨.root, ["home"]⟩

theorem configuration_decided_iff_empty :
    ¬IsDecided Charset.codecs bare bareHome { encoding := some [] } ∧
      configuration Charset.codecs bare bareHome { encoding := some "latin-1".toList }
        { encoding := some ['x'] } =
        configuration Charset.codecs bare bareHome { encoding := some "latin-1".toList } {} := by
  constructor
  · intro decided
    obtain ⟨name, fault, given, _⟩ := ((configuration_decided_iff _ _ _ _).1.mp decided).1 rfl
    cases given
  · exact (configuration_decided_iff _ _ _ _).2 (by simp) (by simp) _ _
      (Project.sameUnless_encoding (by simp) {} (some ['x']) none)

end Resolve

end SourceTidy
