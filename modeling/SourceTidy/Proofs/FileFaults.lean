import SourceTidy.Configuration.Resolve
import SourceTidy.Proofs.SequentialRun

/-!
Which faults stay with one file.

A configuration is made only with a registered encoding, but not every registered name is one of
text. With a codec that stops only at defects, the pipeline fails by a fault of the file and nothing
else. Without one, it stops the run, unless the file is empty and is rejected by a formatter, so
that nothing has to be converted.
-/
namespace SourceTidy

/-- A codec that stops only at defects. -/
structure Codec.IsStrict (codec : Codec) : Prop where
  decodes : ∀ bytes fault, codec.decode bytes = .error fault → ∃ defect, fault = .malformed defect
  encodes : ∀ t fault, codec.encode t = .error fault → ∃ defect, fault = .malformed defect

theorem Codec.strict_isStrict (decode : Bytes → Except Defect Text)
    (encode : Text → Except Defect Bytes) :
    (strict decode encode).IsStrict :=
  ⟨fun _ _ failed => error_of_mapError failed, fun _ _ failed => error_of_mapError failed⟩

namespace Charset

/-- The canonical name of an encoding is one of the names by which it is found. -/
theorem canonical_named : ∀ entry ∈ registry, '\x00' ∉ entry.canonical.toList ∧
    (normalize entry.canonical.toList ∈ entry.aliases ∨
      normalize entry.canonical.toList ∈ entry.names) := by
  decide +kernel

theorem mem_of_find {name : Text} {entry : Entry} (found : find? name = some entry) :
    entry ∈ registry := by
  simp only [find?] at found
  split at found
  · rename_i hit
    cases found
    exact List.mem_of_find?_eq_some hit
  · split at found
    · rename_i hit
      cases found
      exact List.mem_of_find?_eq_some hit
    · exact List.mem_of_find?_eq_some found

theorem find_canonical {entry : Entry} (member : entry ∈ registry) :
    ∃ other, find? entry.canonical.toList = some other := by
  simp only [find?]
  split
  · exact ⟨_, rfl⟩
  · rename_i unaliased
    split
    · exact ⟨_, rfl⟩
    · rw [← Option.isSome_iff_exists, List.find?_isSome]
      refine ⟨entry, member, ?_⟩
      have missed := List.find?_eq_none.mp unaliased entry member
      rcases (canonical_named entry member).2 with aliased | named
      · exact absurd (List.contains_iff_mem.mpr aliased) missed
      · exact List.contains_iff_mem.mpr named

theorem codec_of_find (codecs : Codecs) {name : Text} {entry : Entry} (clean : '\x00' ∉ name)
    (found : find? name = some entry) (use : CodecUse) :
    codec codecs name use =
      if entry.isText then .ok (codecs entry.canonical) else .error (.notText name use) := by
  simp [codec, clean, found]

end Charset

namespace Resolve

theorem encodingOf_registered {options : Options} {project : Project} {name : Text}
    (checked : encodingOf options project = .ok name) :
    ∃ entry ∈ Charset.registry, name = entry.canonical.toList := by
  unfold encodingOf at checked
  split at checked
  · unfold encoding at checked
    split at checked
    · cases checked
    · split at checked
      · rename_i entry found
        cases checked
        exact ⟨entry, Charset.mem_of_find found, rfl⟩
      · cases checked
  · cases checked
    refine ⟨⟨"utf-8", true, ["utf_8"], ["cp65001", "u8", "utf", "utf8", "utf8_ucs2", "utf8_ucs4"]⟩,
      ?_, rfl⟩
    decide +kernel

theorem encodingOf_of_withoutProfile {codecs : Charset.Codecs} {files : FileSystem}
    {options : Options} {project : Project} {config : Configuration}
    (made : withoutProfile codecs files options project = .ok config) :
    encodingOf options project = .ok config.encoding := by
  unfold withoutProfile at made
  obtain ⟨separator, _, made⟩ := ok_of_bind made
  obtain ⟨name, checked, made⟩ := ok_of_bind made
  obtain ⟨header, _, made⟩ := ok_of_bind made
  cases made
  exact checked

theorem encoding_found {codecs : Charset.Codecs} {files : FileSystem} {home : Path}
    {options : Options} {project : Project} {config : Configuration}
    (resolved : (configuration codecs files home options project).1 = .ok config) :
    '\x00' ∉ config.encoding ∧ ∃ entry, Charset.find? config.encoding = some entry := by
  unfold configuration at resolved
  split at resolved
  · cases resolved
  · rename_i made completed
    have checked := encodingOf_of_withoutProfile completed
    have kept : config.encoding = made.encoding := by
      split at resolved <;> cases resolved
      rfl
    obtain ⟨entry, member, named⟩ := encodingOf_registered checked
    rw [kept, named]
    exact ⟨(Charset.canonical_named entry member).1, Charset.find_canonical member⟩

end Resolve

def FileFault.isOfPipeline : FileFault → Bool
  | .undecodable _ _ | .unencodable _ _ | .rejected _ _ => true
  | _ => false

namespace Pipeline

inductive Origin : Fault → Prop
  | file {cause : FileFault} (own : cause.isOfPipeline = true) : Origin (.file cause none)
  | charset (fault : CharsetFault) : Origin (.charset fault)
  | divisionByZero : Origin .divisionByZero
  | crashed : Origin .crashed

section Faults

variable {codecs : Charset.Codecs} {config : Configuration} {formatters : List Formatter}
  {content : Bytes} {t name : Text} {fault : Fault}

theorem origin_of_codec {placed : Defect → FileFault}
    (own : ∀ defect, (placed defect).isOfPipeline = true) (cause : CodecFault) :
    Origin (Conversion.faultOf placed cause) := by
  cases cause with
  | malformed defect => exact .file (own defect)
  | unplaced message => exact .charset _

theorem decode_origin (failed : (Conversion.ofName codecs name).decode content = .error fault) :
    Origin fault := by
  simp only [Conversion.ofName] at failed
  split at failed
  · cases failed
  · split at failed
    · obtain ⟨cause, rfl⟩ := error_of_mapError failed
      exact origin_of_codec (fun _ => rfl) cause
    · cases failed
      exact .charset _

theorem encode_origin (failed : (Conversion.ofName codecs name).encode t = .error fault) :
    Origin fault := by
  simp only [Conversion.ofName] at failed
  split at failed
  · obtain ⟨cause, rfl⟩ := error_of_mapError failed
    exact origin_of_codec (fun _ => rfl) cause
  · cases failed
    exact .charset _

theorem apply_origin
    (failed : (apply (.ofName codecs name) config formatters content).result = .error fault) :
    Origin fault := by
  rcases Engine.apply_eq_error_iff.mp failed with
    undecoded | ⟨t, _, unformatted | ⟨formatted, _, unencoded⟩⟩
  · exact decode_origin undecoded
  · obtain ⟨f, _, _, reason, _, rfl⟩ := Engine.formatAll_error unformatted
    cases reason with
    | rejected cause => exact .file rfl
    | divisionByZero => exact .divisionByZero
    | crashed => exact .crashed
  · exact encode_origin unencoded

theorem Origin.not_fatal (origin : Origin fault) : fault.isFatal = false := by
  cases origin <;> rfl

theorem Origin.of_file {cause : FileFault} {place : Option Path}
    (origin : Origin (.file cause place)) :
    place = none ∧ cause.isOfPipeline = true := by
  cases origin with
  | file own => exact ⟨rfl, own⟩

/-- The pipeline gives bytes or a fault of the file. -/
def Contained (result : Except Fault Bytes) : Prop :=
  ∀ fault, result = .error fault → ∃ cause, fault = .file cause none ∧ cause.isOfPipeline = true

theorem not_contained_charset (fault : CharsetFault) : ¬ Contained (.error (.charset fault)) := by
  intro contained
  obtain ⟨cause, same, _⟩ := contained _ rfl
  cases same

/-- Formatters that do nothing worse than to reject a text. -/
def Rejecting (config : Configuration) (formatters : List Formatter) : Prop :=
  ∀ f ∈ formatters, ∀ t reason, f.format config t = .error reason → ∃ cause,
    reason = .rejected cause

theorem Rejecting.formatAll (rejecting : Rejecting config formatters)
    (failed : (formatAll config formatters t).1 = .error fault) :
    ∃ cause, fault = .file cause none ∧ cause.isOfPipeline = true := by
  obtain ⟨f, member, given, reason, rejected, rfl⟩ := Engine.formatAll_error failed
  obtain ⟨cause, rfl⟩ := rejecting f member given reason rejected
  exact ⟨.rejected f.name cause, rfl, rfl⟩

/-- A file as a codec decodes it. An empty one is not given to the codec. -/
def decoded (codec : Codec) (content : Bytes) : Except CodecFault Text :=
  if content = [] then .ok [] else codec.decode content

/-- A conversion of the file fails without giving a place. -/
inductive BreaksDown (codec : Codec) (config : Configuration) (formatters : List Formatter)
    (content : Bytes) : Prop
  | decoding {message : String} (failed : decoded codec content = .error (.unplaced message))
  | encoding {t formatted : Text} {message : String} (read : decoded codec content = .ok t)
      (done : (formatAll config formatters t).1 = .ok formatted)
      (failed : codec.encode (finish config formatted) = .error (.unplaced message))

theorem not_breaksDown {codec : Codec} (strict : codec.IsStrict) :
    ¬ BreaksDown codec config formatters content := by
  rintro (failed | ⟨_, _, failed⟩)
  · unfold decoded at failed
    split at failed
    · cases failed
    · obtain ⟨defect, same⟩ := strict.decodes _ _ failed
      cases same
  · obtain ⟨defect, same⟩ := strict.encodes _ _ failed
    cases same

theorem decode_ofName {codec : Codec} (clean : '\x00' ∉ name)
    (found : Charset.codec codecs name .decoding = .ok codec) (content : Bytes) :
    (Conversion.ofName codecs name).decode content =
      (decoded codec content).mapError (Conversion.faultOf (.undecodable name)) := by
  unfold decoded
  by_cases empty : content = []
  · simp [Conversion.ofName, empty, clean, Except.mapError]
  · simp [Conversion.ofName, empty, found, Conversion.ofCodec]

theorem encode_ofName {codec : Codec} (found : Charset.codec codecs name .encoding = .ok codec)
    (t : Text) :
    (Conversion.ofName codecs name).encode t =
      (codec.encode t).mapError (Conversion.faultOf (.unencodable name)) := by
  simp [Conversion.ofName, found, Conversion.ofCodec]

/-- A codec that gives a place fails by a fault of the file. -/
theorem file_of_placed {α : Type} {placed : Defect → FileFault}
    (own : ∀ defect, (placed defect).isOfPipeline = true) {result : Except CodecFault α}
    (failed : result.mapError (Conversion.faultOf placed) = .error fault)
    (intact : ∀ message, result ≠ .error (.unplaced message)) :
    ∃ cause, fault = .file cause none ∧ cause.isOfPipeline = true := by
  cases result with
  | ok a => cases failed
  | error cause =>
    cases cause with
    | malformed defect =>
      cases failed
      exact ⟨placed defect, rfl, own defect⟩
    | unplaced message => exact absurd rfl (intact message)

theorem contained_iff_of_codec {codec : Codec} (clean : '\x00' ∉ config.encoding)
    (found : ∀ use, Charset.codec codecs config.encoding use = .ok codec)
    (rejecting : Rejecting config formatters) :
    Contained (apply (.ofName codecs config.encoding) config formatters content).result ↔
      ¬ BreaksDown codec config formatters content := by
  have decode := decode_ofName clean (found .decoding) content
  have encode := encode_ofName (found .encoding)
  constructor
  · rintro contained (failed | @⟨t, formatted, _, read, done, failed⟩)
    · rw [failed] at decode
      rw [Engine.apply_eq_error_iff.mpr (.inl decode)] at contained
      exact not_contained_charset _ contained
    · rw [read] at decode
      have unencoded := encode (finish config formatted)
      rw [failed] at unencoded
      rw [Engine.apply_eq_error_iff.mpr (.inr ⟨_, decode, .inr ⟨_, done, unencoded⟩⟩)] at contained
      exact not_contained_charset _ contained
  · intro intact fault failed
    rw [Engine.apply_eq_error_iff, decode] at failed
    rcases failed with undecoded | ⟨t, read, unformatted | ⟨formatted, done, unencoded⟩⟩
    · exact file_of_placed (fun _ => rfl) undecoded fun _ broken => intact (.decoding broken)
    · exact rejecting.formatAll unformatted
    · rw [encode] at unencoded
      refine file_of_placed (fun _ => rfl) unencoded fun _ broken => intact ?_
      exact .encoding (ok_of_mapError read) done broken

/-- Without a codec, an empty file is read all the same, but nothing can be written. -/
theorem contained_iff_of_no_codec (clean : '\x00' ∉ config.encoding)
    (missing : ∀ use, Charset.codec codecs config.encoding use =
      .error (.notText config.encoding use))
    (rejecting : Rejecting config formatters) :
    Contained (apply (.ofName codecs config.encoding) config formatters content).result ↔
      content = [] ∧ ∃ fault, (formatAll config formatters []).1 = .error fault := by
  by_cases empty : content = []
  · subst empty
    have read : (Conversion.ofName codecs config.encoding).decode [] = .ok [] := by
      simp [Conversion.ofName, clean]
    cases formatted : (formatAll config formatters []).1 with
    | error fault =>
      rw [Engine.apply_eq_error_iff.mpr (.inr ⟨_, read, .inl formatted⟩)]
      refine ⟨fun _ => ⟨rfl, fault, rfl⟩, ?_⟩
      intro _ other same
      cases same
      exact rejecting.formatAll formatted
    | ok t =>
      have unencoded : (Conversion.ofName codecs config.encoding).encode (finish config t) =
          .error (.charset (.notText config.encoding .encoding)) := by
        simp [Conversion.ofName, missing]
      rw [Engine.apply_eq_error_iff.mpr (.inr ⟨_, read, .inr ⟨_, formatted, unencoded⟩⟩)]
      simp [not_contained_charset]
  · have undecoded : (Conversion.ofName codecs config.encoding).decode content =
        .error (.charset (.notText config.encoding .decoding)) := by
      simp [Conversion.ofName, empty, missing]
    rw [Engine.apply_eq_error_iff.mpr (.inl undecoded)]
    simp [not_contained_charset, empty]

end Faults

end Pipeline

namespace Saving

/-- A stage that ends in a failure blames the operating system. -/
def Stage.BlamesSystem : Stage → Prop
  | .cleanUp _ failure => ∃ error, failure = .os error
  | .finished (.error failure) => ∃ error, failure = .os error
  | _ => True

theorem step_blames {stage : Stage} (blames : stage.BlamesSystem) (target : Path) (content : Bytes)
    (fs : FileSystem) : (step .none target content stage fs).1.BlamesSystem := by
  cases stage with
  | compare known =>
    cases known with
    | some bytes =>
      simp only [step]
      split <;> trivial
    | none =>
      simp only [step, attempt_none]
      split
      · exact error_of_mapError ‹_›
      · split <;> trivial
  | measure | create | write | setMode | replace =>
    simp only [step, attempt_none]
    split
    · exact error_of_mapError ‹_›
    · trivial
  | cleanUp temporary failure => exact blames
  | finished result => exact blames

theorem steps_blames (n : Nat) {state : Stage × FileSystem} (blames : state.1.BlamesSystem)
    (target : Path) (content : Bytes) : (steps .none target content n state).1.BlamesSystem := by
  induction n generalizing state with
  | zero => exact blames
  | succ n ih => exact ih (step_blames blames target content state.2)

theorem run_none_error {fs : FileSystem} {path : Path} {content : Bytes} {known : Option Bytes}
    {failure : Failure} (failed : (run .none fs path content known).1 = .error failure) :
    ∃ error, failure = .os error := by
  have start : Stage.BlamesSystem (Stage.compare known, fs).1 := trivial
  have last := steps_blames stages start (fs.realPath path) content
  unfold run at failed
  split at failed
  · rename_i result final finished
    rw [finished] at last
    cases failed
    exact last
  · cases failed

end Saving

theorem World.save_none_error {world : World} {path : Path} {content : Bytes} {known : Option Bytes}
    {fault : Fault} (failed : (world.save .none path content known).1 = .error fault) :
    ∃ error, fault = .file (.unwritable error) (some path) := by
  obtain ⟨failure, answer, rfl⟩ := World.save_error _ _ _ _ _ failed
  obtain ⟨error, rfl⟩ := Saving.run_none_error answer
  exact ⟨error, rfl⟩

namespace Engine

section Recording

variable {engine : Engine} {path : Path} {world : World} {content : Bytes}

theorem store_error {formatted : Bytes} {fault : Fault}
    (failed : (engine.store path formatted content world).1 = .error fault) :
    ∃ cause place, fault = .file cause place := by
  unfold store at failed
  split at failed
  · cases failed
    exact ⟨_, _, rfl⟩
  · obtain ⟨error, rfl⟩ := World.save_none_error failed
    exact ⟨_, _, rfl⟩

/-- What becomes of a result of the pipeline: bytes and faults of the file are recorded in an
outcome, and any other fault stops the run. -/
structure Recorded (engine : Engine) (path : Path) (world : World) (result : Except Fault Bytes) :
    Prop where
  returns : (∃ outcome after, engine.process path world = (.ok outcome, after)) ↔
    Pipeline.Contained result
  failed : ∀ cause place, result = .error (.file cause place) → ∃ after,
    engine.process path world =
        (.ok (failure ((engine.applicable path).map (·.name)) path cause), after) ∧
      after.files = world.files
  stopped : ∀ fault, result = .error fault → ¬ Pipeline.Contained result → ∃ after,
    engine.process path world = (.error fault, after) ∧ after.files = world.files

theorem process_of_ok {formatted : Bytes} (applies : (engine.applicable path).isEmpty = false)
    (read : world.files.read path = .ok content)
    (piped : engine.pipe path content = .ok formatted) :
    ∃ outcome after, engine.process path world = (.ok outcome, after) := by
  obtain ⟨now, stored⟩ : ∃ now : World,
    engine.formatFile path (engine.applicable path) content world =
      engine.store path formatted content now := by
    unfold pipe at piped
    simp only [formatFile, piped]
    exact ⟨_, rfl⟩
  cases ended : engine.store path formatted content now with
  | mk result after =>
    cases result with
    | ok changed => simp [process, applies, read, stored, ended]
    | error fault =>
      obtain ⟨cause, place, rfl⟩ := store_error (congrArg Prod.fst ended)
      simp [process, applies, read, stored, ended]

theorem recorded {codecs : Charset.Codecs} {name : Text}
    (named : engine.conversion = .ofName codecs name)
    (applies : (engine.applicable path).isEmpty = false)
    (read : world.files.read path = .ok content) :
    Recorded engine path world (engine.pipe path content) := by
  cases piped : engine.pipe path content with
  | ok formatted =>
    have contained : Pipeline.Contained (.ok formatted) := by
      intro fault failed
      cases failed
    exact ⟨by simp [process_of_ok applies read piped, contained], by simp, by simp⟩
  | error fault =>
    have origin : Pipeline.Origin fault := by
      rw [pipe, named] at piped
      exact Pipeline.apply_origin piped
    obtain ⟨after, files, ⟨cause, place, rfl, processed⟩ | ⟨other, processed⟩⟩ :=
      process_of_error applies read piped
    · obtain ⟨rfl, converted⟩ := origin.of_file
      have contained : Pipeline.Contained (.error (.file cause none)) := by
        intro fault failed
        cases failed
        exact ⟨cause, rfl, converted⟩
      refine ⟨by simp [processed, contained], ?_, fun _ _ open_ended => absurd contained open_ended⟩
      intro other place same
      cases same
      exact ⟨after, processed, files⟩
    · have uncontained : ¬ Pipeline.Contained (.error fault) := by
        intro contained
        obtain ⟨cause, same, _⟩ := contained fault rfl
        exact other cause none same
      refine ⟨by simp [processed, uncontained], ?_, ?_⟩
      · intro cause place same
        exact absurd (Except.error.inj same) (other cause place)
      · intro _ same _
        cases same
        exact ⟨after, processed, files⟩

end Recording

end Engine

namespace Pipeline

/-- When a result of the pipeline is contained, by the encoding of the run. -/
structure Containment (entry : Charset.Entry) (codec : Codec) (config : Configuration)
    (formatters : List Formatter) (content : Bytes) (result : Except Fault Bytes) : Prop where
  strict : entry.isText = true → codec.IsStrict → Contained result
  text : entry.isText = true → (Contained result ↔ ¬ BreaksDown codec config formatters content)
  transform : entry.isText = false →
    (Contained result ↔ content = [] ∧ ∃ fault, (formatAll config formatters []).1 = .error fault)

theorem apply_contained_iff (codecs : Charset.Codecs) (files : FileSystem) (home : Path)
    (options : Options) (project : Project) (config : Configuration) (formatters : List Formatter)
    (content : Bytes)
    (resolved : (Resolve.configuration codecs files home options project).1 = .ok config)
    (rejecting : Rejecting config formatters) :
    ∃ entry, Charset.find? config.encoding = some entry ∧
      Containment entry (codecs entry.canonical) config formatters content
        (apply (.ofName codecs config.encoding) config formatters content).result ∧
      ∀ (engine : Engine) (path : Path) (world : World), engine.config = config →
        engine.conversion = .ofName codecs config.encoding →
        engine.formatters.filter (·.appliesTo path) = formatters → formatters ≠ [] →
        world.files.read path = .ok content →
        engine.Recorded path world
          (apply (.ofName codecs config.encoding) config formatters content).result := by
  obtain ⟨clean, entry, found⟩ := Resolve.encoding_found resolved
  have looked := Charset.codec_of_find codecs clean found
  have text (isText : entry.isText = true) :
      Contained (apply (.ofName codecs config.encoding) config formatters content).result ↔
        ¬ BreaksDown (codecs entry.canonical) config formatters content := by
    simp only [isText, if_true] at looked
    exact contained_iff_of_codec clean looked rejecting
  refine ⟨entry, found, ⟨fun isText strict => (text isText).mpr (not_breaksDown strict), text, ?_⟩,
    ?_⟩
  · intro transform
    simp only [transform, Bool.false_eq_true, if_false] at looked
    exact contained_iff_of_no_codec clean looked rejecting
  · rintro engine path world rfl named rfl fit read
    rw [← named]
    exact Engine.recorded named (by simpa [Engine.applicable] using fit) read

end Pipeline

def Charset.hexadecimal : Entry := ⟨"hex", false, ["hex_codec"], ["hex"]⟩

theorem Charset.find_hexadecimal : find? "hex".toList = some hexadecimal := by decide +kernel

def Charset.cyrillic : Entry := ⟨"cp1251", true, ["cp1251"], ["1251", "windows_1251"]⟩

theorem Charset.find_cyrillic : find? "cp1251".toList = some cyrillic := by decide +kernel

namespace Pipeline

def encodedIn (name : String) : Configuration where
  encoding := name.toList

theorem resolve_encodedIn {codecs : Charset.Codecs} {entry : Charset.Entry} {c : Char} {rest : Text}
    (clean : (c :: rest).contains '\x00' = false)
    (found : Charset.find? (c :: rest) = some entry) :
    (Resolve.configuration codecs Engine.mixed.files ⟨.root, ["home"]⟩
      { encoding := some (c :: rest) } {}).1 = .ok (encodedIn entry.canonical) := by
  have checked : Resolve.encodingOf { encoding := some (c :: rest) } {} =
      .ok entry.canonical.toList := by
    simp only [Resolve.encodingOf, Resolve.nonempty?, Resolve.orNext, Resolve.encoding, clean,
      found]
    rfl
  have absent : Engine.mixed.files.probe (Resolve.homeProfile ⟨.root, ["home"]⟩) = .ok none := by
    cbv
  simp only [Resolve.configuration, Resolve.withoutProfile, checked, Resolve.separatorOf,
    Resolve.headerOf, Resolve.profile, Resolve.chosenProfile, absent]
  rfl

theorem rejecting_ending (config : Configuration) : Rejecting config [Engine.ending] := by
  intro f member t fault failed
  exact Engine.leaving_confined.rejects f member _ t fault failed

theorem apply_contained_iff_hexadecimal :
    Contained (apply (.ofName Charset.codecs (encodedIn "hex").encoding) (encodedIn "hex")
        [Engine.ending] []).result ∧
      ¬ Contained (apply (.ofName Charset.codecs (encodedIn "hex").encoding) (encodedIn "hex")
        [Engine.ending] [97]).result ∧
      (¬ ∃ outcome after, Engine.process { Engine.leaving with
          config := encodedIn "hex"
          conversion := .ofName Charset.codecs (encodedIn "hex").encoding }
        ⟨.current, ["d", "A"]⟩ Engine.mixed = (.ok outcome, after)) ∧
      Contained (apply (.ofName (fun _ => SingleByte.latin1.codec) (encodedIn "cp1251").encoding)
        (encodedIn "cp1251") [Engine.ending] [200]).result := by
  have hex (content : Bytes) := apply_contained_iff Charset.codecs _ _ _ _ _ [Engine.ending] content
    (resolve_encodedIn (by decide) Charset.find_hexadecimal) (rejecting_ending _)
  obtain ⟨_, found, empty, _⟩ := hex []
  obtain rfl : Charset.hexadecimal = _ :=
    Option.some.inj (Charset.find_hexadecimal.symm.trans found)
  obtain ⟨_, found, filled, recorded⟩ := hex [97]
  obtain rfl : Charset.hexadecimal = _ :=
    Option.some.inj (Charset.find_hexadecimal.symm.trans found)
  have uncontained : ¬ Contained _ :=
    fun contained => absurd ((filled.transform rfl).mp contained).1 (by simp)
  have stopped := recorded { Engine.leaving with
      config := encodedIn "hex", conversion := .ofName Charset.codecs (encodedIn "hex").encoding }
    ⟨.current, ["d", "A"]⟩ Engine.mixed rfl rfl (by rfl) (by simp) (by cbv)
  obtain ⟨_, found, covered, _⟩ := apply_contained_iff (fun _ => SingleByte.latin1.codec) _ _ _ _ _
    [Engine.ending] [200] (resolve_encodedIn (by decide) Charset.find_cyrillic) (rejecting_ending _)
  obtain rfl : Charset.cyrillic = _ := Option.some.inj (Charset.find_cyrillic.symm.trans found)
  exact ⟨(empty.transform rfl).mpr ⟨rfl, _, rfl⟩, uncontained,
    fun returns => uncontained (stopped.returns.mp returns),
    covered.strict rfl (Codec.strict_isStrict _ _)⟩

end Pipeline

end SourceTidy
