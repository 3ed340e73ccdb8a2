import SourceTidy.Project.Settings
import SourceTidy.Proofs.FileFaults

/-!
Which contents of a project file escape the faults of configuration.

Whatever is wrong with the syntax of a document or with its settings is a fault of configuration.
Four things are not: bytes that are no text, an integer with too many digits, and a section, or the
table around it, that is some other value. They end the loading by a fault that does not name the
file.
-/
namespace SourceTidy

theorem FileSystem.probe_of_read {files : FileSystem} {path : Path} {bytes : Bytes}
    (stored : files.read path = .ok bytes) : ∃ entry, files.probe path = .ok (some entry) := by
  obtain ⟨entry, found, _⟩ := ok_of_bind stored
  exact ⟨entry, probe_some_iff.mpr found⟩

namespace Project

/-- The contents are the encoding of a text with this document. -/
def IsDocument (bytes : Bytes) (document : Toml.Table) : Prop :=
  ∃ t, Utf8.encode t = bytes ∧ Toml.read t = .ok document

/-- A table has another value under the key than a table. -/
def HasOther (table : Toml.Table) (key : String) : Prop :=
  ∃ value, table.lookup key.toList = some value ∧ ∀ entries, value ≠ .table entries

/-- The table under a key, where a key that is not there stands for the empty table. -/
def HasTable (table : Toml.Table) (key : String) (entries : Toml.Table) : Prop :=
  (table.lookup key.toList).getD (.table []) = .table entries

/-- The contents of a file that end its loading by a fault that is none of configuration. -/
inductive Escapes (bytes : Bytes) : Fault → Prop
  | notEncoded (never : ∀ t, Utf8.encode t ≠ bytes) : Escapes bytes .projectNotEncoded
  | numeral {t : Text} {digits : Nat} (text : Utf8.encode t = bytes)
      (long : Toml.read t = .error (.tooLong digits)) : Escapes bytes (.projectNumeral digits)
  | tool {document : Toml.Table} (read : IsDocument bytes document)
      (other : HasOther document "tool") :
      Escapes bytes .toolNotTable
  | inner {document tools : Toml.Table} (read : IsDocument bytes document)
      (outer : HasTable document "tool" tools) (other : HasOther tools "srcfmt") :
      Escapes bytes .sectionNotTable

def Gives (construct : Construction) (directory : Path) (bytes : Bytes) (project : Project) :
    Prop :=
  ∃ document tools entries found, IsDocument bytes document ∧ HasTable document "tool" tools ∧
    HasTable tools "srcfmt" entries ∧ construct entries = .ok found ∧
      project = found.below directory

theorem hasOther_or_hasTable (table : Toml.Table) (key : String) :
    HasOther table key ∨ ∃ entries, HasTable table key entries := by
  unfold HasOther HasTable
  cases table.lookup key.toList with
  | none => exact .inr ⟨[], rfl⟩
  | some value =>
    cases value with
    | table entries => exact .inr ⟨entries, rfl⟩
    | _ => simp

theorem lookup_of_hasTable {table entries : Toml.Table} {key : String}
    (has : HasTable table key entries) :
    table.lookup key.toList = none ∧ entries = [] ∨
    table.lookup key.toList = some (.table entries) := by
  unfold HasTable at has
  cases found : table.lookup key.toList with
  | none =>
    rw [found] at has
    cases has
    exact .inl ⟨rfl, rfl⟩
  | some value =>
    rw [found] at has
    exact .inr (congrArg some has)

theorem sectionOf_of_other {document : Toml.Table} (other : HasOther document "tool") :
    sectionOf document = .error .toolNotTable := by
  obtain ⟨value, found, other⟩ := other
  simp only [sectionOf, found]

theorem sectionOf_of_inner_other {document tools : Toml.Table}
    (outer : HasTable document "tool" tools) (other : HasOther tools "srcfmt") :
    sectionOf document = .error .sectionNotTable := by
  obtain ⟨value, found, other⟩ := other
  obtain ⟨_, rfl⟩ | present := lookup_of_hasTable outer
  · cases found
  · simp only [sectionOf, present, found]

theorem sectionOf_of_tables {document tools entries : Toml.Table}
    (outer : HasTable document "tool" tools) (inner : HasTable tools "srcfmt" entries) :
    sectionOf document = .ok entries := by
  obtain ⟨absent, rfl⟩ | present := lookup_of_hasTable outer
  · obtain ⟨_, rfl⟩ | found := lookup_of_hasTable inner
    · simp only [sectionOf, absent]
    · cases found
  · obtain ⟨absent, rfl⟩ | found := lookup_of_hasTable inner
    · simp only [sectionOf, present, absent]
    · simp only [sectionOf, present, found]

theorem documentOf_eq_ok_iff {path : Path} {bytes : Bytes} {document : Toml.Table} :
    documentOf path bytes = .ok document ↔ IsDocument bytes document := by
  simp only [IsDocument, ← Utf8.decode_eq_ok_iff]
  unfold documentOf
  cases Utf8.decode bytes with
  | error defect => simp
  | ok t =>
    cases read : Toml.read t with
    | ok table => simp [read]
    | error defect => cases defect <;> simp [read]

theorem documentOf_error {path : Path} {bytes : Bytes} {fault : Fault}
    (failed : documentOf path bytes = .error fault) :
    (∃ cause, fault = .configuration cause) ∨ Escapes bytes fault := by
  unfold documentOf at failed
  cases decoded : Utf8.decode bytes with
  | error defect =>
    rw [decoded] at failed
    cases failed
    exact .inr (.notEncoded (Utf8.decode_eq_error_iff.mp ⟨defect, decoded⟩))
  | ok t =>
    simp only [decoded] at failed
    cases read : Toml.read t with
    | ok table => simp [read] at failed
    | error defect =>
      rw [read] at failed
      cases defect with
      | malformed =>
        cases failed
        exact .inl ⟨_, rfl⟩
      | tooLong digits =>
        cases failed
        exact .inr (.numeral (Utf8.decode_eq_ok_iff.mp decoded) read)

section Loading

variable {construct : Construction}

theorem ofBytes_of_section_error {path : Path} {bytes : Bytes} {document : Toml.Table}
    {fault : Fault} (read : IsDocument bytes document)
    (failed : sectionOf document = .error fault) :
    ofBytes construct path bytes = .error fault := by
  rw [ofBytes, documentOf_eq_ok_iff.mpr read]
  simp only [bind, Except.bind, failed]

theorem ofBytes_of_section {path : Path} {bytes : Bytes} {document entries : Toml.Table}
    (read : IsDocument bytes document) (held : sectionOf document = .ok entries) :
    ofBytes construct path bytes = ((construct entries).mapError fun problems =>
      .configuration (.projectInvalid path (.invalid problems))).map (below path.parent) := by
  rw [ofBytes, documentOf_eq_ok_iff.mpr read]
  simp only [bind, Except.bind, held]
  cases construct entries <;> rfl

theorem Escapes.ofBytes {path : Path} {bytes : Bytes} {fault : Fault}
    (escapes : Escapes bytes fault) :
    ofBytes construct path bytes = .error fault := by
  cases escapes with
  | notEncoded never =>
    obtain ⟨defect, decoded⟩ := Utf8.decode_eq_error_iff.mpr never
    simp only [Project.ofBytes, documentOf, decoded, bind, Except.bind]
  | numeral text long =>
    simp only [Project.ofBytes, documentOf, Utf8.decode_eq_ok_iff.mpr text, long, bind, Except.bind]
  | tool read other => exact ofBytes_of_section_error read (sectionOf_of_other other)
  | inner read outer other =>
    exact ofBytes_of_section_error read (sectionOf_of_inner_other outer other)

theorem Escapes.not_configuration {bytes : Bytes} {fault : Fault} (escapes : Escapes bytes fault)
    (cause : ConfigurationFault) : fault ≠ .configuration cause := by
  cases escapes <;> simp

theorem Gives.ofBytes {path : Path} {bytes : Bytes} {project : Project}
    (gives : Gives construct path.parent bytes project) :
    ofBytes construct path bytes = .ok project := by
  obtain ⟨document, tools, entries, found, read, outer, inner, valid, rfl⟩ := gives
  rw [ofBytes_of_section read (sectionOf_of_tables outer inner), valid]
  rfl

/-- What can become of the contents of a file: the document is read, then the two tables, then the
settings. -/
theorem ofBytes_cases (construct : Construction) (path : Path) (bytes : Bytes) :
    (∃ project, Gives construct path.parent bytes project) ∨
      (∃ cause, ofBytes construct path bytes = .error (.configuration cause)) ∨ ∃ fault,
      Escapes bytes fault := by
  cases parsed : documentOf path bytes with
  | error fault =>
    obtain ⟨cause, rfl⟩ | escapes := documentOf_error parsed
    · exact .inr (.inl ⟨cause, by rw [ofBytes, parsed]; rfl⟩)
    · exact .inr (.inr ⟨fault, escapes⟩)
  | ok document =>
    have read := documentOf_eq_ok_iff.mp parsed
    obtain other | ⟨tools, outer⟩ := hasOther_or_hasTable document "tool"
    · exact .inr (.inr ⟨_, .tool read other⟩)
    obtain other | ⟨entries, inner⟩ := hasOther_or_hasTable tools "srcfmt"
    · exact .inr (.inr ⟨_, .inner read outer other⟩)
    cases valid : construct entries with
    | ok found => exact .inl ⟨_, document, tools, entries, found, read, outer, inner, valid, rfl⟩
    | error problems =>
      refine .inr (.inl ⟨.projectInvalid path (.invalid problems), ?_⟩)
      rw [ofBytes_of_section read (sectionOf_of_tables outer inner), valid]
      rfl

theorem ofBytes_eq_ok_iff {path : Path} {bytes : Bytes} {project : Project} :
    ofBytes construct path bytes = .ok project ↔ Gives construct path.parent bytes project := by
  refine ⟨fun loaded => ?_, Gives.ofBytes⟩
  obtain ⟨found, gives⟩ | ⟨cause, failed⟩ | ⟨fault, escapes⟩ := ofBytes_cases construct path bytes
  · rw [gives.ofBytes] at loaded
    cases loaded
    exact gives
  · rw [failed] at loaded
    cases loaded
  · rw [escapes.ofBytes] at loaded
    cases loaded

theorem escapes_iff (construct : Construction) (path : Path) {bytes : Bytes} {fault : Fault} :
    Escapes bytes fault ↔ ofBytes construct path bytes = .error fault ∧ ∀ cause,
    fault ≠ .configuration cause := by
  refine ⟨fun escapes => ⟨escapes.ofBytes, escapes.not_configuration⟩, fun ⟨raised, other⟩ => ?_⟩
  obtain ⟨found, gives⟩ | ⟨cause, failed⟩ | ⟨fault', escapes⟩ := ofBytes_cases construct path bytes
  · rw [gives.ofBytes] at raised
    cases raised
  · rw [failed] at raised
    cases raised
    exact absurd rfl (other cause)
  · rw [escapes.ofBytes] at raised
    cases raised
    exact escapes

theorem load_of_read {files : FileSystem} {path : Path} {bytes : Bytes}
    (stored : files.read path = .ok bytes) :
    load construct files (some path) = ofBytes construct path bytes := by
  obtain ⟨entry, probed⟩ := FileSystem.probe_of_read stored
  simp only [load, probed, stored]

end Loading

/-- Loading ends with settings or with a fault of configuration. -/
def Contained (result : Except Fault Project) : Prop :=
  (∃ project, result = .ok project) ∨ ∃ cause, result = .error (.configuration cause)

theorem contained_iff {result : Except Fault Project} :
    Contained result ↔ ∀ fault, result = .error fault → ∃ cause, fault = .configuration cause := by
  cases result <;> simp [Contained]

/-- Settings or a fault of configuration are all that becomes of a file exactly if its contents do
not escape. The other faults are those by which the contents escape, and the settings are those that
they give. -/
theorem load_contained_iff (construct : Construction) (files : FileSystem) (path : Path)
    (bytes : Bytes) (stored : files.read path = .ok bytes) :
    (Contained (load construct files (some path)) ↔ ∀ fault, ¬ Escapes bytes fault) ∧
      (∀ fault, Escapes bytes fault ↔
        load construct files (some path) = .error fault ∧ ∀ cause, fault ≠ .configuration cause) ∧
      ∀ project, load construct files (some path) = .ok project ↔
        Gives construct path.parent bytes project := by
  rw [load_of_read stored]
  refine ⟨?_, fun fault => escapes_iff construct path, fun project => ofBytes_eq_ok_iff⟩
  rw [contained_iff]
  refine forall_congr' fun fault => ?_
  rw [escapes_iff construct path, not_and, not_forall]
  simp only [not_not]

/-- Bytes that are no text, and a document whose `tool` is a number. -/
def stray : FileSystem :=
  ⟨[(["a"], .file [0xff] 0o644), (["b"], .file (Utf8.encode "tool=1".toList) 0o644)], []⟩

theorem hasOther_number : HasOther [("tool".toList, .integer 1)] "tool" :=
  ⟨.integer 1, rfl, by simp⟩

theorem isDocument_number :
    IsDocument (Utf8.encode "tool=1".toList) [("tool".toList, .integer 1)] :=
  ⟨_, rfl, by cbv⟩

theorem load_contained_iff_stray :
    (stray.read ⟨.current, ["a"]⟩ = .ok [0xff] ∧
      load ofTable stray (some ⟨.current, ["a"]⟩) = .error .projectNotEncoded ∧
      ¬ Contained (load ofTable stray (some ⟨.current, ["a"]⟩))) ∧
    stray.read ⟨.current, ["b"]⟩ = .ok (Utf8.encode "tool=1".toList) ∧
      load ofTable stray (some ⟨.current, ["b"]⟩) = .error .toolNotTable ∧
      ¬ Contained (load ofTable stray (some ⟨.current, ["b"]⟩)) := by
  have first : stray.read ⟨.current, ["a"]⟩ = .ok [0xff] := by cbv
  have second : stray.read ⟨.current, ["b"]⟩ = .ok (Utf8.encode "tool=1".toList) := by cbv
  have bare : Escapes [0xff] .projectNotEncoded :=
    .notEncoded (Utf8.decode_eq_error_iff.mp ⟨_, rfl⟩)
  have number : Escapes (Utf8.encode "tool=1".toList) .toolNotTable :=
    .tool isDocument_number hasOther_number
  obtain ⟨contained, raised, _⟩ := load_contained_iff _ _ _ _ first
  obtain ⟨contained', raised', _⟩ := load_contained_iff _ _ _ _ second
  exact ⟨⟨first, ((raised _).mp bare).1, fun safe => contained.mp safe _ bare⟩,
    second, ((raised' _).mp number).1, fun safe => contained'.mp safe _ number⟩

end Project

end SourceTidy
