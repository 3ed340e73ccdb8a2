import SourceTidy.Fault

namespace SourceTidy

/-- A value from outside, as far as a configuration can use it. -/
inductive FieldValue
  | absent
  | null
  | text (t : Text)
  | other
  deriving DecidableEq, Repr

structure Fields where
  profile : FieldValue := .absent
  sourceLevel : FieldValue := .absent
  encoding : FieldValue := .absent
  lineSeparator : FieldValue := .absent
  header : FieldValue := .absent
  deriving DecidableEq, Repr

namespace Fields

def optional (name : String) (kind : ProblemKind) : FieldValue → Except Problem (Option Text)
  | .absent => .ok none
  | .null => .ok none
  | .text t => .ok (some t)
  | .other => .error ⟨[name], kind⟩

/-- The encoding may be left out, but not be missing. -/
def readEncoding : FieldValue → Except Problem Text
  | .absent => .ok Configuration.defaultEncoding
  | .text t => .ok t
  | _ => .error ⟨["encoding"], .notText⟩

def readSeparator : FieldValue → Except Problem LineSeparator
  | .absent => .ok .default
  | .text t =>
    match LineSeparator.ofName? t with
    | some s => .ok s
    | none => .error ⟨["line_separator"], .notChoice⟩
  | _ => .error ⟨["line_separator"], .notChoice⟩

def problemOf {α : Type} : Except Problem α → List Problem
  | .ok _ => []
  | .error p => [p]

/-- The configuration with these values, or everything that is wrong with them. -/
def toConfiguration (f : Fields) : Except (List Problem) Configuration :=
  let profile := optional "profile" .notPath f.profile
  let sourceLevel := optional "source_level" .notText f.sourceLevel
  let encoding := readEncoding f.encoding
  let lineSeparator := readSeparator f.lineSeparator
  let header := optional "header" .notText f.header
  match profile, sourceLevel, encoding, lineSeparator, header with
  | .ok profile, .ok sourceLevel, .ok encoding, .ok lineSeparator, .ok header =>
    .ok { profile := profile.map Path.ofText, sourceLevel, encoding, lineSeparator, header }
  | _, _, _, _, _ =>
    .error (problemOf profile ++ problemOf sourceLevel ++ problemOf encoding ++
      problemOf lineSeparator ++ problemOf header)

end Fields

/-- A configuration never changes: an attempt to set a field is a problem. -/
def Configuration.assign (name : String) : Problem := ⟨[name], .readOnly⟩

end SourceTidy
