import SourceTidy.Fault

namespace SourceTidy

inductive Status
  | unchanged
  | changed
  | skipped
  | failed
  deriving DecidableEq, Repr

def Status.name : Status → String
  | unchanged => "unchanged"
  | changed => "changed"
  | skipped => "skipped"
  | failed => "failed"

/-- What became of the file at a path, which formatters are for it, and what went wrong. -/
structure Outcome where
  path : Path
  status : Status
  formatters : List String := []
  error : Option FileFault := none
  deriving DecidableEq, Repr

structure Summary where
  outcomes : List Outcome
  deriving DecidableEq, Repr

namespace Summary

def count (s : Summary) (status : Status) : Nat :=
  s.outcomes.countP (·.status = status)

def visited (s : Summary) : Nat :=
  s.outcomes.length

def failures (s : Summary) : List Outcome :=
  s.outcomes.filter (·.status = .failed)

def exitCode (s : Summary) : Nat :=
  if s.count .failed = 0 then 0 else 1

end Summary

end SourceTidy
