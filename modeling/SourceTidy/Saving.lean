import SourceTidy.Fault
import SourceTidy.Files.Change
import SourceTidy.Files.RealPath

/-!
Saving a file: new contents reach a file in one step or not at all.

The contents are written to a temporary file beside the target, which then takes the target's place.
A saving is a sequence of stages. Each call of the operating system may fail, and the failure of any
of them after the temporary file was made leads through `cleanUp`. A call that fails may have had an
effect: a write may have gone part of the way, and the last two calls may have been carried out. A
symbolic link is written through, so the link itself stays.
-/
namespace SourceTidy

namespace Saving

/-- What stops a saving: an error of the operating system, or any other fault. -/
inductive Failure
  | os (error : OsError)
  | other (fault : Fault)
  deriving DecidableEq, Repr

def Failure.interrupted : Failure := .other .interrupted

/-- The calls of a saving that may fail. -/
inductive Call
  | read
  | stat
  | create
  | write
  | setMode
  | replace
  deriving DecidableEq, Repr

/-- What tells the temporary files beside one file apart. Without a slash in it, the name of such a
file is one component. -/
abbrev Tag := { text : String // '/' ∉ text.toList }

def pad (n : Nat) : String :=
  let digits := Nat.toDigits 10 n
  String.ofList (List.replicate (8 - digits.length) '0' ++ digits)

theorem slash_not_mem_pad (n : Nat) : '/' ∉ (pad n).toList := by
  intro inside
  simp only [pad, String.toList_ofList, List.mem_append, List.mem_replicate] at inside
  rcases inside with ⟨_, zero⟩ | digit
  · exact absurd zero (by decide)
  · exact absurd (Nat.isDigit_of_mem_toDigits (by decide) (by decide) digit) (by decide)

def Tag.ofNat (n : Nat) : Tag := ⟨pad n, slash_not_mem_pad n⟩

def temporaryName (name : String) (tag : Tag) : String :=
  "." ++ name ++ "." ++ tag.1 ++ ".tmp"

/-- A tag whose name is not in use. One of the first is free, because there are more of them than
entries. -/
def freeTag (fs : FileSystem) (target : Path) : Tag :=
  let isFree := fun tag =>
    !fs.entries.any fun e => e.1.getLast? = some (temporaryName target.name tag)
  (((List.range (fs.entries.length + 1)).map Tag.ofNat).find? isFree).getD (.ofNat 0)

def temporaryPath (target : Path) (tag : Tag) : Path :=
  target.parent.child (temporaryName target.name tag)

/-- The failures that befall a saving: for each call whether and how it fails, whether a call that
fails is carried out all the same, what a write that fails has written, whether the clean-up fails,
and whether the temporary file is lost just before it would be moved. The tag of the temporary file
comes from outside, too. -/
structure Faults where
  on : Call → Option Failure := fun _ => none
  late : Call → Bool := fun _ => false
  written : Bytes → Bytes := fun _ => []
  cleanUp : Bool := false
  lost : Bool := false
  tag : FileSystem → Path → Tag := freeTag

/-- Nothing fails but what the state of the file system forbids. -/
def Faults.none : Faults := {}

inductive Stage
  | compare (known : Option Bytes)
  | measure
  | create (mode : Nat)
  | write (temporary : Path) (mode : Nat)
  | setMode (temporary : Path) (mode : Nat)
  | replace (temporary : Path)
  | cleanUp (temporary : Path) (failure : Failure)
  | finished (result : Except Failure Bool)

/-- Makes a call, unless it is one that fails. -/
def attempt {α : Type} (faults : Faults) (call : Call) (action : Except OsError α) :
    Except Failure α :=
  match faults.on call with
  | some failure => .error failure
  | none => action.mapError .os

/-- What a call leaves behind. A call that the operating system refuses leaves all as it was. -/
def orElse (fs : FileSystem) (changed : Except OsError FileSystem) : FileSystem :=
  changed.toOption.getD fs

/-- The mode of an entry. Only regular files have one here. -/
def modeOf : Entry → Nat
  | .file _ mode => mode
  | _ => 0o755

/-- One stage of writing `content` to the real path `target`. -/
def step (faults : Faults) (target : Path) (content : Bytes) :
    Stage → FileSystem → Stage × FileSystem
  | .compare known, fs =>
    let current : Except Failure Bytes :=
      match known with
      | some bytes => .ok bytes
      | Option.none => attempt faults .read (fs.read target)
    match current with
    | .error failure => (.finished (.error failure), fs)
    | .ok bytes => if bytes = content then (.finished (.ok false), fs) else (.measure, fs)
  | .measure, fs =>
    match attempt faults .stat (fs.stat target) with
    | .error failure => (.finished (.error failure), fs)
    | .ok entry => (.create (modeOf entry), fs)
  | .create mode, fs =>
    let temporary := temporaryPath target (faults.tag fs target)
    match attempt faults .create (fs.create temporary) with
    | .error failure => (.finished (.error failure), fs)
    | .ok fs' => (.write temporary mode, fs')
  | .write temporary mode, fs =>
    match attempt faults .write (fs.write temporary content) with
    | .error failure =>
      (.cleanUp temporary failure, orElse fs (fs.write temporary (faults.written content)))
    | .ok fs' => (.setMode temporary mode, fs')
  | .setMode temporary mode, fs =>
    match attempt faults .setMode (fs.setMode temporary mode) with
    | .error failure =>
      (.cleanUp temporary failure,
        if faults.late .setMode then orElse fs (fs.setMode temporary mode) else fs)
    | .ok fs' => (.replace temporary, fs')
  | .replace temporary, fs =>
    let fs := if faults.lost then orElse fs (fs.unlink temporary) else fs
    match attempt faults .replace (fs.replace temporary target) with
    | .error failure =>
      (.cleanUp temporary failure,
        if faults.late .replace then orElse fs (fs.replace temporary target) else fs)
    | .ok fs' => (.finished (.ok true), fs')
  | .cleanUp temporary failure, fs =>
    let fs' := if faults.cleanUp then fs else orElse fs (fs.unlink temporary)
    (.finished (.error failure), fs')
  | .finished result, fs => (.finished result, fs)

def stages : Nat := 7

def steps (faults : Faults) (target : Path) (content : Bytes) :
    Nat → Stage × FileSystem → Stage × FileSystem
  | 0, state => state
  | n + 1, state => steps faults target content n (step faults target content state.1 state.2)

/-- Writes `content` to the file that `path` leads to, if it differs from what is there. Contents
that are known already are not read again. The answer tells whether the file was written. -/
def run (faults : Faults) (fs : FileSystem) (path : Path) (content : Bytes)
    (known : Option Bytes) : Except Failure Bool × FileSystem :=
  match steps faults (fs.realPath path) content stages (.compare known, fs) with
  | (.finished result, fs') => (result, fs')
  | (_, fs') => (.ok false, fs')

end Saving

end SourceTidy
