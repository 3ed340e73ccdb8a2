/-!
Texts as lists of characters: lines, trimming, searching and replacing.

A text is cut into lines at line feeds only. Other line breaks are the matter of
`SourceTidy.Text.LineBreak`.
-/
namespace SourceTidy

/-- A text is a finite sequence of Unicode scalar values. -/
abbrev Text := List Char

namespace Text

/-- The pieces between the line feeds. There is always at least one. -/
def lines : Text → List Text
  | [] => [[]]
  | c :: rest =>
    if c = '\n' then [] :: lines rest
    else
      match lines rest with
      | [] => [[c]]
      | line :: more => (c :: line) :: more

def unlines (ls : List Text) : Text :=
  List.intercalate ['\n'] ls

/-- The text without its longest end of characters in `p`. -/
def trimRight (p : Char → Bool) (t : Text) : Text :=
  (t.reverse.dropWhile p).reverse

def trim (p : Char → Bool) (t : Text) : Text :=
  trimRight p (t.dropWhile p)

/-- The code point of the character is in one of the ranges, which hold both their ends. -/
def within (ranges : List (Nat × Nat)) (c : Char) : Bool :=
  ranges.any fun r => r.1 ≤ c.toNat && c.toNat ≤ r.2

def isBlank (c : Char) : Bool :=
  c = ' ' || c = '\t'

def occurs (part : Text) : Text → Bool
  | [] => part.isEmpty
  | c :: rest => part.isPrefixOf (c :: rest) || occurs part rest

/-- Replaces the leftmost occurrence of `old`, then goes on after it. `skip` characters belong to an
occurrence that has been replaced already. The text `old` must not be empty. -/
def replaceFrom (old new : Text) : Nat → Text → Text
  | _, [] => []
  | skip + 1, _ :: rest => replaceFrom old new skip rest
  | 0, c :: rest =>
    if old.isPrefixOf (c :: rest) then new ++ replaceFrom old new (old.length - 1) rest
    else c :: replaceFrom old new 0 rest

/-- Replaces every occurrence of `old`, from left to right and without overlaps. The empty text
occurs before each character and at the end. -/
def replaceAll (old new t : Text) : Text :=
  if old.isEmpty then new ++ t.flatMap (fun c => c :: new) else replaceFrom old new 0 t

/-- Cuts the text at the first character in `p`. The character is in neither part. -/
def cut (p : Char → Bool) (t : Text) : Text × Option Text :=
  match t.dropWhile (fun c => !p c) with
  | [] => (t, none)
  | _ :: rest => (t.takeWhile (fun c => !p c), some rest)

/-- The pieces between the characters equal to `sep`. There is always at least one. -/
def splitAt (sep : Char) : Text → List Text
  | [] => [[]]
  | c :: rest =>
    if c = sep then [] :: splitAt sep rest
    else
      match splitAt sep rest with
      | [] => [[c]]
      | piece :: more => (c :: piece) :: more

/-- The lower-case form of ASCII letters. Other characters stay. -/
def lowerAscii (t : Text) : Text :=
  t.map Char.toLower

end Text

end SourceTidy
