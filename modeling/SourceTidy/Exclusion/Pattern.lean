import SourceTidy.Text.Quoted
import SourceTidy.Text.Space

/-!
Exclude patterns, with the rules of ignore files: `*` and `?` stay within a component, `**` crosses
components, a slash at the end means directories, a leading `!` takes an exclusion back.

A pattern is read into a list of pieces that is matched from the left. A piece takes characters of a
class, or is a condition on the end. A pattern that is not anchored may match anywhere.
-/
namespace SourceTidy.Exclusion

structure Range where
  low : Char
  high : Char
  deriving DecidableEq, Repr

inductive CharClass
  | exactly (c : Char)
  | notSlash
  | notLineFeed
  | member (negated : Bool) (ranges : List Range)
  deriving DecidableEq, Repr

def CharClass.holds : CharClass → Char → Bool
  | exactly c, x => x = c
  | notSlash, x => x != '/'
  | notLineFeed, x => x != '\n'
  | member negated ranges, x => (ranges.any fun r => r.low ≤ x && x ≤ r.high) != negated

inductive Piece
  | one (cls : CharClass)
  | many (cls : CharClass)
  | option (pieces : List Piece)
  | finish
  | slashOrFinish
  deriving Repr

def Piece.size : Piece → Nat
  | .option pieces => 1 + pieces.attach.foldr (fun ⟨p, _⟩ n => p.size + n) 0
  | _ => 1

def sizes (pieces : List Piece) : Nat :=
  pieces.foldr (fun p n => p.size + n) 0

theorem sizes_append (ps qs : List Piece) : sizes (ps ++ qs) = sizes ps + sizes qs := by
  induction ps with
  | nil => simp [sizes]
  | cons p ps ih =>
    simp only [sizes, List.cons_append, List.foldr_cons] at ih ⊢
    rw [ih, Nat.add_assoc]

theorem sizes_cons (p : Piece) (ps : List Piece) : sizes (p :: ps) = p.size + sizes ps := by
  simp [sizes]

theorem size_option (ps : List Piece) : (Piece.option ps).size = 1 + sizes ps := by
  simp [Piece.size, sizes]

theorem size_pos (p : Piece) : 0 < p.size := by
  cases p <;> simp only [Piece.size] <;> omega

theorem sizes_lt_cons (p : Piece) (ps : List Piece) : sizes ps < sizes (p :: ps) := by
  have := size_pos p
  rw [sizes_cons]
  omega

/-- The end of the text, or the line feed that ends it. -/
def isFinish : Text → Bool
  | [] => true
  | ['\n'] => true
  | _ => false

/-- The pieces match a start of the text. -/
def accepts (pieces : List Piece) (t : Text) : Bool :=
  match pieces with
  | [] => true
  | .one cls :: rest =>
    match t with
    | [] => false
    | c :: t' => cls.holds c && accepts rest t'
  | .many cls :: rest =>
    accepts rest t ||
      match t with
      | [] => false
      | c :: t' => cls.holds c && accepts (.many cls :: rest) t'
  | .option inner :: rest => accepts (inner ++ rest) t || accepts rest t
  | .finish :: rest => isFinish t && accepts rest t
  | .slashOrFinish :: rest =>
    match t with
    | '/' :: t' => accepts rest t'
    | _ => isFinish t && accepts rest t
termination_by (sizes pieces, t.length)
decreasing_by
  · exact Prod.Lex.left _ _ (sizes_lt_cons _ _)
  · exact Prod.Lex.left _ _ (sizes_lt_cons _ _)
  · exact Prod.Lex.right _ (Nat.lt_succ_self _)
  · exact Prod.Lex.left _ _ (by rw [sizes_append, sizes_cons, size_option]; omega)
  · exact Prod.Lex.left _ _ (sizes_lt_cons _ _)
  · exact Prod.Lex.left _ _ (sizes_lt_cons _ _)
  · exact Prod.Lex.left _ _ (sizes_lt_cons _ _)
  · exact Prod.Lex.left _ _ (sizes_lt_cons _ _)

structure Pattern where
  negated : Bool
  anchored : Bool
  pieces : List Piece
  deriving Repr

def acceptsAnywhere (pieces : List Piece) : Text → Bool
  | [] => accepts pieces []
  | c :: rest => accepts pieces (c :: rest) || acceptsAnywhere pieces rest

def Pattern.matches (p : Pattern) (t : Text) : Bool :=
  if p.anchored then accepts p.pieces t else acceptsAnywhere p.pieces t

inductive PatternFault
  | malformed (pattern : Text)
  | reversedRange
  deriving DecidableEq, Repr

/-- The contents of a bracket expression as ranges. A hyphen between two characters makes a range,
and stands for itself at the ends. -/
def rangesOf : Text → List Range
  | [] => []
  | a :: '-' :: b :: rest => ⟨a, b⟩ :: rangesOf rest
  | a :: rest => ⟨a, a⟩ :: rangesOf rest

/-- The text of a bracket expression up to its closing bracket, and what follows. A closing bracket
in first place does not close. -/
def bracket? (t : Text) : Option (Text × Text) :=
  let close := fun (front : Text) (t : Text) =>
    match t.dropWhile (· != ']') with
    | [] => none
    | _ :: rest => some (front ++ t.takeWhile (· != ']'), rest)
  match t with
  | ']' :: t' => close [']'] t'
  | _ => close [] t

def negation : Text → Bool × Text
  | '!' :: t => (true, t)
  | '^' :: t => (true, t)
  | t => (false, t)

/-- The pieces of one component. `skip` characters belong to a bracket expression that has been
read. A backslash at the end escapes nothing, and there is no such pattern. -/
def globFrom : Nat → Text → Option (List Piece)
  | _, [] => some []
  | skip + 1, _ :: rest => globFrom skip rest
  | 0, '\\' :: [] => none
  | 0, '\\' :: c :: rest => (globFrom 0 rest).map (.one (.exactly c) :: ·)
  | 0, '*' :: rest => (globFrom 0 rest).map (.many .notSlash :: ·)
  | 0, '?' :: rest => (globFrom 0 rest).map (.one .notSlash :: ·)
  | 0, '[' :: rest =>
    let (negated, inner) := negation rest
    match bracket? inner with
    | none => (globFrom 0 rest).map (.one (.exactly '[') :: ·)
    | some (content, after) =>
      (globFrom (rest.length - after.length) rest).map
        (.one (.member negated (rangesOf content)) :: ·)
  | 0, c :: rest => (globFrom 0 rest).map (.one (.exactly c) :: ·)

/-- Of consecutive double stars one remains. -/
def mergeStars : List Text → List Text
  | ['*', '*'] :: ['*', '*'] :: rest => mergeStars (['*', '*'] :: rest)
  | s :: rest => s :: mergeStars rest
  | [] => []

def finishOf (component : Text) : List Piece :=
  if component = ['*'] then [.option [.one (.exactly '/')], .finish] else [.slashOrFinish]

def componentPieces (slash last : Bool) (component : Text) : Option (List Piece) := do
  let body ←
    if component = ['*'] then some [.one .notSlash, .many .notSlash] else globFrom 0 component
  return (if slash then [.one (.exactly '/')] else []) ++ body ++
    (if last then finishOf component else [])

/-- The pieces of the components after the first one. `slash` tells that a slash must come next. -/
def restPieces (slash : Bool) : List Text → Option (List Piece)
  | [] => some []
  | [component] =>
    if component = ['*', '*'] then some [.one (.exactly '/')]
    else componentPieces slash true component
  | component :: rest => do
    let here ←
      if component = ['*', '*'] then
        some [.option [.one (.exactly '/'), .one .notLineFeed, .many .notLineFeed]]
      else componentPieces slash false component
    return here ++ (← restPieces true rest)

/-- The pieces of all components. A leading double star takes any directories. -/
def allPieces : List Text → Option (List Piece)
  | ['*', '*'] :: rest => do
    let lead := Piece.option [.one .notLineFeed, .many .notLineFeed, .one (.exactly '/')]
    return lead :: (← restPieces false rest)
  | components => restPieces false components

/-- The components that a pattern without slashes inside is completed to: it may match at any
depth. -/
def complete : List Text → List Text
  | [] => []
  | [] :: rest => rest
  | [first] => if first = ['*', '*'] then [first] else [['*', '*'], first]
  | [first, []] => if first = ['*', '*'] then [first, []] else [['*', '*'], first, []]
  | components => components

/-- A slash at the end stands for everything below. -/
def closeDirectory (components : List Text) : List Text :=
  if components.getLast? = some [] then components.dropLast ++ [['*', '*']] else components

def anywhere (cls : CharClass) : Option (Bool × List Piece) :=
  some (false, [.one cls])

/-- Reads the components of a pattern: whether it is anchored, and its pieces. -/
def readComponents (isDirectory : Bool) (components : List Text) : Option (Bool × List Piece) :=
  match mergeStars (closeDirectory components) with
  | [] => none
  | [['*', '*']] => anywhere (if isDirectory then .exactly '/' else .notLineFeed)
  | [['*', '*'], ['*']] => anywhere .notLineFeed
  | [['*', '*'], ['*'], ['*', '*']] => anywhere (.exactly '/')
  | components => (allPieces components).map (true, ·)

mutual

def Piece.isOrdered : Piece → Bool
  | .one (.member _ ranges) => ranges.all fun r => r.low ≤ r.high
  | .many (.member _ ranges) => ranges.all fun r => r.low ≤ r.high
  | .option pieces => areOrdered pieces
  | _ => true

def areOrdered : List Piece → Bool
  | [] => true
  | p :: rest => p.isOrdered && areOrdered rest

end

/-- The pattern without white space at its end. An escaped space at the end stays, and all before
it. -/
def tidy (pattern : Text) : Text :=
  if [' ', '\\'].isPrefixOf pattern.reverse then pattern else Text.stripRight pattern

/-- Reads a pattern. Comments and empty patterns are none. -/
def Pattern.ofText (pattern : Text) : Except PatternFault (Option Pattern) :=
  let read := fun (negated : Bool) (body : Text) =>
    let components := Text.splitAt '/' body
    let isDirectory := components.getLast? = some [] && body != ['/']
    match readComponents isDirectory (complete components) with
    | none => .error (.malformed pattern)
    | some (anchored, pieces) =>
      if areOrdered pieces then .ok (some ⟨negated, anchored, pieces⟩)
      else .error .reversedRange
  match tidy pattern with
  | [] => .ok none
  | '#' :: _ => .ok none
  | '!' :: body => read true body
  | body => read false body

end SourceTidy.Exclusion
