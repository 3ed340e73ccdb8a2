import SourceTidy.Java.Token

/-!
Shapes of token lists, and how a list is read against them.

A shape is data: an ordered grammar, in which the first alternative that fits is taken. Phrases are
the names of shapes and may refer to each other. Only some shapes leave a node in the tree. What is
read inside such a shape becomes the node's children, and the rest leaves no trace.
-/
namespace SourceTidy.Java.Grammar

inductive Terminal
  | symbol (text : String)
  /-- A word with this text. -/
  | keyword (text : String)
  /-- A word with another text than these. -/
  | name (barred : List String)
  | literal
  | string
  deriving Repr

def Terminal.accepts : Terminal → Token → Bool
  | symbol text, t => t.kind = .symbol && String.ofList t.text = text
  | keyword text, t => t.kind = .word && String.ofList t.text = text
  | name barred, t => t.kind = .word && !barred.contains (String.ofList t.text)
  | literal, t => t.kind = .number || t.kind = .character
  | string, t => t.kind = .string

def Terminal.nodes : Terminal → Token → List Node
  | string, t => [{ kind := "string_literal", start := t.start, stop := t.stop, text := t.text }]
  | _, _ => []

inductive Shape (Phrase : Type)
  | empty
  | token (t : Terminal)
  /-- Nothing, if the next token touches the last one. -/
  | touching
  | phrase (p : Phrase)
  | both (first second : Shape Phrase)
  | either (first second : Shape Phrase)
  | many (item : Shape Phrase)
  /-- Nothing, if the shape follows. -/
  | ahead (s : Shape Phrase)
  /-- Nothing, if the shape does not follow. -/
  | notAhead (s : Shape Phrase)
  /-- One node around what the shape leaves. -/
  | node (kind : String) (s : Shape Phrase)
  /-- A first part that goes on with any number of tails. An `adopting` tail makes one node of
  everything from the first part on, a `plain` tail leaves what stands before it as it is. -/
  | chain (first plain : Shape Phrase) (kind : String) (adopting : Shape Phrase)

structure Progress where
  rest : List Token
  /-- The number of tokens read. -/
  count : Nat
  /-- Where the last token ends. -/
  stop : Position

/-- The outcome of reading a shape: the nodes it left and the progress, if it fits. The farthest
token looked at is kept also if it does not. -/
structure Reading where
  farthest : Nat
  result : Option (List Node × Progress)

namespace Reading

def fail (p : Progress) : Reading := ⟨p.count, none⟩

def done (nodes : List Node) (p : Progress) : Reading := ⟨p.count, some (nodes, p)⟩

def andThen (r : Reading) (next : List Node → Progress → Reading) : Reading :=
  match r.result with
  | none => r
  | some (nodes, p) =>
    let s := next nodes p
    ⟨max r.farthest s.farthest, s.result⟩

def orElse (r : Reading) (other : Unit → Reading) : Reading :=
  match r.result with
  | some _ => r
  | none =>
    let s := other ()
    ⟨max r.farthest s.farthest, s.result⟩

def mapNodes (r : Reading) (f : List Node → Progress → List Node) : Reading :=
  ⟨r.farthest, r.result.map fun (nodes, p) => (f nodes p, p)⟩

/-- Reads an item as often as it fits and takes a token. -/
def repeated (item : Progress → Reading) : Nat → Progress → Reading
  | 0, p => done [] p
  | fuel + 1, p =>
    ((item p).andThen fun nodes next =>
      if next.count ≤ p.count then fail p
      else (repeated item fuel next).mapNodes fun more _ => nodes ++ more).orElse
    fun _ => done [] p

def extended (plain adopting : Progress → Reading) (wrap : List Node → Progress → Node) :
    Nat → List Node → Progress → Reading
  | 0, nodes, p => done nodes p
  | fuel + 1, nodes, p =>
    ((adopting p).andThen fun more next =>
        extended plain adopting wrap fuel [wrap (nodes ++ more) next] next).orElse fun _ =>
    ((plain p).andThen fun more next =>
        extended plain adopting wrap fuel (nodes ++ more) next).orElse fun _ =>
    done nodes p

end Reading

def Progress.start (p : Progress) : Position :=
  match p.rest with
  | t :: _ => t.start
  | [] => p.stop

def wrap (kind : String) (first : Progress) (nodes : List Node) (last : Progress) : Node :=
  { kind, start := first.start, stop := last.stop, children := nodes }

/-- Reads a shape. The fuel bounds how deep shapes lie in each other. -/
def Shape.read {Phrase : Type} (shapes : Phrase → Shape Phrase) :
    Nat → Shape Phrase → Progress → Reading
  | 0, _, p => .fail p
  | fuel + 1, shape, p =>
    match shape with
    | empty => .done [] p
    | token terminal =>
      match p.rest with
      | [] => .fail p
      | t :: rest =>
        if terminal.accepts t then .done (terminal.nodes t) ⟨rest, p.count + 1, t.stop⟩
        else .fail p
    | touching => if p.rest.head?.any (·.touches) then .done [] p else .fail p
    | phrase name => read shapes fuel (shapes name) p
    | both first second =>
      (read shapes fuel first p).andThen fun nodes next =>
        (read shapes fuel second next).mapNodes fun more _ => nodes ++ more
    | either first second =>
      (read shapes fuel first p).orElse fun _ => read shapes fuel second p
    | many item => .repeated (read shapes fuel item) p.rest.length p
    | ahead s => (read shapes fuel s p).andThen fun _ _ => .done [] p
    | notAhead s =>
      match (read shapes fuel s p).result with
      | some _ => .fail p
      | none => .done [] p
    | node kind s =>
      (read shapes fuel s p).mapNodes fun nodes last => [wrap kind p nodes last]
    | chain first plain kind adopting =>
      (read shapes fuel first p).andThen fun nodes next =>
        .extended (read shapes fuel plain) (read shapes fuel adopting) (wrap kind p)
          next.rest.length nodes next

namespace Shape

variable {Phrase : Type}

def all : List (Shape Phrase) → Shape Phrase
  | [] => empty
  | [s] => s
  | s :: rest => both s (all rest)

def any : List (Shape Phrase) → Shape Phrase
  | [] => notAhead empty
  | [s] => s
  | s :: rest => either s (any rest)

def maybe (s : Shape Phrase) : Shape Phrase := either s empty

def some (s : Shape Phrase) : Shape Phrase := both s (many s)

/-- Items with commas between them, at least one. -/
def listed (separator : Shape Phrase) (item : Shape Phrase) : Shape Phrase :=
  both item (many (both separator item))

end Shape

end SourceTidy.Java.Grammar
