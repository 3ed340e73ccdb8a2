import SourceTidy.Java.Formatter
import SourceTidy.Java.Grammar.Declarations

/-!
Reads Java sources. The tree of a source has a node for each construct that the rules of the
formatter ask for, below a root for the whole source. A source that is not Java gives a root with
one error below it, at the first token that fits nowhere.
-/
namespace SourceTidy.Java

open Grammar

/-- How deep the shapes of the grammar may lie in each other between two tokens. -/
def depthPerToken : Nat := 1024

/-- Reads a whole list of tokens: the nodes, or the number of tokens before the first that fits
nowhere. -/
def readTokens (tokens : List Token) : Except Nat (List Node) :=
  let reading := Shape.read Phrase.form (depthPerToken * (tokens.length + 1))
    (.phrase .program) ⟨tokens, 0, ⟨0, 0⟩⟩
  match reading.result with
  | some (nodes, ⟨[], _, _⟩) => .ok nodes
  | _ => .error reading.farthest

def read (source : Text) : Node :=
  let tokens := Token.scan source
  let stop := Token.advance ⟨0, 0⟩ source
  match readTokens tokens with
  | .ok nodes => { kind := "program", start := ⟨0, 0⟩, stop, children := nodes }
  | .error count =>
    let place := match tokens[count]? with
      | some t => t.start
      | none => stop
    { kind := "program", start := ⟨0, 0⟩, stop, hasError := true,
      children := [{ kind := Node.errorKind, start := place, stop }] }

/-- The parser of Java sources answers alike whenever it is called. -/
def reader : Parser := fun _ source => read source

end SourceTidy.Java
