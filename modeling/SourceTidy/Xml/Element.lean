import SourceTidy.Text.Basic

/-!
Elements of XML documents. Names are expanded: a name in a namespace is preceded by the namespace in
braces. Text between elements is not kept.
-/
namespace SourceTidy.Xml

structure Element where
  name : Text
  attributes : List (Text × Text)
  children : List Element
  deriving Repr, Inhabited

namespace Element

def attribute? (e : Element) (name : Text) : Option Text :=
  e.attributes.lookup name

def childrenNamed (e : Element) (name : Text) : List Element :=
  e.children.filter (·.name = name)

/-- An element and everything below it, parents before children. -/
def subtree : Element → List Element
  | ⟨name, attributes, children⟩ =>
    ⟨name, attributes, children⟩ :: children.attach.flatMap fun ⟨c, _⟩ => c.subtree

end Element

end SourceTidy.Xml
