import SourceTidy.Text.Basic

namespace SourceTidy.Java

/-- The tabulation policies. `mixed` differs from `tab` on continuation lines only, which the
formatter leaves alone. -/
inductive Tabulation
  | space
  | tab
  | mixed
  deriving DecidableEq, Repr

namespace Tabulation

def name : Tabulation → String
  | space => "space"
  | tab => "tab"
  | mixed => "mixed"

def all : List Tabulation := [space, tab, mixed]

def ofName? (t : Text) : Option Tabulation :=
  all.find? fun p => p.name.toList = t

/-- The policy with this name. Every name that is not a policy means tabs. -/
def ofName (t : Text) : Tabulation :=
  (ofName? t).getD tab

end Tabulation

/-- Formatter settings. The defaults hold for a profile that does not say otherwise. -/
structure Settings where
  name : Option Text := none
  tabulation : Tabulation := .tab
  tabSize : Int := 4
  blankLines : Int := 1
  sourceLevel : Option Text := none
  deriving DecidableEq, Repr

end SourceTidy.Java
