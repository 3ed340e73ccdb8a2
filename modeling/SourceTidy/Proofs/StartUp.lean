import SourceTidy.Proofs.FileFaults
import SourceTidy.Proofs.Formatting
import SourceTidy.Proofs.ProfileFormats
import SourceTidy.Registry

/-!
What a started formatter can answer.

Starting checks the sizes of the profile and the source level that will hold. After it, formatting
gives a text, or refuses one for an error in its syntax or for a construct that the level lacks.
Here texts are of any length, so that every indentation can be written, however wide.
-/
namespace SourceTidy

namespace Java

namespace Indentation

theorem reindentFrom_total {settings : Settings} (positive : 1 ≤ settings.tabSize)
    (isProtected : Nat → Bool) (row : Nat) (ls : List Text) :
    ∃ out, reindentFrom settings isProtected row ls = some out := by
  induction ls generalizing row with
  | nil => exact ⟨[], rfl⟩
  | cons l ls ih =>
    obtain ⟨rest, tail⟩ := ih (row + 1)
    obtain ⟨l', head, _⟩ := reindent_total positive l
    rw [reindentFrom_eq, tail]
    by_cases kept : isProtected row = true
    · exact ⟨l :: rest, by simp [kept]⟩
    · exact ⟨l' :: rest, by simp [kept, head]⟩

end Indentation

/-- Only the rule on levels refuses a source. -/
theorem Rule.apply_total {settings : Settings} (positive : 1 ≤ settings.tabSize)
    (level : Option Int) {rule : Rule} (other : rule ≠ .sourceLevel) (source : Text) (tree : Node) :
    ∃ next, rule.apply settings level source tree = .ok next := by
  cases rule with
  | sourceLevel => exact absurd rfl other
  | indentation =>
    obtain ⟨ls, done⟩ := Indentation.reindentFrom_total positive
      (fun row => tree.stringRows.contains row) 0 (Text.lines source)
    exact ⟨Text.unlines ls, by simp only [Rule.apply, Indentation.apply, done, Option.map_some]⟩
  | trailingBlanks => exact ⟨_, rfl⟩
  | blankLines => exact ⟨_, rfl⟩

theorem applyRules_levelled (parser : Parser) (settings : Settings) (level : Option Int)
    (rules : List Rule) (calls : Nat) (source : Text) (tree : Node) :
    (applyRules parser settings level (.sourceLevel :: rules) calls source tree).result =
      match level.bind (SourceLevel.check · tree) with
      | some found => .error (.rejected (.anachronism found))
      | none => (applyRules parser settings level rules calls source tree).result := by
  simp only [applyRules, Rule.apply]
  cases level.bind (SourceLevel.check · tree) <;> simp

namespace Profile

end Profile

end Java

open Java

def narrow : Configuration where
  profile := some ⟨.root, ["f.prefs"]⟩
  sourceLevel := some "17".toList

end SourceTidy
