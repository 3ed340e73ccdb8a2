import SourceTidy.Proofs.StartUp
import SourceTidy.Proofs.TreeWalks

namespace SourceTidy.Java

/-- A node is a construct by its kind, or as a string literal that opens with three quotation
marks. -/
inductive Construct.IsOf (n : Node) : Construct → Prop
  | kind {c : Construct} (listed : (n.kind, c) ∈ kinds) : IsOf n c
  | quoted (literal : n.kind = "string_literal") (opens : ['"', '"', '"'] <+: n.text) :
      IsOf n textBlocks

def Exceeds (level : Int) (n : Node) (c : Construct) : Prop :=
  c.IsOf n ∧ level < c.minimum

structure IsFirstExceeding (level : Int) (tree n : Node) (c : Construct) : Prop where
  exceeds : Exceeds level n c
  first : ∃ before after, tree.preorder = before ++ n :: after ∧ ∀ m ∈ before, ∀ d,
    ¬ Exceeds level m d

/-- Whatever the first level allows, the second one allows. Without a level everything is
allowed. -/
def NoStricter (level level' : Option Int) : Prop :=
  ∀ later ∈ level', ∃ earlier ∈ level, earlier ≤ later

namespace Construct

theorem lookup_kinds {kind : String} {c : Construct} :
    kinds.lookup kind = some c ↔ (kind, c) ∈ kinds := by
  constructor
  · intro found
    obtain ⟨before, after, split, _⟩ := List.lookup_eq_some_iff.mp found
    simp [split]
  · intro listed
    simp only [kinds, List.mem_cons, Prod.mk.injEq, List.not_mem_nil, or_false] at listed
    rcases listed with ⟨rfl, rfl⟩ | ⟨rfl, rfl⟩ | ⟨rfl, rfl⟩ | ⟨rfl, rfl⟩ | ⟨rfl, rfl⟩ | ⟨rfl, rfl⟩ |
      ⟨rfl, rfl⟩ | ⟨rfl, rfl⟩ <;> rfl

theorem ofNode?_eq_some_iff {n : Node} {c : Construct} : ofNode? n = some c ↔ c.IsOf n := by
  have unlisted : kinds.lookup "string_literal" = none := by decide
  rw [ofNode?]
  split
  · rename_i quoted
    rw [Bool.and_eq_true, decide_eq_true_eq, List.isPrefixOf_iff_prefix] at quoted
    constructor
    · intro same
      cases same
      exact .quoted quoted.1 quoted.2
    · rintro (listed | _)
      · rw [← lookup_kinds, quoted.1, unlisted] at listed
        cases listed
      · rfl
  · rename_i unquoted
    rw [Bool.and_eq_true, decide_eq_true_eq, List.isPrefixOf_iff_prefix] at unquoted
    rw [lookup_kinds]
    constructor
    · exact .kind
    · rintro (listed | ⟨literal, opens⟩)
      · exact listed
      · exact absurd ⟨literal, opens⟩ unquoted

end Construct

namespace SourceLevel

theorem anachronism_eq_some_iff {level : Int} {n : Node} {found : Anachronism} :
    anachronism? level n = some found ↔ ∃ c, Exceeds level n c ∧
    found = ⟨c, n.start.row, level⟩ := by
  simp only [anachronism?, Option.bind_eq_some_iff, Construct.ofNode?_eq_some_iff, Exceeds]
  constructor
  · rintro ⟨c, is, lacking⟩
    split at lacking
    · rename_i later
      exact ⟨c, ⟨is, later⟩, (Option.some.inj lacking).symm⟩
    · cases lacking
  · rintro ⟨c, ⟨is, later⟩, rfl⟩
    exact ⟨c, is, if_pos later⟩

theorem anachronism_eq_none_iff {level : Int} {n : Node} :
    anachronism? level n = none ↔ ∀ c, ¬ Exceeds level n c := by
  rw [Option.eq_none_iff_forall_ne_some]
  simp only [ne_eq, anachronism_eq_some_iff]
  constructor
  · exact fun clear c exceeds => clear _ ⟨c, exceeds, rfl⟩
  · rintro never _ ⟨c, exceeds, _⟩
    exact never c exceeds

theorem check_eq_some_iff {level : Int} {tree : Node} {found : Anachronism} :
    check level tree = some found ↔
      ∃ n c, IsFirstExceeding level tree n c ∧ found = ⟨c, n.start.row, level⟩ := by
  rw [check, Node.nodes_eq_preorder, List.findSome?_eq_some_iff]
  simp only [anachronism_eq_some_iff, anachronism_eq_none_iff]
  constructor
  · rintro ⟨before, n, after, split, ⟨c, exceeds, rfl⟩, clear⟩
    exact ⟨n, c, ⟨exceeds, before, after, split, clear⟩, rfl⟩
  · rintro ⟨n, c, ⟨exceeds, before, after, split, never⟩, rfl⟩
    exact ⟨before, n, after, split, ⟨c, exceeds, rfl⟩, never⟩

theorem check_eq_none_iff {level : Int} {tree : Node} :
    check level tree = none ↔ ∀ n ∈ tree.preorder, ∀ c, ¬ Exceeds level n c := by
  rw [check, Node.nodes_eq_preorder, List.findSome?_eq_none_iff]
  simp only [anachronism_eq_none_iff]

theorem check_later {level later : Int} (order : level ≤ later) {tree : Node}
    (passed : check level tree = none) : check later tree = none := by
  rw [check_eq_none_iff] at passed ⊢
  intro n member c exceeds
  exact passed n member c ⟨exceeds.1, Int.lt_of_le_of_lt order exceeds.2⟩

end SourceLevel

theorem Indentation.reindentFrom_own (settings : Settings) (own : Option Text)
    (isProtected : Nat → Bool) (row : Nat) (ls : List Text) :
    reindentFrom { settings with sourceLevel := own } isProtected row ls =
      reindentFrom settings isProtected row ls := by
  induction ls generalizing row with
  | nil => rfl
  | cons l ls ih =>
    rw [reindentFrom_eq, reindentFrom_eq, ih]
    rfl

section Later

variable {parser : Parser} {settings : Settings} {level level' : Option Int}
  (order : NoStricter level level') (own : Option Text)

include order

theorem Rule.apply_later {rule : Rule} {source next : Text} {tree : Node}
    (done : rule.apply settings level source tree = .ok next) :
    rule.apply { settings with sourceLevel := own } level' source tree = .ok next := by
  cases rule with
  | trailingBlanks | blankLines => exact done
  | indentation =>
    simp only [Rule.apply, Indentation.apply, Indentation.reindentFrom_own] at done ⊢
    exact done
  | sourceLevel =>
    cases level' with
    | none =>
      simp only [Rule.apply] at done ⊢
      split at done
      · cases done
      · exact done
    | some later =>
      obtain ⟨earlier, rfl, below⟩ := order later rfl
      simp only [Rule.apply, Option.bind_some] at done ⊢
      split at done
      · cases done
      · rename_i passed
        rw [SourceLevel.check_later below passed]
        exact done

/-- Neither a rule nor the parser is told the level, so both runs go through the same sources. -/
theorem applyRules_later {rules : List Rule} {calls : Nat} {source out : Text} {tree : Node}
    (done : (applyRules parser settings level rules calls source tree).result = .ok out) :
    applyRules parser { settings with sourceLevel := own } level' rules calls source tree =
      applyRules parser settings level rules calls source tree := by
  induction rules generalizing calls source tree with
  | nil => rfl
  | cons rule rules ih =>
    simp only [applyRules] at done ⊢
    cases first : rule.apply settings level source tree with
    | error fault => simp [first] at done
    | ok next =>
      rw [first] at done
      rw [Rule.apply_later order own first]
      dsimp only at done ⊢
      split at done
      · rename_i same
        rw [if_pos same, if_pos same, ih done]
      · rename_i changed
        rw [if_neg changed, if_neg changed, ih done]

end Later

theorem format_later {parser : Parser} {settings : Settings} {rules : List Rule}
    {run run' own : Option Text} {level : Nat} {level' : Option Nat} {text out : Text}
    (read : (effectiveLevel settings run).mapM SourceLevel.ofText = .ok (some level))
    (read' : (effectiveLevel { settings with sourceLevel := own } run').mapM SourceLevel.ofText =
      .ok level')
    (order : ∀ later ∈ level', level ≤ later)
    (done : (format parser settings rules run text).result = .ok out) :
    format parser { settings with sourceLevel := own } rules run' text =
      format parser settings rules run text := by
  have looser : NoStricter (some (level : Int)) (level'.map Int.ofNat) := by
    intro later member
    obtain ⟨n, given, rfl⟩ := Option.mem_map.mp member
    exact ⟨level, rfl, Int.ofNat_le.mpr (order n given)⟩
  simp only [format, read, read', Option.map_some] at done ⊢
  cases faulty : SyntaxError.ofTree? (parser 0 (Text.lineFeeds text)) with
  | some error => rfl
  | none =>
    rw [faulty] at done
    dsimp only at done ⊢
    rw [applyRules_later looser own done]
    rfl

/-- The check of levels is exact and names the first construct that is too new. A later level, or
none, lets every text through that an earlier one let through, and changes nothing else. -/
theorem levels_exact_monotone :
    (∀ settings level source tree,
      ((∃ fault, Rule.sourceLevel.apply settings (some level) source tree = .error fault) ↔
        ∃ n ∈ tree.preorder, ∃ c, Exceeds level n c) ∧
      (∀ fault, Rule.sourceLevel.apply settings (some level) source tree = .error fault →
        ∃ n c, IsFirstExceeding level tree n c ∧
          fault = .rejected (.anachronism ⟨c, n.start.row, level⟩) ∧
          ∀ wording, Rejection.message wording (.anachronism ⟨c, n.start.row, level⟩) =
            c.label ++ " require source level " ++ Numeral.ofNat c.minimum ++ " or later (line " ++
              Numeral.ofNat (n.start.row + 1) ++ ", source level " ++ Numeral.ofInt level ++ ")") ∧
      ∀ next, Rule.sourceLevel.apply settings (some level) source tree = .ok next → next = source) ∧
    ∀ (parser : Parser) (settings : Settings) (rules : List Rule) (run run' own : Option Text)
      (level : Nat) (level' : Option Nat) (text out : Text),
      (effectiveLevel settings run).mapM SourceLevel.ofText = .ok (some level) →
      (effectiveLevel { settings with sourceLevel := own } run').mapM SourceLevel.ofText =
        .ok level' →
      (∀ later ∈ level', level ≤ later) →
      (format parser settings rules run text).result = .ok out →
      (format parser { settings with sourceLevel := own } rules run' text).result = .ok out ∧
        (format parser { settings with sourceLevel := own } rules run' text).parsed =
          (format parser settings rules run text).parsed := by
  refine ⟨?_, ?_⟩
  · intro settings level source tree
    simp only [Rule.apply, Option.bind_some]
    cases refused : SourceLevel.check level tree with
    | none =>
      rw [SourceLevel.check_eq_none_iff] at refused
      refine ⟨by simpa using refused, by simp, by simp⟩
    | some found =>
      obtain ⟨n, c, first, rfl⟩ := SourceLevel.check_eq_some_iff.mp refused
      obtain ⟨before, after, split, _⟩ := first.first
      refine ⟨⟨fun _ => ⟨n, by simp [split], c, first.exceeds⟩, fun _ => ⟨_, rfl⟩⟩, ?_, by simp⟩
      intro fault same
      cases same
      exact ⟨n, c, first, rfl, fun _ => rfl⟩
  · intro parser settings rules run run' own level level' text out read read' order done
    rw [format_later read read' order done]
    exact ⟨done, rfl⟩

def innerLambda : Node where
  kind := "lambda_expression"
  start := ⟨2, 0⟩
  stop := ⟨2, 8⟩

def outerGenerics : Node where
  kind := "type_arguments"
  start := ⟨1, 4⟩
  stop := ⟨2, 9⟩
  children := [innerLambda]

def lastBlock : Node where
  kind := "string_literal"
  start := ⟨3, 0⟩
  stop := ⟨3, 6⟩
  text := "\"\"\"\"\"\"".toList

def layered : Node where
  kind := "program"
  start := ⟨0, 0⟩
  stop := ⟨4, 0⟩
  children := [outerGenerics, lastBlock]

theorem nodes_layered : layered.nodes = [layered, outerGenerics, innerLambda, lastBlock] := by
  simp [Node.nodes, Node.nodesOn, layered, outerGenerics, innerLambda, lastBlock]

theorem check_layered : SourceLevel.check 5 layered = some ⟨.lambdas, 2, 5⟩ ∧
    SourceLevel.check (Int.ofNat 15) layered = none := by
  rw [SourceLevel.check, SourceLevel.check, nodes_layered]
  decide

theorem format_layered :
    (format (fun _ _ => layered) {} Rule.all (some "1.15".toList) "x \n".toList).result =
      .ok "x\n".toList := by
  have read : (effectiveLevel {} (some "1.15".toList)).mapM SourceLevel.ofText = .ok (some 15) :=
    rfl
  have accepted : SyntaxError.ofTree? layered = none := by cbv
  have source : Text.lineFeeds "x \n".toList = "x \n".toList := by decide
  have rows : layered.stringRows = [] := by
    rw [Node.stringRows, nodes_layered]
    decide
  simp only [format, read, source, accepted, Rule.all, applyRules_levelled, Option.map_some,
    Option.bind_some]
  rw [check_layered.2]
  simp only [applyRules, Rule.apply, rows]
  decide

/-- At level 5 the lambda inside the type arguments is the first that is too new. At level 15
nothing is, and a later level of the profile or no level at all gives the same text. -/
theorem levels_exact_monotone_layered :
    Rule.sourceLevel.apply {} (some 5)
    [] layered = .error (.rejected (.anachronism ⟨.lambdas, 2, 5⟩)) ∧
    (∃ n ∈ layered.preorder, ∃ c, Exceeds 5 n c) ∧
    (format (fun _ _ => layered) {} Rule.all (some "1.15".toList) "x \n".toList).result =
      .ok "x\n".toList ∧
    (format (fun _ _ => layered) { sourceLevel := some "21".toList } Rule.all
      none "x \n".toList).result =
      .ok "x\n".toList ∧
    (format (fun _ _ => layered) {} Rule.all none "x \n".toList).result = .ok "x\n".toList := by
  have refused : Rule.sourceLevel.apply {} (some 5) [] layered =
      .error (.rejected (.anachronism ⟨.lambdas, 2, 5⟩)) := by
    simp only [Rule.apply, Option.bind_some, check_layered.1]
  obtain ⟨certain, monotone⟩ := levels_exact_monotone
  have later := monotone (fun _ _ => layered) {} Rule.all (some "1.15".toList) none
  exact ⟨refused, (certain {} 5 [] layered).1.mp ⟨_, refused⟩, format_layered,
    (later (some "21".toList) 15 (some 21) _ _ rfl rfl (by decide) format_layered).1,
    (later none 15 none _ _ rfl rfl (by decide) format_layered).1⟩

end SourceTidy.Java
