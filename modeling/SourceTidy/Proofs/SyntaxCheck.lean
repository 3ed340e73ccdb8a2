import SourceTidy.Java.Formatter
import SourceTidy.Proofs.TreeWalks

namespace SourceTidy.Java

namespace Node

/-- Every node above an error or a missing node is marked. -/
def MarksErrors (root : Node) : Prop :=
  ∀ above below n m, root.get? above = some n → n.get? below = some m → below ≠ [] →
    m.isFaulty = true → n.hasError = true

theorem marksErrors_iff {n : Node} :
    n.MarksErrors ↔ (n.hasError = false → ∀ m ∈ n.children.flatMap preorder, m.isFaulty = false) ∧
      ∀ c ∈ n.children, c.MarksErrors := by
  constructor
  · intro marked
    refine ⟨fun unmarked m member => ?_, fun c child above below p q up down => ?_⟩
    · obtain ⟨c, child, inside⟩ := List.mem_flatMap.mp member
      obtain ⟨i, there⟩ := List.mem_iff_getElem?.mp child
      obtain ⟨address, found⟩ := mem_preorder.mp inside
      rw [Bool.eq_false_iff]
      intro faulty
      have mark := marked [] (i :: address) n m rfl (get?_cons.mpr ⟨c, there, found⟩)
        (List.cons_ne_nil _ _) faulty
      rw [unmarked] at mark
      cases mark
    · obtain ⟨i, there⟩ := List.mem_iff_getElem?.mp child
      exact marked (i :: above) below p q (get?_cons.mpr ⟨c, there, up⟩) down
  · rintro ⟨here, each⟩ above below p q up down proper faulty
    cases above with
    | cons i above =>
      obtain ⟨c, there, found⟩ := get?_cons.mp up
      exact each c (List.mem_of_getElem? there) above below p q found down proper faulty
    | nil =>
      cases up
      cases below with
      | nil => exact absurd rfl proper
      | cons i address =>
        obtain ⟨c, there, found⟩ := get?_cons.mp down
        have inside := List.mem_flatMap.mpr ⟨c, List.mem_of_getElem? there,
          mem_preorder.mpr ⟨address, found⟩⟩
        cases unmarked : n.hasError with
        | true => rfl
        | false =>
          rw [here unmarked q inside] at faulty
          cases faulty

theorem marksErrors_leaf {n : Node} (leaf : n.children = []) : n.MarksErrors := by
  rw [marksErrors_iff, leaf]
  simp

/-- On a stack of marked trees, nothing is lost by leaving out what is below nodes without a
mark. -/
theorem firstFaultyOn_eq {stack : List Node} (marked : ∀ n ∈ stack, n.MarksErrors) :
    firstFaultyOn stack = (stack.flatMap preorder).find? isFaulty := by
  induction stack using firstFaultyOn.induct with
  | case1 => simp [firstFaultyOn]
  | case2 n rest faulty =>
    rw [firstFaultyOn, if_pos faulty, List.flatMap_cons, preorder_eq, List.cons_append,
      List.find?_cons_of_pos faulty]
  | case3 n rest sound opened ih =>
    obtain ⟨top, others⟩ := List.forall_mem_cons.mp marked
    have children := (marksErrors_iff.mp top).2
    rw [firstFaultyOn, if_neg sound, if_pos opened,
      ih (List.forall_mem_append.mpr ⟨children, others⟩), List.flatMap_append, List.flatMap_cons,
      preorder_eq n, List.cons_append, List.find?_cons_of_neg sound]
  | case4 n rest sound closed ih =>
    obtain ⟨top, others⟩ := List.forall_mem_cons.mp marked
    -- The children are left out here, and the missing mark says that no fault is among them.
    have clean := (marksErrors_iff.mp top).1 (by simpa using closed)
    have nothing : (n.children.flatMap preorder).find? isFaulty = none := by
      rw [List.find?_eq_none]
      exact fun m member => by simp [clean m member]
    rw [firstFaultyOn, if_neg sound, if_neg closed, ih others, List.flatMap_cons, preorder_eq n,
      List.cons_append, List.find?_cons_of_neg sound, List.find?_append, nothing, Option.none_or]

theorem firstError_eq {root : Node} (marked : root.MarksErrors) :
    root.firstError = root.preorder.find? isFaulty := by
  rw [firstError, firstFaultyOn_eq (by simpa using marked), List.flatMap_singleton]

end Node

section Format

variable {parser : Parser} {settings : Settings} {runLevel : Option Text} {text : Text}

theorem format_of_unread {fault : LevelFault}
    (unread : (effectiveLevel settings runLevel).mapM SourceLevel.ofText = .error fault)
    (rules : List Rule) :
    format parser settings rules runLevel text = ⟨.error (.rejected (.level fault)), []⟩ := by
  simp only [format, unread]

variable {level : Option Nat}
  (read : (effectiveLevel settings runLevel).mapM SourceLevel.ofText = .ok level)

include read

theorem format_of_faulty {n : Node} (found : (parser 0 (Text.lineFeeds text)).firstError = some n)
    (rules : List Rule) :
    format parser settings rules runLevel text =
      ⟨.error (.rejected (.syntaxError
        ⟨if n.isMissing then some n.kind else none, n.start.row + 1, n.start.column + 1⟩)),
        [Text.lineFeeds text]⟩ := by
  simp only [format, read, SyntaxError.ofTree?, found, Option.map_some]

theorem format_of_sound (sound : (parser 0 (Text.lineFeeds text)).firstError = none)
    (rules : List Rule) :
    (format parser settings rules runLevel text).result =
      (applyRules parser settings (level.map Int.ofNat) rules 1 (Text.lineFeeds text)
        (parser 0 (Text.lineFeeds text))).result := by
  simp only [format, read, SyntaxError.ofTree?, sound, Option.map_none]

end Format

/-- In a tree that marks its errors, the check finds the first error or missing node of the whole
tree. So a text that is parsed is refused before any rule has a say exactly if its tree has such a
node, and the refusal tells where the first one stands. Only a level that cannot be read keeps a
text from being parsed. -/
theorem firstError_exact (tree : Node) (marked : tree.MarksErrors) :
    tree.firstError = tree.preorder.find? Node.isFaulty ∧
    (tree.firstError = none ↔ ∀ n ∈ tree.preorder, n.isFaulty = false) ∧
    ∀ (parser : Parser) (settings : Settings) (runLevel : Option Text) (text : Text),
      parser 0 (Text.lineFeeds text) = tree →
      (∀ fault, (effectiveLevel settings runLevel).mapM SourceLevel.ofText = .error fault →
        ∀ rules, (format parser settings rules runLevel text).parsed = []) ∧
      ∀ level, (effectiveLevel settings runLevel).mapM SourceLevel.ofText = .ok level →
        ((∃ fault, ∀ rules, (format parser settings rules runLevel text).result = .error fault) ↔
          ∃ n ∈ tree.preorder, n.isFaulty = true) ∧
        (∀ n, tree.preorder.find? Node.isFaulty = some n → ∀ rules,
          format parser settings rules runLevel text =
            ⟨.error (.rejected (.syntaxError
              ⟨if n.isMissing then some n.kind else none, n.start.row + 1, n.start.column + 1⟩)),
              [Text.lineFeeds text]⟩) ∧
        (tree.preorder.find? Node.isFaulty = none → ∀ rules,
          (format parser settings rules runLevel text).result =
            (applyRules parser settings (level.map Int.ofNat) rules 1
              (Text.lineFeeds text) tree).result) := by
  have first := Node.firstError_eq marked
  refine ⟨first, by simp [first, List.find?_eq_none], ?_⟩
  rintro parser settings runLevel text rfl
  refine ⟨fun fault unread rules => by rw [format_of_unread unread], fun level read => ?_⟩
  rw [← first]
  refine ⟨⟨?_, ?_⟩, fun n found rules => format_of_faulty read found rules,
    fun sound rules => format_of_sound read sound rules⟩
  · -- Without rules, a text can only be refused for its tree.
    rintro ⟨fault, refused⟩
    cases found : (parser 0 (Text.lineFeeds text)).firstError with
    | none =>
      have answer := refused []
      rw [format_of_sound read found] at answer
      cases answer
    | some n =>
      rw [first] at found
      exact ⟨n, List.mem_of_find?_eq_some found, List.find?_some found⟩
  · rintro ⟨m, member, faulty⟩
    cases found : (parser 0 (Text.lineFeeds text)).firstError with
    | none =>
      rw [first, List.find?_eq_none] at found
      exact absurd faulty (found m member)
    | some n => exact ⟨_, fun rules => by rw [format_of_faulty read found]⟩

def nameAt (row column : Nat) : Node where
  kind := "identifier"
  start := ⟨row, column⟩
  stop := ⟨row, column + 1⟩

def soundClass : Node where
  kind := "class_declaration"
  start := ⟨0, 0⟩
  stop := ⟨0, 10⟩
  children := [nameAt 0 6]

def lostSemicolon : Node where
  kind := ";"
  start := ⟨1, 5⟩
  stop := ⟨1, 5⟩
  isMissing := true

def openField : Node where
  kind := "field_declaration"
  start := ⟨1, 0⟩
  stop := ⟨1, 5⟩
  hasError := true
  children := [nameAt 1 4, lostSemicolon]

def strayMark : Node where
  kind := Node.errorKind
  start := ⟨2, 0⟩
  stop := ⟨2, 1⟩

/-- The first fault is deeper in the tree than the second one, and not below the first child. -/
def twoFaults : Node where
  kind := "program"
  start := ⟨0, 0⟩
  stop := ⟨3, 0⟩
  hasError := true
  children := [soundClass, openField, strayMark]

theorem marksErrors_twoFaults : twoFaults.MarksErrors := by
  have name (row column : Nat) : (nameAt row column).MarksErrors := Node.marksErrors_leaf rfl
  have sound : soundClass.MarksErrors := by
    refine Node.marksErrors_iff.mpr ⟨fun _ => ?_, List.forall_mem_singleton.mpr (name 0 6)⟩
    simp [soundClass, nameAt, Node.preorder_eq, Node.isFaulty, Node.errorKind]
  have field : openField.MarksErrors := by
    refine Node.marksErrors_iff.mpr ⟨fun unmarked => absurd unmarked (by decide), ?_⟩
    simpa [openField] using ⟨name 1 4, Node.marksErrors_leaf rfl⟩
  refine Node.marksErrors_iff.mpr ⟨fun unmarked => absurd unmarked (by decide), ?_⟩
  simpa [twoFaults] using ⟨sound, field, Node.marksErrors_leaf rfl⟩

theorem preorder_twoFaults : twoFaults.preorder =
    [twoFaults, soundClass, nameAt 0 6, openField, nameAt 1 4, lostSemicolon, strayMark] := by
  simp [Node.preorder_eq, twoFaults, soundClass, nameAt, openField, lostSemicolon, strayMark]

theorem firstError_exact_deeper :
    twoFaults.MarksErrors ∧ twoFaults.firstError = some lostSemicolon ∧
    ∀ rules, format (fun _ _ => twoFaults) {} rules none "class A {}\rint x\r\n#\n".toList =
      ⟨.error (.rejected (.syntaxError ⟨some ";", 2, 6⟩)), ["class A {}\nint x\n#\n".toList]⟩ := by
  obtain ⟨first, _, checked⟩ := firstError_exact twoFaults marksErrors_twoFaults
  have found : twoFaults.preorder.find? Node.isFaulty = some lostSemicolon := by
    rw [preorder_twoFaults]
    rfl
  have told := (checked (fun _ _ => twoFaults) {} none "class A {}\rint x\r\n#\n".toList rfl).2
    none rfl
  have source : Text.lineFeeds "class A {}\rint x\r\n#\n".toList =
      "class A {}\nint x\n#\n".toList := by
    decide
  refine ⟨marksErrors_twoFaults, first.trans found, fun rules => ?_⟩
  rw [told.2.1 lostSemicolon found rules, source]
  rfl

end SourceTidy.Java
