import Mathlib.Data.List.Perm.Subperm
import SourceTidy.Files.RealPath
import SourceTidy.Proofs.FileTree

/-!
Where paths lead.

`Leads` says what following components comes to, with the number of links on the way. Looking up a
path agrees with it up to the greatest number of links. In a tree the real path of a path is the
location that it leads to, and more files beside the old ones do not lead it elsewhere.
-/
namespace SourceTidy.FileSystem

structure Passable (part : String) : Prop where
  inward : part ≠ "."
  notUp : part ≠ ".."
  short : part.utf8ByteSize ≤ maxNameSize

theorem Proper.passable {name : String} (proper : Proper name) : Passable name :=
  ⟨proper.inward, proper.notUp, proper.short⟩

/-- Components lead from one location to another, through `n` links. -/
inductive Leads (fs : FileSystem) : Location → List String → Location → Nat → Prop
  | done (here : Location) : Leads fs here [] here 0
  | stay {here loc : Location} {part : String} {rest : List String} {n : Nat} :
      fs.get? here = some .directory → part = "." → Leads fs here rest loc n →
      Leads fs here (part :: rest) loc n
  | up {here loc : Location} {part : String} {rest : List String} {n : Nat} :
      fs.get? here = some .directory → part = ".." → Leads fs here.dropLast rest loc n →
      Leads fs here (part :: rest) loc n
  | enter {here loc : Location} {part : String} {rest : List String} {entry : Entry} {n : Nat} :
      fs.get? here = some .directory → Passable part → fs.get? (here ++ [part]) = some entry →
      (∀ target, entry ≠ .link target) → Leads fs (here ++ [part]) rest loc n →
      Leads fs here (part :: rest) loc n
  | follow {here loc : Location} {part : String} {rest : List String} {target : Text} {n : Nat} :
      fs.get? here = some .directory → Passable part →
      fs.get? (here ++ [part]) = some (.link target) →
      Leads fs (startOf (Path.anchorOf target) here) (linkParts target ++ rest) loc n →
      Leads fs here (part :: rest) loc (n + 1)

section Lookup

variable {fs : FileSystem} {here loc : Location} {rest : List String} {part : String} {links : Nat}
  {follow : Bool}

theorem resolveFrom_stay (there : fs.get? here = some .directory) (dot : part = ".") :
    fs.resolveFrom follow links here (part :: rest) = fs.resolveFrom follow links here rest := by
  rw [resolveFrom, there]
  simp [dot]

theorem resolveFrom_up (there : fs.get? here = some .directory) (dots : part = "..") :
    fs.resolveFrom follow links here (part :: rest) =
      fs.resolveFrom follow links here.dropLast rest := by
  rw [resolveFrom, there]
  simp [dots]

theorem resolveFrom_enter {entry : Entry} (there : fs.get? here = some .directory)
    (passable : Passable part) (found : fs.get? (here ++ [part]) = some entry)
    (plain : ∀ target, entry ≠ .link target) :
    fs.resolveFrom follow links here (part :: rest) =
      fs.resolveFrom follow links (here ++ [part]) rest := by
  rw [resolveFrom, there]
  simp only [passable.inward, passable.notUp, Nat.not_lt.mpr passable.short, if_false, found]

theorem resolveFrom_follow {target : Text} (there : fs.get? here = some .directory)
    (passable : Passable part) (found : fs.get? (here ++ [part]) = some (.link target))
    (followed : rest ≠ [] ∨ follow = true) :
    fs.resolveFrom follow (links + 1) here (part :: rest) =
      fs.resolveFrom follow links (startOf (Path.anchorOf target) here)
      (linkParts target ++ rest) := by
  have goes_on : (decide (rest = []) && !follow) = false := by
    rcases followed with further | yes
    · simp [further]
    · simp [yes]
  rw [resolveFrom, there]
  simp only [passable.inward, passable.notUp, Nat.not_lt.mpr passable.short, if_false, found,
    goes_on, Bool.false_eq_true]

theorem resolveFrom_link {target : Text} (there : fs.get? here = some .directory)
    (passable : Passable part) (found : fs.get? (here ++ [part]) = some (.link target)) :
    fs.resolveFrom false links here [part] = .ok (here ++ [part]) := by
  rw [resolveFrom, there]
  simp [passable.inward, passable.notUp, Nat.not_lt.mpr passable.short, found]

theorem leads_of_resolveFrom {parts : List String}
    (found : fs.resolveFrom true links here parts = .ok loc) :
    ∃ n, n ≤ links ∧ fs.Leads here parts loc n := by
  fun_induction resolveFrom fs true links here parts with
  | case1 links here =>
    cases found
    exact ⟨0, Nat.zero_le links, .done loc⟩
  | case2 | case5 | case6 | case8 | case11 => cases found
  | case3 links here rest there ih =>
    obtain ⟨n, few, leads⟩ := ih found
    exact ⟨n, few, .stay there rfl leads⟩
  | case4 links here rest there _ ih =>
    obtain ⟨n, few, leads⟩ := ih found
    exact ⟨n, few, .up there rfl leads⟩
  | case7 _ _ _ _ _ _ _ _ _ _ stops => simp at stops
  | case9 here part rest there inward notUp short target link _ left ih =>
    obtain ⟨n, few, leads⟩ := ih found
    exact ⟨n + 1, by omega, .follow there ⟨inward, notUp, Nat.le_of_not_lt short⟩ link leads⟩
  | case10 links here part rest there inward notUp short entry plain look ih =>
    obtain ⟨n, few, leads⟩ := ih found
    exact ⟨n, few, .enter there ⟨inward, notUp, Nat.le_of_not_lt short⟩ look plain leads⟩

theorem Leads.resolveFrom {parts : List String} {n : Nat} (leads : fs.Leads here parts loc n)
    (few : n ≤ links) : fs.resolveFrom true links here parts = .ok loc := by
  induction leads generalizing links with
  | done here => rw [FileSystem.resolveFrom]
  | stay there dot _ ih =>
    rw [resolveFrom_stay there dot]
    exact ih few
  | up there dots _ ih =>
    rw [resolveFrom_up there dots]
    exact ih few
  | enter there passable found plain _ ih =>
    rw [resolveFrom_enter there passable found plain]
    exact ih few
  | follow there passable found _ ih =>
    obtain ⟨left, rfl⟩ : ∃ left, links = left + 1 := ⟨links - 1, by omega⟩
    rw [resolveFrom_follow there passable found (.inr rfl)]
    exact ih (by omega)

theorem Leads.resolveFrom_last {parts : List String} {n : Nat} (leads : fs.Leads here parts loc n)
    (few : n ≤ links) (last : String) :
    ∃ left, fs.resolveFrom false links here (parts ++ [last]) =
      fs.resolveFrom false left loc [last] := by
  induction leads generalizing links with
  | done here => exact ⟨links, rfl⟩
  | stay there dot _ ih =>
    rw [List.cons_append, resolveFrom_stay there dot]
    exact ih few
  | up there dots _ ih =>
    rw [List.cons_append, resolveFrom_up there dots]
    exact ih few
  | enter there passable found plain _ ih =>
    rw [List.cons_append, resolveFrom_enter there passable found plain]
    exact ih few
  | follow there passable found _ ih =>
    obtain ⟨left, rfl⟩ : ∃ left, links = left + 1 := ⟨links - 1, by omega⟩
    rw [List.cons_append, resolveFrom_follow there passable found (.inl (by simp)),
      ← List.append_assoc]
    exact ih (by omega)

end Lookup

section Journeys

variable {fs : FileSystem} {here mid loc : Location} {parts more : List String} {m n : Nat}

theorem Leads.append (first : fs.Leads here parts mid m) (second : fs.Leads mid more loc n) :
    fs.Leads here (parts ++ more) loc (m + n) := by
  induction first with
  | done here => simpa using second
  | stay there dot _ ih => exact .stay there dot (ih second)
  | up there dots _ ih => exact .up there dots (ih second)
  | enter there passable found plain _ ih => exact .enter there passable found plain (ih second)
  | follow there passable found _ ih =>
    have rest := ih second
    rw [List.append_assoc] at rest
    rw [Nat.add_right_comm]
    exact .follow there passable found rest

theorem Leads.split {all : List String} (leads : fs.Leads here all loc n)
    (cut : all = parts ++ more) :
    ∃ mid k l, fs.Leads here parts mid k ∧ fs.Leads mid more loc l ∧ n = k + l := by
  induction leads generalizing parts with
  | done here =>
    obtain ⟨rfl, rfl⟩ := List.append_eq_nil_iff.mp cut.symm
    exact ⟨here, 0, 0, .done here, .done here, rfl⟩
  | @stay here loc _ rest n there dot later ih =>
    cases parts with
    | nil =>
      obtain rfl : _ = more := cut
      exact ⟨here, 0, n, .done here, .stay there dot later, by simp⟩
    | cons part parts =>
      obtain ⟨rfl, tail⟩ := List.cons.inj cut
      obtain ⟨mid, k, l, first, second, total⟩ := ih tail
      exact ⟨mid, k, l, .stay there dot first, second, total⟩
  | @up here loc _ rest n there dots later ih =>
    cases parts with
    | nil =>
      obtain rfl : _ = more := cut
      exact ⟨here, 0, n, .done here, .up there dots later, by simp⟩
    | cons part parts =>
      obtain ⟨rfl, tail⟩ := List.cons.inj cut
      obtain ⟨mid, k, l, first, second, total⟩ := ih tail
      exact ⟨mid, k, l, .up there dots first, second, total⟩
  | @enter here loc _ rest entry n there passable found plain later ih =>
    cases parts with
    | nil =>
      obtain rfl : _ = more := cut
      exact ⟨here, 0, n, .done here, .enter there passable found plain later, by simp⟩
    | cons part parts =>
      obtain ⟨rfl, tail⟩ := List.cons.inj cut
      obtain ⟨mid, k, l, first, second, total⟩ := ih tail
      exact ⟨mid, k, l, .enter there passable found plain first, second, total⟩
  | @follow here loc _ rest target n there passable found later ih =>
    cases parts with
    | nil =>
      obtain rfl : _ = more := cut
      exact ⟨here, 0, n + 1, .done here, .follow there passable found later, by simp⟩
    | cons part parts =>
      obtain ⟨rfl, rfl⟩ := List.cons.inj cut
      obtain ⟨mid, k, l, first, second, total⟩ := ih (List.append_assoc _ parts more).symm
      exact ⟨mid, k + 1, l, .follow there passable found first, second, by omega⟩

theorem Leads.unique {loc' : Location} {n' : Nat} (one : fs.Leads here parts loc n)
    (two : fs.Leads here parts loc' n') : loc = loc' ∧ n = n' := by
  induction one generalizing loc' n' with
  | done here =>
    cases two
    exact ⟨rfl, rfl⟩
  | stay there dot _ ih =>
    cases two with
    | stay _ _ later => exact ih later
    | up _ dots _ => exact absurd (dot.symm.trans dots) (by decide)
    | enter _ passable => exact absurd dot passable.inward
    | follow _ passable => exact absurd dot passable.inward
  | up there dots _ ih =>
    cases two with
    | stay _ dot _ => exact absurd (dot.symm.trans dots) (by decide)
    | up _ _ later => exact ih later
    | enter _ passable => exact absurd dots passable.notUp
    | follow _ passable => exact absurd dots passable.notUp
  | enter there passable found plain _ ih =>
    cases two with
    | stay _ dot _ => exact absurd dot passable.inward
    | up _ dots _ => exact absurd dots passable.notUp
    | enter _ _ _ _ later => exact ih later
    | follow _ _ link _ =>
      rw [found] at link
      exact absurd (Option.some.inj link) (plain _)
  | follow there passable found _ ih =>
    cases two with
    | stay _ dot _ => exact absurd dot passable.inward
    | up _ dots _ => exact absurd dots passable.notUp
    | enter _ _ other plain _ =>
      rw [found] at other
      exact absurd (Option.some.inj other).symm (plain _)
    | follow _ _ link later =>
      rw [found] at link
      cases link
      obtain ⟨same, count⟩ := ih later
      exact ⟨same, by rw [count]⟩

theorem Leads.of_file {content : Bytes} {mode : Nat} (leads : fs.Leads here parts loc n)
    (file : fs.get? here = some (.file content mode)) : loc = here := by
  cases leads with
  | done => rfl
  | stay there _ _ | up there _ _ | enter there _ _ _ _ | follow there _ _ _ =>
    rw [file] at there
    cases there

theorem Leads.isSome (tree : fs.IsTree) (leads : fs.Leads here parts loc n) {entry : Entry}
    (start : fs.get? here = some entry) : ∃ found, fs.get? loc = some found := by
  induction leads generalizing entry with
  | done here => exact ⟨entry, start⟩
  | stay there _ _ ih => exact ih there
  | up there _ _ ih => exact ih (tree.parent there)
  | enter _ _ found _ _ ih => exact ih found
  | @follow here _ _ _ target _ there _ _ _ ih =>
    unfold startOf at ih
    split at ih
    · exact ih there
    · exact ih (get?_nil fs)

end Journeys

/- Looking up paths. -/

section Paths

variable {fs : FileSystem} {p : Path} {loc : Location}

theorem locate_iff : fs.locate true p = .ok loc ↔
    ∃ n, n ≤ maxLinks ∧ fs.Leads (startOf p.anchor fs.current) p.parts loc n := by
  constructor
  · exact leads_of_resolveFrom
  · rintro ⟨n, few, leads⟩
    exact leads.resolveFrom few

theorem get?_startOf (tree : fs.IsTree) (anchor : Anchor) :
    fs.get? (startOf anchor fs.current) = some .directory := by
  unfold startOf
  split
  · exact tree.current
  · exact get?_nil fs

theorem IsTree.get?_of_locate (tree : fs.IsTree) (found : fs.locate true p = .ok loc) :
    ∃ entry, fs.get? loc = some entry := by
  obtain ⟨n, _, leads⟩ := locate_iff.mp found
  exact leads.isSome tree (get?_startOf tree p.anchor)

theorem stat_of_locate {entry : Entry} (found : fs.locate true p = .ok loc)
    (there : fs.get? loc = some entry) : fs.stat p = .ok entry := by
  rw [stat, found]
  simp only [bind, Except.bind, there]
  rfl

theorem stat_ok_iff {entry : Entry} :
    fs.stat p = .ok entry ↔ ∃ loc, fs.locate true p = .ok loc ∧ fs.get? loc = some entry := by
  constructor
  · intro found
    unfold stat at found
    cases look : fs.locate true p with
    | error fault => simp [look, bind, Except.bind] at found
    | ok loc =>
      refine ⟨loc, rfl, ?_⟩
      cases there : fs.get? loc with
      | none => simp [look, bind, Except.bind, there] at found
      | some other => simpa [look, bind, Except.bind, there, pure, Except.pure] using found
  · rintro ⟨loc, look, there⟩
    exact stat_of_locate look there

theorem read_of_locate {content : Bytes} {mode : Nat} (found : fs.locate true p = .ok loc)
    (there : fs.get? loc = some (.file content mode)) : fs.read p = .ok content := by
  rw [read, stat_of_locate found there]
  rfl

theorem probe_some_iff {entry : Entry} :
    fs.probe p = .ok (some entry) ↔ fs.stat p = .ok entry := by
  unfold probe
  split <;> simp_all

theorem probe_of_isFile (file : fs.isFile p = true) :
    ∃ content mode, fs.probe p = .ok (some (.file content mode)) := by
  unfold isFile at file
  split at file
  · rename_i content mode found
    exact ⟨content, mode, probe_some_iff.mpr found⟩
  · cases file

theorem probe_of_isDirectory (directory : fs.isDirectory p = true) :
    fs.probe p = .ok (some .directory) := by
  unfold isDirectory at directory
  split at directory
  · exact probe_some_iff.mpr ‹_›
  · cases directory

theorem isDirectory_iff : fs.isDirectory p = true ↔
    ∃ loc, fs.locate true p = .ok loc ∧ fs.get? loc = some .directory := by
  rw [← stat_ok_iff, isDirectory]
  constructor
  · intro yes
    split at yes
    · assumption
    · cases yes
  · intro found
    rw [found]

theorem isFile_iff : fs.isFile p = true ↔
    ∃ loc content mode, fs.locate true p = .ok loc ∧ fs.get? loc = some (.file content mode) := by
  constructor
  · intro yes
    unfold isFile at yes
    split at yes
    · rename_i content mode found
      obtain ⟨loc, look, there⟩ := stat_ok_iff.mp found
      exact ⟨loc, content, mode, look, there⟩
    · cases yes
  · rintro ⟨loc, content, mode, look, there⟩
    rw [isFile, stat_of_locate look there]

/-- Downwards from a directory, a path leads to the entry that it names. -/
theorem IsTree.leads_below (tree : fs.IsTree) {more : Location} {entry : Entry}
    (found : fs.get? (loc ++ more) = some entry) (plain : ∀ target, entry ≠ .link target) :
    fs.Leads loc more (loc ++ more) 0 := by
  induction more generalizing loc with
  | nil => simpa using Leads.done loc
  | cons name more ih =>
    have there := tree.above (by simp) found
    have passable := (tree.proper_of_get? found name (by simp)).passable
    rw [List.append_cons] at found ⊢
    have rest := ih found
    cases more with
    | nil =>
      rw [List.append_nil] at found
      exact .enter there passable found plain rest
    | cons next more =>
      have inner := tree.above (by simp) found
      exact .enter there passable inner (by simp) rest

theorem IsTree.locate_below (tree : fs.IsTree) (found : fs.locate true p = .ok loc)
    {more : List String} {entry : Entry} (there : fs.get? (loc ++ more) = some entry)
    (plain : ∀ target, entry ≠ .link target) :
    fs.locate true ⟨p.anchor, p.parts ++ more⟩ = .ok (loc ++ more) := by
  obtain ⟨n, few, leads⟩ := locate_iff.mp found
  exact locate_iff.mpr ⟨n + 0, few, leads.append (tree.leads_below there plain)⟩

theorem IsTree.locate_real (tree : fs.IsTree) {entry : Entry} (there : fs.get? loc = some entry)
    (plain : ∀ target, entry ≠ .link target) : fs.locate true ⟨.root, loc⟩ = .ok loc := by
  have leads : fs.Leads [] loc ([] ++ loc) 0 := tree.leads_below there plain
  exact locate_iff.mpr ⟨0, Nat.zero_le _, leads⟩

theorem IsTree.locate_child (tree : fs.IsTree) (found : fs.locate true p = .ok loc) {name : String}
    {entry : Entry} (there : fs.get? (loc ++ [name]) = some entry) :
    fs.locate false ⟨p.anchor, p.parts ++ [name]⟩ = .ok (loc ++ [name]) := by
  obtain ⟨n, few, leads⟩ := locate_iff.mp found
  have directory := tree.above (by simp) there
  have passable := (tree.proper_of_get? there name (by simp)).passable
  obtain ⟨left, same⟩ := leads.resolveFrom_last few name
  unfold locate
  rw [same]
  cases entry with
  | link target => exact resolveFrom_link directory passable there
  | file content mode =>
    rw [resolveFrom_enter directory passable there (by simp), resolveFrom]
  | directory =>
    rw [resolveFrom_enter directory passable there (by simp), resolveFrom]
  | pipe =>
    rw [resolveFrom_enter directory passable there (by simp), resolveFrom]

end Paths

/- Real paths. A link that is being resolved takes more links than what is left to resolve, so it is
not met again. -/

section RealPaths

variable {fs : FileSystem} {here loc : Location} {parts : List String} {n : Nat}

/-- The number of links on the way to the target of a link. -/
def Cost (fs : FileSystem) (link : Location) (c : Nat) : Prop :=
  ∃ target mid, fs.get? link = some (.link target) ∧
    fs.Leads (startOf (Path.anchorOf target) link.dropLast) (linkParts target) mid c

theorem Cost.unique {link : Location} {c d : Nat} (one : fs.Cost link c) (two : fs.Cost link d) :
    c = d := by
  obtain ⟨target, mid, found, leads⟩ := one
  obtain ⟨target', mid', found', leads'⟩ := two
  rw [found] at found'
  cases found'
  exact (leads.unique leads').2

/-- Links that are being resolved, with the depth that is left, when `n` links remain. -/
structure Awaited (fs : FileSystem) (pending : List Location) (depth n : Nat) : Prop where
  distinct : pending.Nodup
  costly : ∀ link ∈ pending, ∃ c, fs.Cost link c ∧ n ≤ c
  room : pending.length + depth = fs.linkCount

theorem Awaited.less {pending : List Location} {depth m : Nat}
    (awaited : fs.Awaited pending depth n) (fewer : m ≤ n) : fs.Awaited pending depth m := by
  refine ⟨awaited.distinct, ?_, awaited.room⟩
  intro link member
  obtain ⟨c, cost, most⟩ := awaited.costly link member
  exact ⟨c, cost, Nat.le_trans fewer most⟩

theorem length_le_linkCount {links : List Location} (distinct : links.Nodup)
    (all : ∀ link ∈ links, ∃ target, fs.get? link = some (.link target)) :
    links.length ≤ fs.linkCount := by
  obtain ⟨isLink, counts, holds⟩ : ∃ isLink, fs.linkCount = fs.entries.countP isLink ∧
      ∀ loc target, isLink (loc, .link target) = true := ⟨_, rfl, fun _ _ => rfl⟩
  have part : links ⊆ (fs.entries.filter isLink).map Prod.fst := by
    intro link member
    obtain ⟨target, found⟩ := all link member
    have inner : link ≠ [] := by
      rintro rfl
      simp at found
    exact List.mem_map.mpr ⟨_, List.mem_filter.mpr ⟨mem_of_get? inner found, holds _ _⟩, rfl⟩
  have fits := (distinct.subperm part).length_le
  rwa [List.length_map, ← List.countP_eq_length_filter, ← counts] at fits

theorem Awaited.meet {pending : List Location} {depth c : Nat} {link : Location}
    (awaited : fs.Awaited pending depth (n + 1)) (cost : fs.Cost link c) (less : c ≤ n) :
    link ∉ pending ∧ ∃ inner, depth = inner + 1 ∧ fs.Awaited (link :: pending) inner c := by
  have new : link ∉ pending := by
    intro member
    obtain ⟨d, other, most⟩ := awaited.costly link member
    have same := cost.unique other
    omega
  have distinct : (link :: pending).Nodup := List.nodup_cons.mpr ⟨new, awaited.distinct⟩
  have fits : (link :: pending).length ≤ fs.linkCount := by
    apply length_le_linkCount distinct
    intro other member
    rcases List.mem_cons.mp member with rfl | member
    · obtain ⟨target, _, found, _⟩ := cost
      exact ⟨target, found⟩
    · obtain ⟨_, ⟨target, _, found, _⟩, _⟩ := awaited.costly other member
      exact ⟨target, found⟩
  have room := awaited.room
  rw [List.length_cons] at fits
  refine ⟨new, depth - 1, by omega, distinct, ?_, by rw [List.length_cons]; omega⟩
  intro other member
  rcases List.mem_cons.mp member with rfl | member
  · exact ⟨c, cost, Nat.le_refl c⟩
  · obtain ⟨d, cost', most⟩ := awaited.costly other member
    exact ⟨d, cost', by omega⟩

theorem leads_partsOf {target : Text} (leads : fs.Leads here (linkParts target) loc n) :
    fs.Leads here (Path.partsOf target) loc n := by
  obtain ⟨mid, k, l, first, second, total⟩ := leads.split rfl
  have stays : mid = loc ∧ l = 0 := by
    split at second
    · cases second with
      | stay _ _ later =>
        cases later
        exact ⟨rfl, rfl⟩
      | up _ dots _ => exact absurd dots (by decide)
      | enter _ passable _ _ _ => exact absurd rfl passable.inward
      | follow _ passable _ _ => exact absurd rfl passable.inward
    · cases second
      exact ⟨rfl, rfl⟩
  obtain ⟨rfl, rfl⟩ := stays
  rw [total]
  exact first

theorem realFrom_of_leads {depth : Nat} {pending : List Location}
    (leads : fs.Leads here parts loc n) (awaited : fs.Awaited pending depth n) :
    fs.realFrom depth pending here parts = (loc, true) := by
  -- On the number of links that are left, and within it on the components.
  induction n using Nat.strongRecOn generalizing here loc parts depth pending with
  | ind n fewer =>
    induction parts generalizing here with
    | nil =>
      cases leads
      rw [realFrom]
    | cons part rest ih =>
      rw [realFrom]
      cases leads with
      | stay there dot later =>
        rw [if_pos dot]
        exact ih later
      | up there dots later =>
        rw [if_neg (by rw [dots]; decide), if_pos dots]
        exact ih later
      | enter there passable found plain later =>
        rw [if_neg passable.inward, if_neg passable.notUp, found]
        split
        · rename_i target link
          exact absurd (Option.some.inj link) (plain target)
        · exact ih later
      | @follow _ _ _ _ target n there passable found later =>
        obtain ⟨mid, k, l, first, second, total⟩ := later.split rfl
        have cost : fs.Cost (here ++ [part]) k :=
          ⟨target, mid, found, by rw [List.dropLast_concat]; exact first⟩
        obtain ⟨new, inner, rfl, deeper⟩ := awaited.meet cost (by omega)
        have target_real := fewer k (by omega) (leads_partsOf first) deeper
        have rest_real := fewer l (by omega) second (awaited.less (by omega))
        have unseen : pending.contains (here ++ [part]) = false := by simpa using new
        simp only [if_neg passable.inward, if_neg passable.notUp, found, unseen, Bool.false_eq_true,
          if_false, target_real, rest_real]

theorem flatten_of_passable {names : List String} (all : ∀ name ∈ names, Passable name) :
    flatten names = names := by
  have general (done : List String) : names.foldl (fun acc part =>
      if part = "." then acc else if part = ".." then acc.dropLast else acc ++ [part]) done =
      done ++ names := by
    induction names generalizing done with
    | nil => simp
    | cons name names ih =>
      have first := all name (by simp)
      rw [List.foldl_cons, if_neg first.inward, if_neg first.notUp,
        ih fun other member => all other (by simp [member])]
      simp
  exact general []

theorem IsTree.realPath_of_locate (tree : fs.IsTree) {p : Path}
    (found : fs.locate true p = .ok loc) :
    fs.realPath p = ⟨.root, loc⟩ := by
  obtain ⟨n, _, leads⟩ := locate_iff.mp found
  have nothing : fs.Awaited [] fs.linkCount n := ⟨by simp, by simp, by simp⟩
  obtain ⟨entry, there⟩ := tree.get?_of_locate found
  have names : ∀ name ∈ loc, Passable name := by
    intro name member
    exact (tree.proper_of_get? there name member).passable
  rw [realPath, realFrom_of_leads leads nothing, flatten_of_passable names]

end RealPaths

end SourceTidy.FileSystem
