import Mathlib.Data.List.Infix
import ScopeTokenizer.Proofs.Theme.Colors
import ScopeTokenizer.Proofs.Theme.Precedence

/-!
# What a theme says, without a trie

What a theme says about a scope can be found without a trie, by going through all of its entries:
those for the scope itself, or for a scope around it, are taken one after the other. The trie
answers the same, although each of its nodes starts as a copy of the node above it. The reason is
that nothing is inserted any more above a node once that is there.
-/

namespace ScopeTokenizer.Theme

open Style Text

/-! ## Scans -/

/-- The rules that were found so far for one scope. -/
structure Findings where
  /-- The rule without parents. -/
  main : Rule := {}
  /-- The rules with parents, in the order in which these were met first. -/
  parented : List Rule := []
  deriving DecidableEq, Repr

namespace Findings

/-- All rules, the one without parents first. -/
def rules (findings : Findings) : List Rule := findings.main :: findings.parented

/-- Takes one more rule. It overwrites the one with the same parents by its depth and by what it
sets. If there is none, it is added, and what it does not set is as in the rule without parents. -/
def take (findings : Findings) (depth : Nat) (parents : List String) (look : Look) : Findings :=
  let overwritten (rule : Rule) : Rule := ⟨depth, rule.parents, look.over rule.look⟩
  if parents = [] then { findings with main := overwritten findings.main }
  else if findings.parented.any (·.parents = parents) then
    { findings with
      parented := findings.parented.map fun rule =>
        if rule.parents = parents then overwritten rule else rule }
  else
    { findings with
      parented := findings.parented ++ [⟨depth, parents, look.over findings.main.look⟩] }

end Findings

/-- What an entry sets, with the numbers that its colors have in a color map. -/
def ScopedEntry.look (entry : ScopedEntry) (colors : ColorMap) : Look where
  font := entry.font
  foreground := colors.number entry.foreground
  background := colors.number entry.background

/-- Goes through entries for what they say about the scope with a path. -/
def scan (colors : ColorMap) (entries : List ScopedEntry) (path : List String) : Findings :=
  (entries.filter fun entry => (pathOf entry.scope).isPrefixOf path).foldl
    (fun findings entry =>
      findings.take (pathOf entry.scope).length entry.parents (entry.look colors)) {}

/-! ## Tries -/

namespace Trie

/-- The rules of a node. -/
def here (node : Trie) : Findings := ⟨node.main, node.parented⟩

/-- The rules of the deepest node on a path. -/
def along (node : Trie) : List String → Findings
  | [] => node.here
  | segment :: path =>
    match Keyed.find? node.children segment with
    | some child => child.along path
    | none => node.here

/-- Whether there is a node at the end of a path. -/
def has (node : Trie) : List String → Bool
  | [] => true
  | segment :: path => (Keyed.find? node.children segment).any fun child => child.has path

theorem rulesAt_eq (node : Trie) (path : List String) :
    node.rulesAt path = Rule.sortBySpecificity (node.along path).rules := by
  fun_induction along node path with
  | case1 node => rw [rulesAt]; rfl
  | case2 node segment path child found ih => rw [rulesAt, found]; exact ih
  | case3 node segment path missing => rw [rulesAt, missing]; rfl

/-- A node without children, with the rules of another one. -/
def copy (node : Trie) : Trie := ⟨node.main, node.parented, []⟩

/-- The node below another one, which starts as its copy. -/
def child (node : Trie) (segment : String) : Trie :=
  (Keyed.find? node.children segment).getD node.copy

variable {node : Trie} {depth : Nat} {parents : List String} {look : Look}

theorem along_cons (node : Trie) (segment : String) (path : List String) :
    node.along (segment :: path) = (node.child segment).along path := by
  rw [along, child]
  cases Keyed.find? node.children segment with
  | some child => rfl
  | none => cases path <;> rfl

theorem has_child {segment : String} {path : List String} (more : path ≠ []) :
    (node.child segment).has path = node.has (segment :: path) := by
  rw [has, child]
  cases Keyed.find? node.children segment with
  | some child => rfl
  | none =>
    cases path with
    | nil => exact absurd rfl more
    | cons => rfl

theorem child_insert (node : Trie) (depth : Nat) (segment other : String) (path : List String)
    (parents : List String) (look : Look) :
    (node.insert depth (segment :: path) parents look).child other =
      if segment = other then (node.child segment).insert (depth + 1) path parents look
      else node.child other := by
  rw [child, insert]
  dsimp only
  rw [Keyed.find?_insert]
  split
  · rfl
  · rfl

@[simp] theorem children_insertHere (node : Trie) (depth : Nat) (parents : List String)
    (look : Look) : (node.insertHere depth parents look).children = node.children := by
  unfold insertHere
  split <;> rfl

/-- Inserting a rule leads to nodes along its path, and to no others. -/
theorem has_insert {inserted : List String} {path : List String}
    (has : (node.insert depth inserted parents look).has path) :
    node.has path ∨ path <+: inserted := by
  induction path generalizing node depth inserted with
  | nil => exact .inr List.nil_prefix
  | cons segment path ih =>
    cases inserted with
    | nil =>
      rw [insert, Trie.has, children_insertHere] at has
      exact .inl has
    | cons first inserted =>
      by_cases same : first = segment
      · subst same
        cases path with
        | nil => exact .inr (List.cons_prefix_cons.mpr ⟨rfl, List.nil_prefix⟩)
        | cons next path =>
          rw [← has_child (List.cons_ne_nil _ _), child_insert, if_pos rfl] at has
          rw [← has_child (List.cons_ne_nil _ _), List.cons_prefix_cons]
          exact (ih has).imp_right fun below => ⟨rfl, below⟩
      · rw [insert, Trie.has] at has
        dsimp only at has
        rw [Keyed.find?_insert, if_neg same] at has
        exact .inl has

/-- A rule changes nothing for the paths that it does not lie on. -/
theorem along_insert_of_not_isPrefix {inserted path : List String} (apart : ¬ inserted <+: path) :
    (node.insert depth inserted parents look).along path = node.along path := by
  induction path generalizing node depth inserted with
  | nil =>
    cases inserted with
    | nil => exact absurd List.nil_prefix apart
    | cons first inserted => rfl
  | cons segment path ih =>
    cases inserted with
    | nil => exact absurd List.nil_prefix apart
    | cons first inserted =>
      rw [along_cons, along_cons, child_insert]
      split
      · next same =>
        subst same
        exact ih fun below => apart (List.cons_prefix_cons.mpr ⟨rfl, below⟩)
      · rfl

/-- A rule is inserted into the deepest node on its path, if there is none below its own. -/
theorem along_insert_of_isPrefix {inserted path : List String} (on : inserted <+: path)
    (deepest : ∀ below, inserted <+: below → node.has below → below = inserted) (depth : Nat)
    (parents : List String) (look : Look) :
    ∃ last : Trie, last.here = node.along path ∧
      (node.insert depth inserted parents look).along path =
        (last.insertHere (depth + inserted.length) parents look).here := by
  induction inserted generalizing node depth path with
  | nil =>
    refine ⟨node, ?_⟩
    cases path with
    | nil => exact ⟨rfl, rfl⟩
    | cons segment path =>
      have missing : Keyed.find? node.children segment = none := by
        cases found : Keyed.find? node.children segment with
        | none => rfl
        | some child =>
          have has : node.has [segment] := by rw [has, found]; rfl
          exact absurd (deepest [segment] List.nil_prefix has) (List.cons_ne_nil _ _)
      constructor
      · rw [along, missing]
      · rw [insert, along, children_insertHere, missing]
        rfl
  | cons first inserted ih =>
    obtain ⟨rest, rfl⟩ := on
    rw [List.cons_append, along_cons, along_cons, child_insert, if_pos rfl]
    have below (path : List String) (on : inserted <+: path)
        (has : (node.child first).has path) : path = inserted := by
      cases path with
      | nil => exact (List.prefix_nil.mp on).symm
      | cons segment path =>
        rw [has_child (List.cons_ne_nil _ _)] at has
        exact (List.cons.inj (deepest _ (List.cons_prefix_cons.mpr ⟨rfl, on⟩) has)).2
    obtain ⟨last, here, inserts⟩ := ih (List.prefix_append _ rest) below (depth + 1)
    refine ⟨last, here, inserts.trans ?_⟩
    rw [List.length_cons, Nat.add_assoc, Nat.add_comm 1]

end Trie

/-! ## Taking rules -/

namespace Findings

/-- No rule is deeper than that, and no two rules have the same parents. -/
structure Within (findings : Findings) (depth : Nat) : Prop where
  depth_le : ∀ rule ∈ findings.rules, rule.depth ≤ depth
  distinct : (findings.parented.map Rule.parents).Nodup

variable {findings : Findings} {depth : Nat} {parents : List String} {look : Look}

theorem Within.take {limit : Nat} (within : findings.Within limit) (le : depth ≤ limit)
    (parents : List String) (look : Look) : (findings.take depth parents look).Within limit := by
  obtain ⟨main_le, parented_le⟩ := List.forall_mem_cons.mp within.depth_le
  unfold Findings.take
  dsimp only
  split
  · exact ⟨List.forall_mem_cons.mpr ⟨le, parented_le⟩, within.distinct⟩
  · split
    · constructor
      · refine List.forall_mem_cons.mpr ⟨main_le, List.forall_mem_map.mpr fun rule mem => ?_⟩
        split
        · exact le
        · exact parented_le rule mem
      · have kept : Rule.parents ∘ (fun rule : Rule => if rule.parents = parents then
            ⟨depth, rule.parents, look.over rule.look⟩ else rule) = Rule.parents := by
          funext rule
          rw [Function.comp_apply]
          split <;> rfl
        rw [List.map_map, kept]
        exact within.distinct
    · next fresh =>
      constructor
      · refine List.forall_mem_cons.mpr ⟨main_le, List.forall_mem_append.mpr ⟨parented_le, ?_⟩⟩
        exact List.forall_mem_singleton.mpr le
      · rw [List.map_append, List.map_singleton]
        refine List.nodup_append.mpr ⟨within.distinct, List.pairwise_singleton _ _, ?_⟩
        simp only [List.mem_map, List.mem_singleton]
        rintro _ ⟨rule, mem, rfl⟩ _ rfl same
        exact fresh (List.any_eq_true.mpr ⟨rule, mem, decide_eq_true same⟩)

end Findings

namespace Trie

variable {main : Rule} {depth : Nat} {parents : List String} {look : Look} {rules : List Rule}

theorem insertParented_of_fresh (fresh : ∀ rule ∈ rules, rule.parents ≠ parents) :
    insertParented main depth parents look rules =
      rules ++ [⟨depth, parents, look.over main.look⟩] := by
  induction rules with
  | nil => rfl
  | cons rule rules ih =>
    obtain ⟨other, fresh⟩ := List.forall_mem_cons.mp fresh
    rw [insertParented, if_neg other, ih fresh]
    rfl

/-- With distinct parents, the first rule that has the given ones is the only one. -/
theorem insertParented_of_known (distinct : (rules.map Rule.parents).Nodup)
    (known : ∃ rule ∈ rules, rule.parents = parents) :
    insertParented main depth parents look rules =
      rules.map fun rule => if rule.parents = parents then rule.overwrite depth look else rule := by
  induction rules with
  | nil => exact absurd known (by simp)
  | cons rule rules ih =>
    obtain ⟨apart, distinct⟩ := List.nodup_cons.mp distinct
    rw [insertParented, List.map_cons]
    split
    · next same =>
      have others : rules.map (fun rule =>
          if rule.parents = parents then rule.overwrite depth look else rule) = rules := by
        refine List.map_congr_left (fun other mem => if_neg ?_) |>.trans (List.map_id' rules)
        rintro rfl
        exact apart (same ▸ List.mem_map_of_mem mem)
      rw [others]
    · next other =>
      obtain ⟨found, mem, is⟩ := known
      rcases List.mem_cons.mp mem with rfl | mem
      · exact absurd is other
      · rw [ih distinct ⟨found, mem, is⟩]

/-- A node takes a rule like a scan, if none of its rules lies deeper. -/
theorem here_insertHere {node : Trie} (within : node.here.Within depth) (parents : List String)
    (look : Look) :
    (node.insertHere depth parents look).here = node.here.take depth parents look := by
  obtain ⟨main, parented, children⟩ := node
  obtain ⟨main_le, parented_le⟩ := List.forall_mem_cons.mp within.depth_le
  have overwritten (rule : Rule) (le : rule.depth ≤ depth) :
      rule.overwrite depth look = ⟨depth, rule.parents, look.over rule.look⟩ := by
    rw [Rule.overwrite, Nat.max_eq_right le]
  by_cases own : parents = []
  · rw [insertHere, if_pos own, Findings.take, if_pos own, overwritten main main_le]
    rfl
  · rw [insertHere, if_neg own, Findings.take, if_neg own]
    split
    · next known =>
      obtain ⟨rule, mem, same⟩ := List.any_eq_true.mp known
      have inserted : insertParented main depth parents look parented = _ :=
        insertParented_of_known within.distinct ⟨rule, mem, of_decide_eq_true same⟩
      rw [inserted]
      refine congrArg (Findings.mk main) (List.map_congr_left fun rule mem => ?_)
      rw [overwritten rule (parented_le rule mem)]
    · next fresh =>
      refine congrArg (Findings.mk main) (insertParented_of_fresh fun rule mem same => ?_)
      exact fresh (List.any_eq_true.mpr ⟨rule, mem, decide_eq_true same⟩)

end Trie

/-! ## Going through all entries -/

section Scanning

variable {colors : ColorMap} {entries : List ScopedEntry} {entry : ScopedEntry}
  {path : List String}

theorem scan_concat_of_isPrefix (on : pathOf entry.scope <+: path) :
    scan colors (entries ++ [entry]) path =
      (scan colors entries path).take (pathOf entry.scope).length entry.parents
        (entry.look colors) := by
  have kept : (pathOf entry.scope).isPrefixOf path = true := List.isPrefixOf_iff_prefix.mpr on
  rw [scan, List.filter_append, List.filter_singleton, kept, cond_true, List.foldl_concat]
  rfl

theorem scan_concat_of_not_isPrefix (off : ¬ pathOf entry.scope <+: path) :
    scan colors (entries ++ [entry]) path = scan colors entries path := by
  have left : (pathOf entry.scope).isPrefixOf path = false :=
    Bool.eq_false_iff.mpr fun on => off (List.isPrefixOf_iff_prefix.mp on)
  rw [scan, List.filter_append, List.filter_singleton, left, cond_false, List.append_nil]
  rfl

/-- A scan finds no rule that is deeper than all the entries it takes. -/
theorem scan_within {limit : Nat}
    (le : ∀ entry ∈ entries, pathOf entry.scope <+: path → (pathOf entry.scope).length ≤ limit) :
    (scan colors entries path).Within limit := by
  induction entries using List.reverseRecOn with
  | nil => exact ⟨List.forall_mem_singleton.mpr (Nat.zero_le _), List.nodup_nil⟩
  | append_singleton entries entry ih =>
    obtain ⟨le, last⟩ := List.forall_mem_append.mp le
    by_cases on : pathOf entry.scope <+: path
    · rw [scan_concat_of_isPrefix on]
      exact (ih le).take (List.forall_mem_singleton.mp last on) _ _
    · rw [scan_concat_of_not_isPrefix on]
      exact ih le

/-- Inserts the rule of an entry. -/
def Trie.insertEntry (colors : ColorMap) (trie : Trie) (entry : ScopedEntry) : Trie :=
  trie.insert 0 (pathOf entry.scope) entry.parents (entry.look colors)

/-- The trie of entries that are inserted one after the other. -/
def trieOf (colors : ColorMap) (entries : List ScopedEntry) : Trie :=
  entries.foldl (Trie.insertEntry colors) {}

theorem trieOf_concat :
    trieOf colors (entries ++ [entry]) = (trieOf colors entries).insertEntry colors entry :=
  List.foldl_concat ..

/-- There are nodes for the scopes of the entries and for those around them only. -/
theorem exists_entry_of_has (has : (trieOf colors entries).has path) :
    path = [] ∨ ∃ entry ∈ entries, path <+: pathOf entry.scope := by
  induction entries using List.reverseRecOn with
  | nil =>
    cases path with
    | nil => exact .inl rfl
    | cons segment path => cases has
  | append_singleton entries entry ih =>
    rw [trieOf_concat, Trie.insertEntry] at has
    rcases Trie.has_insert has with before | below
    · exact (ih before).imp_right fun ⟨earlier, mem, below⟩ =>
        ⟨earlier, List.mem_append_left _ mem, below⟩
    · exact .inr ⟨entry, List.mem_append_right _ (List.mem_singleton.mpr rfl), below⟩

/-- Among the scopes up to a given one, none lies inside it. -/
theorem eq_of_pathOf_isPrefix {outer inner : String} (le : inner ≤ outer)
    (around : pathOf outer <+: pathOf inner) : pathOf outer = pathOf inner :=
  Decidable.byContradiction fun apart => String.not_lt.mpr le (lt_of_pathOf_isPrefix around apart)

/-- In the order of the scopes, a trie and a scan take every entry alike. -/
theorem along_trieOf (sorted : entries.Pairwise fun first second => first.scope ≤ second.scope)
    (path : List String) : (trieOf colors entries).along path = scan colors entries path := by
  induction entries using List.reverseRecOn with
  | nil => cases path <;> rfl
  | append_singleton entries entry ih =>
    obtain ⟨sorted, -, before⟩ := List.pairwise_append.mp sorted
    replace before (earlier : ScopedEntry) (mem : earlier ∈ entries) : earlier.scope ≤ entry.scope :=
      before earlier mem entry (List.mem_singleton.mpr rfl)
    rw [trieOf_concat, Trie.insertEntry]
    by_cases on : pathOf entry.scope <+: path
    · have deepest (below : List String) (inside : pathOf entry.scope <+: below)
          (has : (trieOf colors entries).has below) : below = pathOf entry.scope := by
        rcases exists_entry_of_has has with rfl | ⟨earlier, mem, around⟩
        · exact (List.prefix_nil.mp inside).symm
        · have same := eq_of_pathOf_isPrefix (before earlier mem) (inside.trans around)
          exact (around.eq_of_length_le (same ▸ inside.length_le)).trans same.symm
      have within : (scan colors entries path).Within (pathOf entry.scope).length := by
        refine scan_within fun earlier mem around => ?_
        rcases List.prefix_or_prefix_of_prefix around on with below | above
        · exact below.length_le
        · exact (eq_of_pathOf_isPrefix (before earlier mem) above).symm ▸ Nat.le_refl _
      obtain ⟨last, here, inserts⟩ :=
        Trie.along_insert_of_isPrefix on deepest 0 entry.parents (entry.look colors)
      rw [ih sorted] at here
      rw [inserts, Nat.zero_add, Trie.here_insertHere (here ▸ within), here,
        scan_concat_of_isPrefix on]
    · rw [Trie.along_insert_of_not_isPrefix on, scan_concat_of_not_isPrefix on, ih sorted]

end Scanning

/-! ## Themes -/

theorem colors_prefix_foldl_addEntry (entries : List ScopedEntry) (state : ColorMap × Trie) :
    state.1.colors <+: (entries.foldl addEntry state).1.colors := by
  induction entries generalizing state with
  | nil => exact List.prefix_rfl
  | cons entry entries ih =>
    have foreground := ColorMap.colors_prefix_intern state.1 entry.foreground
    have background := ColorMap.colors_prefix_intern (state.1.intern entry.foreground).2
      entry.background
    exact (foreground.trans background).trans (ih (addEntry state entry))

/-- The colors of all entries can be numbered after the last of them. -/
theorem trie_foldl_addEntry (entries : List ScopedEntry) (state : ColorMap × Trie)
    {colors : ColorMap} (grown : (entries.foldl addEntry state).1.colors <+: colors.colors) :
    (entries.foldl addEntry state).2 = entries.foldl (Trie.insertEntry colors) state.2 := by
  induction entries generalizing state with
  | nil => rfl
  | cons entry entries ih =>
    have later := (colors_prefix_foldl_addEntry entries (addEntry state entry)).trans grown
    have background : ((state.1.intern entry.foreground).2.intern entry.background).1 =
        colors.number entry.background := ColorMap.intern_eq_number later
    have foreground : (state.1.intern entry.foreground).1 = colors.number entry.foreground :=
      ColorMap.intern_eq_number ((ColorMap.colors_prefix_intern _ entry.background).trans later)
    have inserted : (addEntry state entry).2 = state.2.insertEntry colors entry := by
      rw [Trie.insertEntry, ScopedEntry.look, ← foreground, ← background]
      rfl
    rw [List.foldl_cons, ih _ grown, inserted, List.foldl_cons]

/-- The entries without a scope are the first ones. -/
theorem dropWhile_unscoped (definition : ThemeDef) :
    (sortedEntries definition).dropWhile (·.scope == "") =
      (sortedEntries definition).filter (·.scope ≠ "") := by
  have sorted := pairwise_sortedEntries definition
  generalize sortedEntries definition = entries at sorted
  induction sorted with
  | nil => rfl
  | @cons entry entries before _ ih =>
    by_cases unscoped : entry.scope = ""
    · simpa [List.dropWhile_cons, unscoped] using ih
    · have others (later : ScopedEntry) (mem : later ∈ entries) : later.scope ≠ "" := by
        intro empty
        have least : "" ≤ entry.scope :=
          String.not_lt.mp fun below => List.not_lt_nil _ (String.lt_iff.mp below)
        exact unscoped (String.le_antisymm (empty ▸ before later mem) least)
      have all : entries.filter (·.scope ≠ "") = entries :=
        List.filter_eq_self.mpr fun later mem => decide_eq_true (others later mem)
      rw [List.dropWhile_cons, if_neg (by simpa using unscoped), List.filter_cons,
        if_pos (decide_eq_true unscoped), all]

/-- What a theme says about a scope is what a scan of its entries finds: of those that have a scope,
in the order in which they are compiled, each one for this scope or for a scope around it overwrites
what was found before it. -/
theorem rulesFor_eq_scan (definition : ThemeDef) (scope : String) :
    (ofDefinition definition).rulesFor scope =
      Rule.sortBySpecificity
        (scan (ofDefinition definition).colors
          ((sortedEntries definition).filter (·.scope ≠ "")) (pathOf scope)).rules := by
  have sorted := (pairwise_sortedEntries definition).filter (·.scope ≠ "")
  rw [← along_trieOf sorted, rulesFor, Trie.rulesAt_eq]
  have tries : (ofDefinition definition).trie =
      trieOf (ofDefinition definition).colors ((sortedEntries definition).filter (·.scope ≠ "")) := by
    rw [← dropWhile_unscoped]
    exact trie_foldl_addEntry _ _ List.prefix_rfl
  rw [tries]

end ScopeTokenizer.Theme
