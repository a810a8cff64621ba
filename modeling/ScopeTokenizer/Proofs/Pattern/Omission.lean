import Mathlib.Data.List.Basic
import ScopeTokenizer.Pattern.Set
import ScopeTokenizer.Regex.Engine

/-!
# Patterns that are left out

A set is built from a list of patterns, some of which may not compile. The patterns that cannot
be members are left out, and what the others match must not depend on them: the set answers
like one that is built from the others alone, places in the list apart.

Which patterns to leave out is found by trying each on its own, where groups without a name need
not capture. A pattern that gets another verdict on its own than as a member is left out though
it could be a member, or else stays in and spoils the whole set. Main statement: this is the only
way in which a pattern that cannot be a member changes what the others match.
-/

namespace ScopeTokenizer.Pattern

variable {α : Type} {engine : Engine}

/-- Moves a member to another place of the list. -/
def Member.relocate (place : Nat → Nat) (member : Member engine α) : Member engine α :=
  { member with index := place member.index }

/-- Moves the pattern of a match to another place of the list. -/
def SetMatch.relocate (place : Nat → Nat) (found : SetMatch α) : SetMatch α :=
  { found with index := place found.index }

namespace PatternSet

/-! ## Members at other places -/

theorem matchAt_relocate (place : Nat → Nat) (text : Array Char) (searchStart position : Nat)
    (members : List (Member engine α)) :
    matchAt text searchStart position (members.map (Member.relocate place)) =
      (matchAt text searchStart position members).map (SetMatch.relocate place) := by
  induction members with
  | nil => rfl
  | cons member members ih =>
    cases run : engine.matchAt member.pattern text searchStart position with
    | none => simpa [matchAt, Member.relocate, run] using ih
    | some captures => simp [matchAt, Member.relocate, SetMatch.relocate, run]

theorem searchFrom_relocate (place : Nat → Nat) (text : Array Char)
    (searchStart count position : Nat) (members : List (Member engine α)) :
    searchFrom (members.map (Member.relocate place)) text searchStart count position =
      (searchFrom members text searchStart count position).map (SetMatch.relocate place) := by
  induction count generalizing position with
  | zero => rfl
  | succ count ih =>
    simp only [searchFrom, matchAt_relocate]
    cases matchAt text searchStart position members with
    | none => exact ih (position + 1)
    | some found => rfl

/-- A set whose members stand at other places finds the same matches, at those places. -/
theorem findAt_relocate {set other : PatternSet engine α} (place : Nat → Nat)
    (moved : other.members.map (Member.relocate place) = set.members) (line : Line)
    (position : Nat) :
    set.findAt line position = (other.findAt line position).map (SetMatch.relocate place) := by
  simp only [findAt, ← moved, searchFrom_relocate]

/-! ## Members of a list -/

/-- Whether a pattern can be compiled as a member of a set, in which all groups capture. -/
def compilesInSet (engine : Engine) (text : String) : Bool := (engine.compile? true text).isSome

/-- A pattern of a list, with its place, as a member. -/
def member? (engine : Engine) : (α × String) × Nat → Option (Member engine α)
  | ((label, text), index) => (engine.compile? true text).map fun pattern => ⟨index, label, pattern⟩

/-- Members for those patterns that can be such. -/
def membersOf (engine : Engine) (indexed : List ((α × String) × Nat)) : List (Member engine α) :=
  indexed.filterMap (member? engine)

theorem isSome_member? (entry : (α × String) × Nat) :
    (member? engine entry).isSome = compilesInSet engine entry.1.2 := by
  simp [member?, compilesInSet]

/-- Patterns are compiled together if each can be compiled. -/
theorem compileAll?_eq (indexed : List ((α × String) × Nat)) :
    compileAll? indexed =
      if indexed.all fun entry => compilesInSet engine entry.1.2 then
        some (membersOf engine indexed)
      else none := by
  have each : compileAll? indexed = indexed.mapM (member? engine) := rfl
  rw [each]
  induction indexed with
  | nil => rfl
  | cons entry indexed ih =>
    have verdict : (member? engine entry).isSome = _ := isSome_member? entry
    cases compiled : member? engine entry with
    | none =>
      rw [compiled] at verdict
      simp [List.mapM_cons, compiled, ← verdict]
    | some member =>
      rw [compiled] at verdict
      rw [List.mapM_cons, ih rfl]
      by_cases others : indexed.all fun entry => compilesInSet engine entry.1.2
      · simp [compiled, ← verdict, others, membersOf]
      · simp [compiled, ← verdict, others]

/-- The members of a list are at the places of those patterns that can be such. -/
theorem membersOf_map_index (indexed : List ((α × String) × Nat)) :
    (membersOf engine indexed).map (·.index) =
      (indexed.filter fun entry => compilesInSet engine entry.1.2).map (·.2) := by
  induction indexed with
  | nil => rfl
  | cons entry indexed ih =>
    cases compiled : engine.compile? true entry.1.2 with
    | none => simpa [membersOf, member?, compilesInSet, compiled] using ih
    | some pattern => simpa [membersOf, member?, compilesInSet, compiled] using ih

/-- The patterns that cannot be members make no difference to the members. -/
theorem membersOf_filter (indexed : List ((α × String) × Nat)) :
    membersOf engine (indexed.filter fun entry => compilesInSet engine entry.1.2) =
      membersOf engine indexed := by
  simp only [← isSome_member?, membersOf, List.filterMap_filter]
  congr 1
  funext entry
  cases member? engine entry <;> simp

/-- There are no members if no pattern can be one. -/
theorem membersOf_eq_nil_iff {indexed : List ((α × String) × Nat)} :
    membersOf engine indexed = [] ↔ ∀ entry ∈ indexed, ¬ compilesInSet engine entry.1.2 := by
  simp [membersOf, ← isSome_member?, List.filterMap_eq_nil_iff]

/-- The members of a list are those of its patterns in a list of their own, at the places that
the patterns have here. -/
theorem membersOf_relocate (place : Nat → Nat) (indexed : List ((α × String) × Nat))
    (start : Nat)
    (placed : ∀ offset (inside : offset < indexed.length),
      place (start + offset) = indexed[offset].2) :
    (membersOf engine ((indexed.map (·.1)).zipIdx start)).map (Member.relocate place) =
      membersOf engine indexed := by
  induction indexed generalizing start with
  | nil => rfl
  | cons entry indexed ih =>
    have first : place start = entry.2 := placed 0 (Nat.zero_lt_succ _)
    have others := ih (start + 1) fun offset inside => by
      have next := placed (offset + 1) (Nat.succ_lt_succ inside)
      rwa [List.getElem_cons_succ, Nat.add_comm offset 1, ← Nat.add_assoc] at next
    simp only [membersOf] at others
    cases compiled : engine.compile? true entry.1.2 with
    | none => simp [membersOf, member?, compiled, others]
    | some pattern => simp [membersOf, member?, compiled, others, Member.relocate, first]

/-! ## What a set is made of -/

/-- The set that is built from a list of patterns. -/
abbrev built (engine : Engine) (patterns : List (α × String)) : PatternSet engine α :=
  (ofList patterns).1

/-- The patterns that can be members, with their places. -/
def eligible (engine : Engine) (patterns : List (α × String)) : List ((α × String) × Nat) :=
  patterns.zipIdx.filter fun entry => compilesInSet engine entry.1.2

/-- The patterns that a set is made of, with their places: all if all can be members, and
otherwise those that can be compiled on their own. -/
def chosen (engine : Engine) (patterns : List (α × String)) : List ((α × String) × Nat) :=
  if patterns.all fun entry => compilesInSet engine entry.2 then patterns.zipIdx
  else patterns.zipIdx.filter fun entry => compilesAlone engine entry.1.2

/-- The place that the pattern at a place of a list has in the list that it comes from. -/
def placeIn (indexed : List ((α × String) × Nat)) (place : Nat) : Nat :=
  (indexed[place]?.map (·.2)).getD place

theorem all_zipIdx (accepts : α × String → Bool) (patterns : List (α × String)) :
    (patterns.zipIdx.all fun entry => accepts entry.1) = patterns.all accepts := by
  have unindexed := List.all_map (f := Prod.fst) (l := patterns.zipIdx) (p := accepts)
  rw [List.zipIdx_map_fst] at unindexed
  exact unindexed.symm

theorem filter_zipIdx_map_fst (accepts : α × String → Bool) (patterns : List (α × String)) :
    (patterns.zipIdx.filter fun entry => accepts entry.1).map (·.1) =
      patterns.filter accepts := by
  have unindexed := List.filter_map (f := Prod.fst) (l := patterns.zipIdx) (p := accepts)
  rw [List.zipIdx_map_fst] at unindexed
  exact unindexed.symm

/-- A set has the patterns that were chosen as its members if all of these can be members, and
has no member otherwise. -/
theorem members_built (patterns : List (α × String)) :
    (built engine patterns).members =
      if (chosen engine patterns).all fun entry => compilesInSet engine entry.1.2 then
        membersOf engine (chosen engine patterns)
      else [] := by
  have together := all_zipIdx (fun entry => compilesInSet engine entry.2) patterns
  by_cases all : patterns.all fun entry => compilesInSet engine entry.2
  · simp only [built, ofList, compileAll?_eq, chosen, together, all, ↓reduceIte]
  · simp only [built, ofList, compileAll?_eq, chosen, together, all, ↓reduceIte,
      Bool.false_eq_true]
    by_cases rest : (patterns.zipIdx.filter fun entry => compilesAlone engine entry.1.2).all
        fun entry => compilesInSet engine entry.1.2
    · simp only [rest, ↓reduceIte]
    · simp only [rest, ↓reduceIte, Bool.false_eq_true]

/-- If all patterns can be members, all are. -/
theorem members_built_of_all {patterns : List (α × String)}
    (all : ∀ entry ∈ patterns, compilesInSet engine entry.2) :
    (built engine patterns).members = membersOf engine patterns.zipIdx := by
  have accepted := List.all_eq_true.mpr all
  have together := all_zipIdx (fun entry => compilesInSet engine entry.2) patterns
  simp only [members_built, chosen, accepted, ↓reduceIte, together]

/-- A set whose members are those of some patterns, all of which can be such, answers like the
set that is built from these patterns alone. -/
theorem findAt_built_of_members {patterns : List (α × String)}
    {indexed : List ((α × String) × Nat)}
    (all : ∀ entry ∈ indexed, compilesInSet engine entry.1.2)
    (members : (built engine patterns).members = membersOf engine indexed) (place : Nat → Nat)
    (placed : ∀ offset (inside : offset < indexed.length), place offset = indexed[offset].2)
    (line : Line) (position : Nat) :
    (built engine patterns).findAt line position =
      ((built engine (indexed.map (·.1))).findAt line position).map (SetMatch.relocate place) := by
  apply findAt_relocate
  rw [members, members_built_of_all (by simpa using fun _ _ index => all _)]
  apply membersOf_relocate
  simpa using placed

theorem placeIn_eq (indexed : List ((α × String) × Nat)) (offset : Nat)
    (inside : offset < indexed.length) : placeIn indexed offset = indexed[offset].2 := by
  simp [placeIn, inside]

/-! ## Which patterns are left out -/

/-- Patterns that are tried on their own are told apart as the set needs it: all can be members,
or none can, or each gets the verdict on its own that it gets as a member. -/
def Discerned (engine : Engine) (patterns : List (α × String)) : Prop :=
  (∀ entry ∈ patterns, compilesInSet engine entry.2) ∨
    (∀ entry ∈ patterns, ¬ compilesInSet engine entry.2) ∨
      ∀ entry ∈ patterns, compilesAlone engine entry.2 = compilesInSet engine entry.2

theorem eligible_accepted (patterns : List (α × String)) :
    ∀ entry ∈ eligible engine patterns, compilesInSet engine entry.1.2 := by
  intro entry mem
  exact (List.mem_filter.mp mem).2

theorem mem_of_mem_chosen {patterns : List (α × String)} {entry : (α × String) × Nat}
    (mem : entry ∈ chosen engine patterns) : entry ∈ patterns.zipIdx := by
  unfold chosen at mem
  split at mem
  · exact mem
  · exact (List.mem_filter.mp mem).1

/-- If some patterns cannot be members, those that compile on their own are chosen. -/
theorem mem_chosen_iff {patterns : List (α × String)}
    (not_all : ¬ ∀ entry ∈ patterns, compilesInSet engine entry.2)
    {entry : (α × String) × Nat} :
    entry ∈ chosen engine patterns ↔
      entry ∈ patterns.zipIdx ∧ compilesAlone engine entry.1.2 := by
  rw [chosen, if_neg (mt List.all_eq_true.mp not_all), List.mem_filter]

/-- If patterns are told apart, the members of a set are the patterns that can be such. -/
theorem Discerned.members_built {patterns : List (α × String)}
    (discerned : Discerned engine patterns) :
    (built engine patterns).members = membersOf engine (eligible engine patterns) := by
  rw [eligible, membersOf_filter]
  by_cases all : ∀ entry ∈ patterns, compilesInSet engine entry.2
  · exact members_built_of_all all
  obtain every | nothing | same := discerned
  · exact absurd every all
  · have none_in (indexed : List ((α × String) × Nat))
        (inside : ∀ entry ∈ indexed, entry ∈ patterns.zipIdx) :
        membersOf engine indexed = [] := by
      apply membersOf_eq_nil_iff.mpr
      intro entry mem
      exact nothing entry.1 (List.fst_mem_of_mem_zipIdx (inside entry mem))
    rw [PatternSet.members_built, none_in _ fun _ => mem_of_mem_chosen, none_in _ fun _ => id,
      ite_self]
  · have chosen_eq : chosen engine patterns = eligible engine patterns := by
      rw [chosen, if_neg (mt List.all_eq_true.mp all)]
      apply List.filter_congr
      intro entry mem
      exact same entry.1 (List.fst_mem_of_mem_zipIdx mem)
    rw [PatternSet.members_built, chosen_eq,
      if_pos (List.all_eq_true.mpr (eligible_accepted patterns)), eligible, membersOf_filter]

/-- If the members of a set are the patterns that can be such, these were told apart. -/
theorem discerned_of_members_built {patterns : List (α × String)}
    (members : (built engine patterns).members = membersOf engine (eligible engine patterns)) :
    Discerned engine patterns := by
  by_cases all : ∀ entry ∈ patterns, compilesInSet engine entry.2
  · exact .inl all
  have placed (entry : α × String) (mem : entry ∈ patterns) :
      ∃ index, (entry, index) ∈ patterns.zipIdx := by
    obtain ⟨index, found⟩ := List.mem_iff_getElem?.mp mem
    exact ⟨index, List.mk_mem_zipIdx_iff_getElem?.mpr found⟩
  rw [PatternSet.members_built] at members
  split at members
  case isTrue accepted =>
    right; right
    intro entry mem
    obtain ⟨index, at_index⟩ := placed entry mem
    rw [Bool.eq_iff_iff]
    constructor
    · intro alone
      exact List.all_eq_true.mp accepted _ ((mem_chosen_iff all).mpr ⟨at_index, alone⟩)
    · intro in_set
      -- Members say where their patterns stand, and no two patterns stand at one place.
      have places := congrArg (List.map (·.index)) members
      rw [membersOf_map_index, membersOf_map_index, List.filter_eq_self.mpr
        (eligible_accepted patterns)] at places
      have at_place : index ∈ (eligible engine patterns).map (·.2) :=
        List.mem_map.mpr ⟨_, List.mem_filter.mpr ⟨at_index, in_set⟩, rfl⟩
      rw [← places] at at_place
      obtain ⟨⟨other, _⟩, other_mem, rfl⟩ := List.mem_map.mp at_place
      obtain ⟨other_at, alone⟩ := (mem_chosen_iff all).mp (List.mem_filter.mp other_mem).1
      have first := List.mk_mem_zipIdx_iff_getElem?.mp at_index
      rw [List.mk_mem_zipIdx_iff_getElem?.mp other_at] at first
      cases first
      exact alone
  case isFalse =>
    right; left
    intro entry mem in_set
    obtain ⟨index, at_index⟩ := placed entry mem
    have eligible_entry : (entry, index) ∈ eligible engine patterns :=
      List.mem_filter.mpr ⟨at_index, in_set⟩
    exact membersOf_eq_nil_iff.mp members.symm _ eligible_entry in_set

/-! ## What the others match -/

/-- A set answers like the set of the patterns that it is made of, or never matches. -/
theorem findAt_built (patterns : List (α × String)) (line : Line) (position : Nat) :
    (built engine patterns).findAt line position =
      if (chosen engine patterns).all fun entry => compilesInSet engine entry.1.2 then
        ((built engine ((chosen engine patterns).map (·.1))).findAt line position).map
          (SetMatch.relocate (placeIn (chosen engine patterns)))
      else none := by
  have members : (built engine patterns).members = _ := PatternSet.members_built patterns
  split at members
  case isTrue accepted =>
    rw [if_pos accepted]
    exact findAt_built_of_members (List.all_eq_true.mp accepted) members _ (placeIn_eq _) _ _
  case isFalse rejects =>
    rw [if_neg rejects, findAt, members, searchFrom_nil]

/-- If patterns are told apart, a set answers like the set of those that can be members. -/
theorem Discerned.findAt_built {patterns : List (α × String)}
    (discerned : Discerned engine patterns) (line : Line) (position : Nat) :
    (built engine patterns).findAt line position =
      ((built engine (patterns.filter fun entry => compilesInSet engine entry.2)).findAt line
        position).map (SetMatch.relocate (placeIn (eligible engine patterns))) := by
  have unindexed := filter_zipIdx_map_fst (fun entry => compilesInSet engine entry.2) patterns
  rw [← unindexed]
  exact findAt_built_of_members (eligible_accepted patterns) discerned.members_built _
    (placeIn_eq _) _ _

/-- A pattern that cannot be compiled, added to a list of patterns that can, moves those behind
it by one place and changes nothing else. -/
theorem findAt_built_insert {before after : List (α × String)} {rejected : α × String}
    (valid : ∀ entry ∈ before ++ after,
      compilesInSet engine entry.2 ∧ compilesAlone engine entry.2)
    (not_in_set : ¬ compilesInSet engine rejected.2)
    (not_alone : ¬ compilesAlone engine rejected.2) (line : Line) (position : Nat) :
    (built engine (before ++ rejected :: after)).findAt line position =
      ((built engine (before ++ after)).findAt line position).map
        (SetMatch.relocate fun place => if place < before.length then place else place + 1) := by
  have discerned : Discerned engine (before ++ rejected :: after) := by
    right; right
    intro entry mem
    obtain first | rfl | last := by simpa using mem
    · obtain ⟨in_set, alone⟩ := valid entry (List.mem_append_left _ first)
      rw [in_set, alone]
    · rw [eq_false_of_ne_true not_in_set, eq_false_of_ne_true not_alone]
    · obtain ⟨in_set, alone⟩ := valid entry (List.mem_append_right _ last)
      rw [in_set, alone]
  have places : eligible engine (before ++ rejected :: after) =
      before.zipIdx ++ after.zipIdx (before.length + 1) := by
    have kept (entries : List (α × String)) (start : Nat)
        (inside : ∀ entry ∈ entries, entry ∈ before ++ after) :
        (entries.zipIdx start).filter (fun entry => compilesInSet engine entry.1.2) =
          entries.zipIdx start := by
      apply List.filter_eq_self.mpr
      intro entry mem
      exact (valid entry.1 (inside _ (List.fst_mem_of_mem_zipIdx mem))).1
    rw [eligible, List.zipIdx_append, List.zipIdx_cons, List.filter_append,
      List.filter_cons, if_neg not_in_set, kept before 0 fun _ => List.mem_append_left _,
      kept after _ fun _ => List.mem_append_right _, Nat.zero_add]
  have texts : (eligible engine (before ++ rejected :: after)).map (·.1) = before ++ after := by
    simp [places]
  rw [← texts]
  apply findAt_built_of_members (eligible_accepted _) discerned.members_built
  rw [places]
  intro offset inside
  simp only [List.getElem_append, List.length_zipIdx, List.getElem_zipIdx]
  split <;> omega

/-- Every set answers like the set of the patterns that it is made of, or never matches. The
members are the patterns that can be such exactly if trying patterns on their own tells these
apart, and then the other patterns change nothing in what is matched: label, span and captures
are those of the set without them, and so is the place, counted in the whole list. Thus a pattern
that cannot be compiled, added anywhere, only moves the patterns behind it. -/
theorem rejected_patterns_inert (engine : Engine) :
    (∀ (patterns : List (α × String)) (line : Line) (position : Nat),
      (built engine patterns).findAt line position =
        if (chosen engine patterns).all fun entry => compilesInSet engine entry.1.2 then
          ((built engine ((chosen engine patterns).map (·.1))).findAt line position).map
            (SetMatch.relocate (placeIn (chosen engine patterns)))
        else none) ∧
      (∀ patterns : List (α × String),
        (built engine patterns).members = membersOf engine (eligible engine patterns) ↔
          Discerned engine patterns) ∧
      (∀ patterns : List (α × String), Discerned engine patterns → ∀ line position,
        (built engine patterns).findAt line position =
          ((built engine (patterns.filter fun entry => compilesInSet engine entry.2)).findAt line
            position).map (SetMatch.relocate (placeIn (eligible engine patterns)))) ∧
      ∀ (before after : List (α × String)) (rejected : α × String),
        (∀ entry ∈ before ++ after,
          compilesInSet engine entry.2 ∧ compilesAlone engine entry.2) →
        ¬ compilesInSet engine rejected.2 → ¬ compilesAlone engine rejected.2 →
        ∀ line position, (built engine (before ++ rejected :: after)).findAt line position =
          ((built engine (before ++ after)).findAt line position).map
            (SetMatch.relocate fun place =>
              if place < before.length then place else place + 1) := by
  refine ⟨findAt_built, ?_, ?_, ?_⟩
  · intro patterns
    exact ⟨discerned_of_members_built, Discerned.members_built⟩
  · intro patterns discerned
    exact discerned.findAt_built
  · intro before after rejected valid not_in_set not_alone
    exact findAt_built_insert valid not_in_set not_alone

theorem rejected_patterns_inert_range :
    Discerned Regex.engine [(1, "b"), (2, "[z-a]"), (3, "ab")] ∧
      (built Regex.engine [(1, "b"), (2, "[z-a]"), (3, "ab")]).findAt (.ofChars "xab".toList) 0 =
        ((built Regex.engine [(1, "b"), (3, "ab")]).findAt (.ofChars "xab".toList) 0).map
          (SetMatch.relocate (placeIn
            (eligible Regex.engine [(1, "b"), (2, "[z-a]"), (3, "ab")]))) ∧
      (built Regex.engine [(1, "b"), (2, "[z-a]"), (3, "ab")]).findAt (.ofChars "xab".toList) 0 =
        ((built Regex.engine [(1, "b"), (3, "ab")]).findAt (.ofChars "xab".toList) 0).map
          (SetMatch.relocate fun place => if place < 1 then place else place + 1) ∧
      ((built Regex.engine [(1, "b"), (2, "[z-a]"), (3, "ab")]).findAt (.ofChars "xab".toList)
        0).map (fun found => (found.label, found.index, found.start, found.stop)) =
          some (3, 2, 1, 3) := by
  have discerned : Discerned Regex.engine [(1, "b"), (2, "[z-a]"), (3, "ab")] :=
    .inr (.inr (by decide +kernel))
  have rest : [(1, "b"), (2, "[z-a]"), (3, "ab")].filter
      (fun entry => compilesInSet Regex.engine entry.2) = [(1, "b"), (3, "ab")] := by
    decide +kernel
  have law := rejected_patterns_inert (α := Nat) Regex.engine
  have omitted := law.2.2.1 _ discerned (.ofChars "xab".toList) 0
  rw [rest] at omitted
  have added := law.2.2.2 [(1, "b")] [(3, "ab")] (2, "[z-a]") (by decide +kernel)
    (by decide +kernel) (by decide +kernel) (.ofChars "xab".toList) 0
  exact ⟨discerned, omitted, added, by decide +kernel⟩

/-- A back-reference by number beside a group with a name is no pattern on its own, so a range
the wrong way round elsewhere in the list makes the set lose it. -/
theorem numbered_reference_lost :
    let patterns := [(1, "(?<n>a)\\1"), (2, "[z-a]")]
    (built Regex.engine patterns).findAt (.ofChars "aa".toList) 0 = none ∧
      (((built Regex.engine
        (patterns.filter fun entry => compilesInSet Regex.engine entry.2)).findAt
          (.ofChars "aa".toList) 0).map
            (SetMatch.relocate (placeIn (eligible Regex.engine patterns)))).map
        (fun found => (found.label, found.index, found.captures)) =
          some (1, 0, [some (0, 2), some (0, 1)]) := by
  intro patterns
  constructor
  · apply Option.isNone_iff_eq_none.mp
    decide +kernel
  · decide +kernel

end PatternSet

end ScopeTokenizer.Pattern
