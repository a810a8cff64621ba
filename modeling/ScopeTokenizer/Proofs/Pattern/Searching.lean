import ScopeTokenizer.Pattern.Set

/-!
# Where matches lie

Two assumptions on an engine: that it only reports positions of the text, and that a match lies
between the place where the search began and the end of the text. Both carry over from single
positions to the search of a line.
-/

namespace ScopeTokenizer

namespace Line

theorem length_truncate (line : Line) (length : Nat) :
    (line.truncate length).length = min length line.length := by
  rw [truncate, length_ofChars]
  simp [slice, Line.length]

end Line

namespace Pattern

/-- Every position that is reported is one of the text, its end included. -/
def Engine.WithinText (engine : Engine) : Prop :=
  ∀ pattern text searchStart position captures span,
    position ≤ text.size →
    engine.matchAt pattern text searchStart position = some captures →
    some span ∈ captures → span.1 ≤ text.size ∧ span.2 ≤ text.size

/-- A match begins where its search began or after it, and ends after that, within the
text. -/
def Engine.Forward (engine : Engine) : Prop :=
  ∀ pattern text searchStart position captures span,
    searchStart ≤ position → position ≤ text.size →
    engine.matchAt pattern text searchStart position = some captures →
    captures.head? = some (some span) →
    searchStart ≤ span.1 ∧ span.1 ≤ span.2 ∧ span.2 ≤ text.size

namespace PatternSet

variable {α : Type} {engine : Engine}

/-- A match at a position is that of a member there. -/
theorem exists_of_matchAt {members : List (Member engine α)} {text : Array Char}
    {searchStart position : Nat} {found : SetMatch α}
    (run : matchAt text searchStart position members = some found) :
    ∃ member ∈ members, member.label = found.label ∧
      engine.matchAt member.pattern text searchStart position = some found.captures ∧
      (found.start, found.stop) = (found.captures.head?.join).getD (position, position) := by
  induction members with
  | nil => cases run
  | cons member members ih =>
    simp only [matchAt] at run
    split at run
    · next captures first =>
      cases run
      exact ⟨member, List.mem_cons_self, rfl, first, rfl⟩
    · obtain ⟨other, mem, facts⟩ := ih run
      exact ⟨other, List.mem_cons_of_mem _ mem, facts⟩

/-- A match that a search finds is found at one of its positions. -/
theorem exists_of_searchFrom {members : List (Member engine α)} {text : Array Char}
    {searchStart count position : Nat} {found : SetMatch α}
    (run : searchFrom members text searchStart count position = some found) :
    ∃ here, position ≤ here ∧ here < position + count ∧
      matchAt text searchStart here members = some found := by
  induction count generalizing position with
  | zero => cases run
  | succ count ih =>
    simp only [searchFrom] at run
    split at run
    · next first =>
      cases run
      exact ⟨position, Nat.le_refl _, by omega, first⟩
    · obtain ⟨here, above, below, at_here⟩ := ih run
      exact ⟨here, by omega, by omega, at_here⟩

/-- A match on a line is that of a member at a position of the line. -/
theorem exists_of_findAt {set : PatternSet engine α} {line : Line} {position : Nat}
    {found : SetMatch α} (run : set.findAt line position = some found) :
    ∃ here, min position line.length ≤ here ∧ here ≤ line.length ∧
      ∃ member ∈ set.members, member.label = found.label ∧
        engine.matchAt member.pattern line.chars (min position line.length) here =
          some found.captures ∧
        (found.start, found.stop) = (found.captures.head?.join).getD (here, here) := by
  obtain ⟨here, above, below, at_here⟩ := exists_of_searchFrom run
  exact ⟨here, above, by omega, exists_of_matchAt at_here⟩

/-- A match on a line has the label of one of the members. -/
theorem mem_of_findAt {set : PatternSet engine α} {line : Line} {position : Nat}
    {found : SetMatch α} (run : set.findAt line position = some found) :
    ∃ member ∈ set.members, member.label = found.label := by
  obtain ⟨-, -, -, member, mem, label, -⟩ := exists_of_findAt run
  exact ⟨member, mem, label⟩

/-- All positions of a match on a line are positions of the line, and of any longer one. -/
theorem findAt_within (within : engine.WithinText) {set : PatternSet engine α} {line : Line}
    {length position : Nat} (shorter : line.length ≤ length) {found : SetMatch α}
    (run : set.findAt line position = some found) :
    found.start ≤ length ∧ found.stop ≤ length ∧
      ∀ span, some span ∈ found.captures → span.1 ≤ length ∧ span.2 ≤ length := by
  obtain ⟨here, -, inside, member, -, -, at_here, whole⟩ := exists_of_findAt run
  have spans (span : Span) (mem : some span ∈ found.captures) :
      span.1 ≤ length ∧ span.2 ≤ length := by
    obtain ⟨start, stop⟩ := within member.pattern line.chars _ here _ span inside at_here mem
    exact ⟨Nat.le_trans start shorter, Nat.le_trans stop shorter⟩
  suffices ends : found.start ≤ length ∧ found.stop ≤ length from ⟨ends.1, ends.2, spans⟩
  cases captures : found.captures.head?.join with
  | none =>
    rw [captures, Option.getD_none, Prod.mk.injEq] at whole
    rw [whole.1, whole.2]
    exact ⟨Nat.le_trans inside shorter, Nat.le_trans inside shorter⟩
  | some span =>
    rw [captures, Option.getD_some] at whole
    have first := Option.join_eq_some_iff.mp captures
    have ends := spans span (List.mem_of_head? first)
    rwa [← whole] at ends

/-- A match on a line lies between the place where the search began and the end. -/
theorem findAt_forward (forward : engine.Forward) {set : PatternSet engine α} {line : Line}
    {position : Nat} (inside : position ≤ line.length) {found : SetMatch α}
    (run : set.findAt line position = some found) :
    position ≤ found.start ∧ found.start ≤ found.stop ∧ found.stop ≤ line.length := by
  obtain ⟨here, above, below, member, -, -, at_here, whole⟩ := exists_of_findAt run
  rw [Nat.min_eq_left inside] at above at_here
  cases captures : found.captures.head?.join with
  | none =>
    rw [captures, Option.getD_none, Prod.mk.injEq] at whole
    rw [whole.1, whole.2]
    exact ⟨above, Nat.le_refl _, below⟩
  | some span =>
    rw [captures, Option.getD_some] at whole
    have ends := forward member.pattern line.chars position here _ span above below at_here
      (Option.join_eq_some_iff.mp captures)
    rwa [← whole] at ends

end PatternSet

end Pattern

end ScopeTokenizer
