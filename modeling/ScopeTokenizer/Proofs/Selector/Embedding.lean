import Mathlib.Data.List.Forall2
import ScopeTokenizer.Proofs.Selector.Acceptance
import ScopeTokenizer.Scope.Path

/-!
# Paths in stacks of scopes

A path is looked for by taking the first scope that fits each of its names, and never going back
on that. Nothing is lost by it: if the names fit any scopes of the stack in the right order, then
they are found. For the same reason it does not matter from which end of the stack the search
begins, so the parents in a theme and the paths in a selector mean the same. What is found in a
stack is also found when there are further scopes between those of the stack, and this carries
over to all selectors that negate nothing.
-/

namespace ScopeTokenizer.Selector

/-! ## Greedy search -/

/-- Each name of a path fits the scope that it is paired with. -/
def Fit (scopes chosen : List String) : Prop :=
  List.Forall₂ (fun scope name => Scope.matchesSelector name scope) scopes chosen

/-- A path is found if it fits some scopes of the stack. Taking the first scope that fits leaves
the most scopes for the rest of the path. -/
theorem pathMatches_iff_exists_sublist (scopes names : List String) :
    pathMatches scopes names ↔ ∃ chosen, chosen.Sublist names ∧ Fit scopes chosen := by
  fun_induction pathMatches scopes names with
  | case1 names =>
    simp only [true_iff]
    exact ⟨[], List.nil_sublist names, .nil⟩
  | case2 scope scopes =>
    simp only [Bool.false_eq_true, List.sublist_nil, exists_eq_left, false_iff]
    intro fit
    cases fit
  | case3 scope scopes name names fits ih =>
    rw [ih]
    constructor
    · intro found
      obtain ⟨chosen, inside, fit⟩ := found
      exact ⟨name :: chosen, inside.cons_cons name, .cons fits fit⟩
    · intro found
      obtain ⟨chosen, inside, fit⟩ := found
      cases fit with
      | @cons _ first _ others _ fit =>
        -- Whichever scope was chosen first, the others stand behind the one that is taken.
        cases inside with
        | cons _ inside => exact ⟨others, (List.sublist_cons_self first others).trans inside, fit⟩
        | cons_cons _ inside => exact ⟨others, inside, fit⟩
  | case4 scope scopes name names fails ih =>
    rw [ih]
    constructor
    · intro found
      obtain ⟨chosen, inside, fit⟩ := found
      exact ⟨chosen, inside.cons name, fit⟩
    · intro found
      obtain ⟨chosen, inside, fit⟩ := found
      cases fit with
      | @cons _ first _ others fits fit =>
        cases inside with
        | cons _ inside => exact ⟨first :: others, inside, .cons fits fit⟩
        | cons_cons _ inside => exact absurd fits fails

/-- The scopes that a path fits, by their places in the stack. -/
theorem pathMatches_iff_exists_positions (scopes names : List String) :
    pathMatches scopes names ↔ ∃ positions : List (Fin names.length),
      positions.Pairwise (· < ·) ∧
        List.Forall₂ (fun scope position => Scope.matchesSelector names[position] scope)
          scopes positions := by
  rw [pathMatches_iff_exists_sublist]
  constructor
  · intro found
    obtain ⟨chosen, inside, fit⟩ := found
    obtain ⟨positions, rfl, increasing⟩ := List.sublist_eq_map_getElem inside
    exact ⟨positions, increasing, List.forall₂_map_right_iff.mp fit⟩
  · intro found
    obtain ⟨positions, increasing, fit⟩ := found
    exact ⟨positions.map fun position => names[position], List.map_getElem_sublist increasing,
      List.forall₂_map_right_iff.mpr fit⟩

/-- A path is found in a stack if it is found when both are reversed. -/
theorem pathMatches_reverse (scopes names : List String) :
    pathMatches scopes.reverse names.reverse = pathMatches scopes names := by
  have turn (scopes names : List String) (found : pathMatches scopes names) :
      pathMatches scopes.reverse names.reverse := by
    obtain ⟨chosen, inside, fit⟩ := (pathMatches_iff_exists_sublist scopes names).mp found
    rw [pathMatches_iff_exists_sublist]
    exact ⟨chosen.reverse, inside.reverse, List.forall₂_reverse_iff.mpr fit⟩
  rw [Bool.eq_iff_iff]
  constructor
  · intro found
    simpa using turn scopes.reverse names.reverse found
  · exact turn scopes names

/-- A path of scopes is searched from its innermost scope outwards. -/
theorem encloses_eq_pathMatches_reverse (path : ScopePath) (parents : List String) :
    path.encloses parents = pathMatches parents path.names.reverse := by
  induction path generalizing parents with
  | root name metadata =>
    cases parents with
    | nil => rfl
    | cons parent parents =>
      cases parents <;> simp [ScopePath.encloses, pathMatches]
  | push outer name metadata ih =>
    cases parents with
    | nil => simp
    | cons parent parents => simp [ScopePath.encloses, pathMatches, ih]

/-! ## Tests that negate nothing -/

/-- No part of the test is negated. -/
inductive Matcher.Positive : Matcher → Prop where
  | path (scopes : List String) : Positive (.path scopes)
  | all {matchers : List Matcher} (each : ∀ matcher ∈ matchers, Positive matcher) :
      Positive (.all matchers)
  | any {matchers : List Matcher} (each : ∀ matcher ∈ matchers, Positive matcher) :
      Positive (.any matchers)

/-- A test that negates nothing still succeeds when scopes are added to the stack. -/
theorem Matcher.Positive.holds_of_sublist {matcher : Matcher} (positive : matcher.Positive)
    {names more : List String} (inside : names.Sublist more) (holds : matcher.holds names) :
    matcher.holds more := by
  induction positive with
  | path scopes =>
    simp only [Matcher.holds] at holds ⊢
    obtain ⟨chosen, found, fit⟩ := (pathMatches_iff_exists_sublist scopes names).mp holds
    rw [pathMatches_iff_exists_sublist]
    exact ⟨chosen, found.trans inside, fit⟩
  | all each ih =>
    simp only [Matcher.holds, Matcher.allHold_eq, List.all_eq_true] at holds ⊢
    intro matcher member
    exact ih matcher member (holds matcher member)
  | any each ih =>
    simp only [Matcher.holds, Matcher.anyHolds_eq, List.any_eq_true] at holds ⊢
    obtain ⟨matcher, member, succeeds⟩ := holds
    exact ⟨matcher, member, ih matcher member succeeds⟩

theorem Joined.positive {join : List Matcher → Matcher} {matchers : List Matcher}
    {matcher : Matcher} (joined : Joined join matchers matcher)
    (join_positive : (∀ each ∈ matchers, each.Positive) → (join matchers).Positive)
    (each : ∀ each ∈ matchers, each.Positive) : matcher.Positive := by
  rcases joined with rfl | ⟨_, rfl⟩
  · exact each matcher List.mem_cons_self
  · exact join_positive each

mutual

theorem IsOperand.positive {tokens : List Token} {matcher : Matcher}
    (valid : IsOperand tokens matcher) (without : .minus ∉ tokens) : matcher.Positive := by
  match valid with
  | .path _ _ => exact .path _
  | .not _ => exact absurd List.mem_cons_self without
  | .group choices joined =>
    have each := choices.positive (fun member => without (by simp [member]))
    exact joined.positive .any each

theorem IsOperands.positive {tokens : List Token} {matchers : List Matcher}
    (valid : IsOperands tokens matchers) (without : .minus ∉ tokens) :
    ∀ matcher ∈ matchers, matcher.Positive := by
  match valid with
  | .last operand => simpa using operand.positive without
  | .more operand _ operands =>
    have first := operand.positive (fun member => without (by simp [member]))
    have others := operands.positive (fun member => without (by simp [member]))
    simpa using ⟨first, others⟩

theorem IsChoices.positive {separators tokens : List Token} {matchers : List Matcher}
    (valid : IsChoices separators tokens matchers) (without : .minus ∉ tokens) :
    ∀ matcher ∈ matchers, matcher.Positive := by
  match valid with
  | .last operands joined =>
    simpa using joined.positive .all (operands.positive without)
  | .more operands joined _ choices =>
    have first := joined.positive .all
      (operands.positive (fun member => without (by simp [member])))
    have others := choices.positive (fun member => without (by simp [member]))
    simpa using ⟨first, others⟩

end

/-- The parts of a selector in which no minus is written negate nothing. -/
theorem IsSelector.positive {tokens : List Token} {parts : List Part}
    (valid : IsSelector tokens parts) (without : .minus ∉ tokens) :
    ∀ part ∈ parts, part.matcher.Positive := by
  have one {tokens : List Token} {part : Part} (valid : IsPart tokens part)
      (without : .minus ∉ tokens) : part.matcher.Positive := by
    cases valid with
    | mk _ choices joined =>
      exact joined.positive .any (choices.positive (fun member => without (by simp [member])))
  induction valid with
  | nil => simp
  | last valid => simpa using one valid without
  | more valid _ ih =>
    have first := one valid (fun member => without (by simp [member]))
    have others := ih (fun member => without (by simp [member]))
    simpa using ⟨first, others⟩

/-- Searching for a path step by step finds it wherever it can be found at all: at places of the
stack that increase, and each of which fits the name that is looked for. The parents that a theme
asks for are found by the same rule, though the search begins at the other end. So a selector
without a minus that succeeds on a stack of scopes succeeds on every stack with more scopes in
between. -/
theorem greedy_search_complete :
    (∀ scopes names : List String, pathMatches scopes names ↔
      ∃ positions : List (Fin names.length), positions.Pairwise (· < ·) ∧
        List.Forall₂ (fun scope position => Scope.matchesSelector names[position] scope)
          scopes positions) ∧
      (∀ (path : ScopePath) (parents : List String),
        path.encloses parents = pathMatches parents.reverse path.names) ∧
      (∀ (matcher : Matcher) (names more : List String), matcher.Positive →
        names.Sublist more → matcher.holds names → matcher.holds more) ∧
      ∀ (text : String) (tokens : List Token) (parts : List Part),
        Token.readAll 0 text.toList = .ok tokens → .minus ∉ tokens → ofText text = .ok parts →
        ∀ part ∈ parts, ∀ names more : List String, names.Sublist more →
          part.matcher.holds names → part.matcher.holds more := by
  refine ⟨pathMatches_iff_exists_positions, ?_, ?_, ?_⟩
  · intro path parents
    rw [encloses_eq_pathMatches_reverse, ← pathMatches_reverse, List.reverse_reverse]
  · intro matcher names more positive inside holds
    exact positive.holds_of_sublist inside holds
  · intro text tokens parts read without accepted part member names more inside holds
    rw [ofText, read] at accepted
    have positive := (isSelector_of_parts accepted).positive without part member
    exact positive.holds_of_sublist inside holds

/-- Whether a selector has parts and no minus, and all its parts succeed on a stack of scopes. -/
def succeeds (text : String) (names : List String) : Bool :=
  match Token.readAll 0 text.toList, ofText text with
  | .ok tokens, .ok parts =>
    !tokens.contains .minus && !parts.isEmpty && parts.all fun part => part.matcher.holds names
  | _, _ => false

theorem greedy_search_complete_quoted : ∃ tokens parts,
    Token.readAll 0 "source (string | foo-bar)".toList = .ok tokens ∧ .minus ∉ tokens ∧
      ofText "source (string | foo-bar)" = .ok parts ∧ parts ≠ [] ∧ ∀ part ∈ parts,
        part.matcher.holds ["source.js", "string.quoted"] ∧
          part.matcher.holds ["source.js", "meta.block", "string.quoted", "escape"] := by
  have checked : succeeds "source (string | foo-bar)" ["source.js", "string.quoted"] := by
    decide +kernel
  unfold succeeds at checked
  split at checked
  case h_1 tokens parts read accepted =>
    simp only [Bool.and_eq_true, Bool.not_eq_true', List.isEmpty_eq_false_iff,
      List.all_eq_true] at checked
    obtain ⟨⟨without, nonempty⟩, holds⟩ := checked
    have without : .minus ∉ tokens := by simpa using without
    refine ⟨tokens, parts, read, without, accepted, nonempty, ?_⟩
    intro part member
    refine ⟨holds part member, ?_⟩
    have inside : ["source.js", "string.quoted"].Sublist
        ["source.js", "meta.block", "string.quoted", "escape"] := by decide
    exact greedy_search_complete.2.2.2 _ tokens parts read without accepted part member _ _ inside
      (holds part member)
  case h_2 => cases checked

end ScopeTokenizer.Selector
