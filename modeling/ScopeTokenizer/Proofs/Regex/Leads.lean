import ScopeTokenizer.Pattern.Engine
import ScopeTokenizer.Proofs.Pattern.Signs

/-!
# What alternatives start with

How a pattern is read is up to the engine. All that is asked of it here is to say whether each
alternative of a pattern starts with some part: with an anchor, or with the character that stands
for disabled anchors. An anchor holds where it is said to, and a character matches itself. Both are
single parts of patterns, so the one may stand for the other without a change to anything else.
-/

namespace ScopeTokenizer

open Pattern

/-- Whether a character after a backslash makes an anchor that is disabled. -/
def Pattern.Anchors.Disables (anchors : Anchors) (c : Char) : Prop :=
  c = 'A' ∧ anchors.start = false ∨ c = 'G' ∧ anchors.here = false

namespace Regex

/-! ## Disabled anchors -/

/-- The second text is the first one with some anchors disabled. -/
inductive Disabled (anchors : Anchors) : List Char → List Char → Prop where
  | nil : Disabled anchors [] []
  | lone : Disabled anchors ['\\'] ['\\']
  | plain {c : Char} {text other : List Char} : c ≠ '\\' → Disabled anchors text other →
      Disabled anchors (c :: text) (c :: other)
  | escape {c : Char} {text other : List Char} : ¬anchors.Disables c →
      Disabled anchors text other → Disabled anchors ('\\' :: c :: text) ('\\' :: c :: other)
  | anchor {c : Char} {text other : List Char} : anchors.Disables c →
      Disabled anchors text other →
      Disabled anchors ('\\' :: c :: text) (Anchors.placeholder :: other)

namespace Disabled

theorem of_ofText (anchors : Anchors) (text : List Char) :
    Disabled anchors text ((Sign.ofText text).flatMap fun sign => (sign.disable anchors).text) := by
  fun_induction Sign.ofText text with
  | case1 => exact .nil
  | case2 c =>
    split
    · next lone =>
      subst lone
      exact .lone
    · next plain => exact .plain plain .nil
  | case3 c text ih =>
    by_cases disables : anchors.Disables c
    · have disabled : Sign.disable anchors (.escaped c) = .plain Anchors.placeholder :=
        if_pos disables
      rw [List.flatMap_cons, disabled]
      exact .anchor disables ih
    · have kept : Sign.disable anchors (.escaped c) = .escaped c := if_neg disables
      rw [List.flatMap_cons, kept]
      exact .escape disables ih
  | case4 c d text plain ih => exact .plain plain ih

/-- Resolving a pattern disables anchors. -/
theorem resolve (anchors : Anchors) (pattern : String) :
    Disabled anchors pattern.toList (anchors.resolve pattern).toList := by
  rw [anchors.resolve_eq, String.toList_ofList]
  exact of_ofText anchors pattern.toList

end Disabled

/-! ## Leads -/

/-- A part that an alternative of a pattern may start with. -/
inductive Lead where
  /-- The anchor `\A`. -/
  | textStart
  /-- The anchor `\G`. -/
  | searchStart
  /-- The character that stands for disabled anchors. -/
  | placeholder
  deriving DecidableEq

namespace Lead

/-- Whether such a part may match at a position of a text, in a search from another one on. -/
def HoldsAt (text : Array Char) (first position : Nat) : Lead → Prop
  | textStart => position = 0
  | searchStart => position = first
  | placeholder => text[position]? = some Anchors.placeholder

/-- The part that is there after some anchors were disabled. -/
def disable (anchors : Anchors) : Lead → Lead
  | textStart => if anchors.start then textStart else placeholder
  | searchStart => if anchors.here then searchStart else placeholder
  | placeholder => placeholder

/-- Whether a part is an anchor that is inactive at the position where a search begins. The one for
the start of the text is so anywhere else. -/
def isInactive (anchors : Anchors) (position : Nat) : Lead → Bool
  | textStart => !anchors.start || decide (0 < position)
  | searchStart => !anchors.here
  | placeholder => false

/-- Parts of one kind are of another one after some anchors were disabled. -/
def Becomes (anchors : Anchors) (kind after : Lead → Bool) : Prop :=
  ∀ lead, kind lead = true → after (lead.disable anchors) = true

end Lead

end Regex

namespace Pattern.Engine

open Regex

variable {engine : Engine} {starts : (Lead → Bool) → String → Bool}

/-- What is relied on of an engine, where `starts` says whether each alternative of a pattern, as
the engine reads it, starts with a part of some kind. -/
structure StartLaws (engine : Engine) (starts : (Lead → Bool) → String → Bool) : Prop where
  /-- A pattern matches only where a part does that some alternative starts with. -/
  holds {kind : Lead → Bool} {pattern : String} {compiled : engine.Compiled} {text : Array Char}
      {searchStart here : Nat} {captures : Captures} :
    starts kind pattern = true → engine.compile? true pattern = some compiled →
    engine.matchAt compiled text searchStart here = some captures →
    ∃ lead, kind lead = true ∧ lead.HoldsAt text searchStart here
  /-- Anchors and the placeholder are single parts, so that alternatives stay what they are when the
  one is put in the place of the others. -/
  disabled {anchors : Anchors} {kind after : Lead → Bool} {pattern other : String}
      {compiled : engine.Compiled} :
    starts kind pattern = true → Disabled anchors pattern.toList other.toList →
    engine.compile? true other = some compiled → Lead.Becomes anchors kind after →
    starts after other = true
  /-- The placeholder is no special character. -/
  literal : starts (· == .placeholder) (String.singleton Anchors.placeholder) = true

namespace StartLaws

variable (laws : engine.StartLaws starts) {anchors : Anchors} {position here searchStart : Nat}
  {pattern : String} {compiled : engine.Compiled} {text : Array Char} {captures : Captures}

include laws

/-- A pattern each alternative of which starts with an inactive anchor matches only in front of the
placeholder. -/
theorem placeholder_of_isInactive
    (inactive : starts (Lead.isInactive anchors position) pattern = true)
    (compiles : engine.compile? true (anchors.resolve pattern) = some compiled)
    (later : position ≤ here)
    (matched : engine.matchAt compiled text searchStart here = some captures) :
    text[here]? = some Anchors.placeholder := by
  let left (lead : Lead) : Bool :=
    lead == .placeholder || lead == .textStart && decide (0 < position)
  have becomes : Lead.Becomes anchors (Lead.isInactive anchors position) left := by
    rintro (_ | _ | _) inactive
    · cases start : anchors.start with
      | true => simpa [Lead.isInactive, Lead.disable, left, start] using inactive
      | false => simp [Lead.disable, left, start]
    · have away : anchors.here = false := by simpa [Lead.isInactive] using inactive
      simp [Lead.disable, left, away]
    · cases inactive
  obtain ⟨lead, is, holds⟩ :=
    laws.holds (laws.disabled inactive (.resolve anchors pattern) compiles becomes) compiles matched
  cases lead with
  | placeholder => exact holds
  | searchStart => cases is
  | textStart =>
    -- The search is behind the start of the text.
    have after : 0 < position := by simpa [left] using is
    have first : here = 0 := holds
    omega

/-- The placeholder by itself matches only in front of one. -/
theorem placeholder_of_literal
    (compiles : engine.compile? true (String.singleton Anchors.placeholder) = some compiled)
    (matched : engine.matchAt compiled text searchStart here = some captures) :
    text[here]? = some Anchors.placeholder := by
  obtain ⟨lead, is, holds⟩ := laws.holds laws.literal compiles matched
  obtain rfl : lead = .placeholder := beq_iff_eq.mp is
  exact holds

end StartLaws

end Pattern.Engine

end ScopeTokenizer
