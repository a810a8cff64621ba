import ScopeTokenizer.Proofs.Regex.Leads
import ScopeTokenizer.Regex.Match

/-!
# How expressions begin

An expression may have to begin with a part of some kind, whichever of its alternatives is taken.
Then it matches only where such a part does. For the character that stands for disabled anchors that
is so in any case of letters, because no other character folds to it.
-/

namespace ScopeTokenizer

open Pattern

/-! ## Foldings -/

namespace Unicode

/-- What a table maps a code point to stands in one of its entries. -/
theorem CaseTable.exists_of_find? {table : CaseTable} {code low high steps : Nat}
    {image : List Char} (run : table.find? code low high steps = some image) :
    ∃ entry ∈ table.entries.toList, entry.2 = image := by
  induction steps generalizing low high with
  | zero => cases run
  | succ steps ih =>
    simp only [find?] at run
    split at run
    · split at run
      · cases run
      · next other found at_middle =>
        split at run
        · cases run
          exact ⟨_, Array.mem_toList_iff.mpr (Array.mem_of_getElem? at_middle), rfl⟩
        · split at run
          · exact ih run
          · exact ih run
    · cases run

/-- No entry maps to nothing, or to a text that begins with the placeholder. -/
theorem image_of_mem_fold : ∀ entry ∈ CaseMapping.fold.entries.toList,
    entry.2 ≠ [] ∧ entry.2.head? ≠ some Anchors.placeholder := by
  have looked : CaseMapping.fold.entries.toList.all
      (fun entry => entry.2 ≠ [] && entry.2.head? ≠ some Anchors.placeholder) = true := by
    decide +kernel
  intro entry mem
  simpa using List.all_eq_true.mp looked entry mem

theorem fold_placeholder : fold Anchors.placeholder = [Anchors.placeholder] := by decide +kernel

/-- A character folds to itself, or to what some entry of the table says. -/
theorem fold_cases (c : Char) :
    fold c = [c] ∨ ∃ entry ∈ CaseMapping.fold.entries.toList, entry.2 = fold c := by
  unfold fold CaseTable.apply
  cases run : CaseMapping.fold.find? c.toNat 0 CaseMapping.fold.entries.size
      CaseMapping.fold.entries.size with
  | none => exact .inl rfl
  | some image => exact .inr (CaseTable.exists_of_find? run)

theorem fold_ne_nil (c : Char) : fold c ≠ [] := by
  rcases fold_cases c with itself | ⟨entry, mem, is⟩
  · simp [itself]
  · exact is ▸ (image_of_mem_fold entry mem).1

/-- Only the placeholder folds to a text that begins with it. -/
theorem eq_placeholder_of_head?_fold {c : Char}
    (head : (fold c).head? = some Anchors.placeholder) : c = Anchors.placeholder := by
  rcases fold_cases c with itself | ⟨entry, mem, is⟩
  · simpa [itself] using head
  · exact absurd (is ▸ head) (image_of_mem_fold entry mem).2

end Unicode

namespace Regex.Expr

/-! ## Beginnings -/

/-- Whether an expression stands for no text at all. -/
def isBlank : Expr → Bool
  | empty => true
  | folded image => image.isEmpty
  | seq first second => first.isBlank && second.isBlank
  | _ => false

/-- Whether all alternatives of an expression begin with a part of some kind. -/
def begins (kind : Expr → Bool) : Expr → Bool
  | seq first second => first.begins kind || (first.isBlank && second.begins kind)
  | alt first second => first.begins kind && second.begins kind
  | group _ body | atomic body => body.begins kind
  | look negative body => !negative && body.begins kind
  | repeated low _ _ body => decide (0 < low) && body.begins kind
  | expr => kind expr

/-- Whether an expression is a part of some kind that alternatives may start with. -/
def leads (kind : Lead → Bool) : Expr → Bool
  | anchor .textStart => kind .textStart
  | anchor .searchStart => kind .searchStart
  | literal c => c == Anchors.placeholder && kind .placeholder
  | folded image => image.head? == some Anchors.placeholder && kind .placeholder
  | _ => false

/-! ## Sequences -/

theorem isEmpty_append (image other : List Char) :
    (image ++ other).isEmpty = (image.isEmpty && other.isEmpty) := by
  cases image <;> rfl

@[simp] theorem isBlank_append (first second : Expr) :
    (first.append second).isBlank = (first.isBlank && second.isBlank) := by
  fun_induction append first second with
  | case1 => rfl
  | case2 first second last ih₂ ih₁ => simp [isBlank, ih₁, ih₂, Bool.and_assoc]
  | case3 image other => exact isEmpty_append image other
  | case4 image other last => simp [isBlank, isEmpty_append, Bool.and_assoc]
  | case5 => simp [isBlank]
  | case6 => rfl

variable {kind : Lead → Bool}

/-- Texts that are joined begin as the first one does that is not blank. -/
theorem leads_folded_append (kind : Lead → Bool) (image other : List Char) :
    leads kind (folded (image ++ other)) =
      (leads kind (folded image) || image.isEmpty && leads kind (folded other)) := by
  cases image with
  | nil => rfl
  | cons c image => simp [leads]

/-- The first one of two expressions begins both, unless it is blank. -/
theorem begins_append (kind : Lead → Bool) (first second : Expr) :
    (first.append second).begins (leads kind) =
      (first.begins (leads kind) || first.isBlank && second.begins (leads kind)) := by
  fun_induction append first second with
  | case1 => rfl
  | case2 first second last ih₂ ih₁ =>
    simp [begins, isBlank, ih₁, ih₂, Bool.or_assoc, Bool.and_assoc, Bool.and_or_distrib_left]
  | case3 image other => exact leads_folded_append kind image other
  | case4 image other last =>
    simp [begins, isBlank, leads_folded_append, isEmpty_append, Bool.or_assoc, Bool.and_assoc,
      Bool.and_or_distrib_left]
  | case5 first => simp [begins, leads]
  | case6 => rfl

/-! ## Matching -/

theorem run_of_isBlank {expr : Expr} (blank : expr.isBlank = true) (subject : Subject)
    (call : Nat → Step) (state : State) (rest : Rest) :
    expr.run subject call state rest = rest state := by
  induction expr generalizing rest with
  | empty => rfl
  | folded image =>
    obtain rfl : image = [] := List.isEmpty_iff.mp blank
    rfl
  | seq first second ih₁ ih₂ =>
    rw [isBlank, Bool.and_eq_true] at blank
    exact (ih₁ blank.1 _).trans (ih₂ blank.2 rest)
  | _ => cases blank

theorem char?_of_foldedEnd? {subject : Subject} {limit steps position last : Nat}
    {image : List Char}
    (run : subject.foldedEnd? limit steps (Anchors.placeholder :: image) position = some last) :
    subject.char? position = some Anchors.placeholder := by
  cases steps with
  | zero => cases run
  | succ steps =>
    rw [Subject.foldedEnd?] at run
    split at run
    · cases run
    · next c at_position =>
      rw [at_position, Option.some.injEq]
      dsimp only at run
      split at run
      · next fits =>
        have front := List.isPrefixOf_iff_prefix.mp (Bool.and_eq_true_iff.mp fits).2
        apply Unicode.eq_placeholder_of_head?_fold
        cases folding : Unicode.fold c with
        | nil => exact absurd folding (Unicode.fold_ne_nil c)
        | cons d others =>
          rw [folding] at front
          rw [List.head?_cons, (List.cons_prefix_cons.mp front).1]
      · cases run

theorem char?_of_takeChar {subject : Subject} {passes : Char → Bool} {state last : State}
    {rest : Rest} (run : takeChar subject passes state rest = some last) :
    ∃ c, subject.char? state.position = some c ∧ passes c = true := by
  unfold takeChar at run
  split at run
  · next c found =>
    split at run
    · next passed => exact ⟨c, found, (Bool.and_eq_true_iff.mp passed).2⟩
    · cases run
  · cases run

/-- An expression that begins with parts of a kind matches only where such a part does. -/
theorem exists_lead_of_run {expr : Expr} {subject : Subject} {call : Nat → Step}
    {state last : State} {rest : Rest} (begun : expr.begins (leads kind) = true)
    (matched : expr.run subject call state rest = some last) :
    ∃ lead, kind lead = true ∧ lead.HoldsAt subject.text subject.searchStart state.position := by
  induction expr generalizing rest last with
  | literal c =>
    obtain ⟨is, among⟩ := Bool.and_eq_true_iff.mp begun
    obtain ⟨d, found, same⟩ := char?_of_takeChar matched
    refine ⟨.placeholder, among, ?_⟩
    rw [Lead.HoldsAt, ← beq_iff_eq.mp is, ← beq_iff_eq.mp same]
    exact found
  | folded image =>
    obtain ⟨is, among⟩ := Bool.and_eq_true_iff.mp begun
    obtain ⟨stop, ends, -⟩ := Option.bind_eq_some_iff.mp matched
    cases image with
    | nil => cases is
    | cons c image =>
      obtain rfl : c = Anchors.placeholder := by simpa using is
      exact ⟨.placeholder, among, char?_of_foldedEnd? ends⟩
  | seq first second ih₁ ih₂ =>
    simp only [begins, Bool.or_eq_true, Bool.and_eq_true] at begun
    rcases begun with begun | ⟨blank, begun⟩
    · exact ih₁ begun matched
    · exact ih₂ begun ((run_of_isBlank blank subject call state _).symm.trans matched)
  | alt first second ih₁ ih₂ =>
    obtain ⟨begun₁, begun₂⟩ := Bool.and_eq_true_iff.mp begun
    cases left : first.run subject call state rest with
    | some next => exact ih₁ begun₁ left
    | none =>
      simp only [run, tryBoth, left] at matched
      exact ih₂ begun₂ matched
  | group number body ih => exact ih begun matched
  | repeated low high greedy body ih =>
    simp only [begins, Bool.and_eq_true, decide_eq_true_eq] at begun
    obtain ⟨least, begun⟩ := begun
    obtain ⟨low, rfl⟩ := Nat.exists_eq_add_one_of_ne_zero (Nat.ne_of_gt least)
    -- The first repetition is taken in any case.
    cases high with
    | none =>
      simp only [run, iterate] at matched
      exact ih begun matched
    | some high =>
      simp only [run, iterate] at matched
      exact ih begun matched
  | atomic body ih =>
    obtain ⟨next, inside, -⟩ := Option.bind_eq_some_iff.mp matched
    exact ih begun inside
  | look negative body ih =>
    simp only [begins, Bool.and_eq_true, Bool.not_eq_true'] at begun
    obtain ⟨rfl, begun⟩ := begun
    cases inside : body.run subject call state some with
    | some next => exact ih begun inside
    | none =>
      simp only [run, inside, Bool.false_eq_true, if_false] at matched
      cases matched
  | anchor condition =>
    obtain ⟨holds, -⟩ := Option.ite_none_right_eq_some.mp matched
    cases condition with
    | textStart => exact ⟨.textStart, begun, beq_iff_eq.mp holds⟩
    | searchStart => exact ⟨.searchStart, begun, beq_iff_eq.mp holds⟩
    | textEnd | lastLineEnd | lineStart | lineEnd | boundary | noBoundary => cases begun
  | empty | fail | set | behind | keep | backref | call | conditional | captured | absent =>
    cases begun

end Regex.Expr

end ScopeTokenizer
