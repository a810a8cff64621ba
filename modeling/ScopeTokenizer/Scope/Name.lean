/-!
# Scope names

A scope name is a dotted path such as `string.quoted.double`. A name falls under
another one when it is that name or continues it after a dot.
-/

namespace ScopeTokenizer.Scope

/-- Whether `scope` is `selector` or lies below it: `string.quoted` falls under
`string`, and `strings` does not. -/
def fallsUnder (scope selector : List Char) : Bool :=
  match scope, selector with
  | [], [] => true
  | c :: _, [] => c = '.'
  | [], _ :: _ => false
  | c :: scope, d :: selector => c = d && fallsUnder scope selector

/-- `fallsUnder` on names kept as strings. -/
def matchesSelector (scope selector : String) : Bool :=
  fallsUnder scope.toList selector.toList

theorem fallsUnder_iff (scope selector : List Char) :
    fallsUnder scope selector ↔ scope = selector ∨ ∃ rest, scope = selector ++ '.' :: rest := by
  induction scope generalizing selector with
  | nil => cases selector <;> simp [fallsUnder]
  | cons c scope ih =>
    cases selector with
    | nil => simp [fallsUnder]
    | cons d selector =>
      simp only [fallsUnder, Bool.and_eq_true, decide_eq_true_eq, ih, List.cons.injEq,
        List.cons_append]
      constructor
      · rintro ⟨rfl, rfl | ⟨rest, rfl⟩⟩
        · exact .inl ⟨rfl, rfl⟩
        · exact .inr ⟨rest, rfl, rfl⟩
      · rintro (⟨rfl, rfl⟩ | ⟨rest, rfl, rfl⟩)
        · exact ⟨rfl, .inl rfl⟩
        · exact ⟨rfl, .inr ⟨rest, rfl⟩⟩

/-- A name always falls under itself. -/
@[simp] theorem fallsUnder_self (scope : List Char) : fallsUnder scope scope :=
  (fallsUnder_iff scope scope).2 (.inl rfl)

end ScopeTokenizer.Scope
