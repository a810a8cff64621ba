import ScopeTokenizer.Proofs.Selector.Pieces
import ScopeTokenizer.Selector.Reader

/-!
# The syntax of selectors

What a selector is, said by which tokens its parts are made of, and without saying how it is read.
Scope names that follow each other are one path, which is why two operands in a row may not split a
run of them.
-/

namespace ScopeTokenizer.Selector

/-! ## What selectors are -/

/-- `Stem name stem` says that `stem` is `name` up to its first `.*`, or all of it without one. -/
def Stem (name stem : List Char) : Prop :=
  ¬ ['.', '*'] <:+: stem ∧ (stem = name ∨ ∃ after, name = stem ++ '.' :: '*' :: after)

/-- Tests that are one test together: the only one, or two and more that are joined. -/
def Joined (join : List Matcher → Matcher) (matchers : List Matcher) (matcher : Matcher) : Prop :=
  matchers = [matcher] ∨ 2 ≤ matchers.length ∧ matcher = join matchers

/-- Two lists of tokens do not split a run of scope names between them. -/
def Apart (first second : List Token) : Prop :=
  ∀ name other, .scope name ∈ first.getLast? → .scope other ∉ second.head?

mutual

/-- The tokens of an operand, and its test. -/
inductive IsOperand : List Token → Matcher → Prop where
  | path {names stems : List (List Char)} (nonempty : names ≠ [])
      (cut : List.Forall₂ Stem names stems) :
      IsOperand (names.map .scope) (.path (stems.map String.ofList))
  | not {tokens : List Token} {matcher : Matcher} (operand : IsOperand tokens matcher) :
      IsOperand (.minus :: tokens) (.not matcher)
  | group {tokens : List Token} {matchers : List Matcher} {matcher : Matcher}
      (choices : IsChoices [.bar, .comma] tokens matchers) (joined : Joined .any matchers matcher) :
      IsOperand (.open :: (tokens ++ [.close])) matcher

/-- The tokens of operands in a row, at least one, and their tests. -/
inductive IsOperands : List Token → List Matcher → Prop where
  | last {tokens : List Token} {matcher : Matcher} (operand : IsOperand tokens matcher) :
      IsOperands tokens [matcher]
  | more {first others : List Token} {matcher : Matcher} {matchers : List Matcher}
      (operand : IsOperand first matcher) (apart : Apart first others)
      (operands : IsOperands others matchers) : IsOperands (first ++ others) (matcher :: matchers)

/-- The tokens of conjunctions with separators between them, at least one, and their tests. -/
inductive IsChoices : List Token → List Token → List Matcher → Prop where
  | last {separators tokens : List Token} {matchers : List Matcher} {matcher : Matcher}
      (operands : IsOperands tokens matchers) (joined : Joined .all matchers matcher) :
      IsChoices separators tokens [matcher]
  | more {separators first others : List Token} {separator : Token}
      {matchers others' : List Matcher} {matcher : Matcher}
      (operands : IsOperands first matchers) (joined : Joined .all matchers matcher)
      (separates : separator ∈ separators) (choices : IsChoices separators others others') :
      IsChoices separators (first ++ separator :: others) (matcher :: others')

end

/-- The tokens that give a part its priority. -/
def Priority.mark : Priority → List Token
  | left => [.left]
  | neutral => []
  | right => [.right]

/-- The tokens of one part of a selector. -/
inductive IsPart : List Token → Part → Prop where
  | mk {tokens : List Token} {matchers : List Matcher} {matcher : Matcher} (priority : Priority)
      (choices : IsChoices [.bar] tokens matchers) (joined : Joined .any matchers matcher) :
      IsPart (priority.mark ++ tokens) ⟨matcher, priority⟩

/-- The tokens of a selector, and its parts. After the last part there may be one more comma. -/
inductive IsSelector : List Token → List Part → Prop where
  | nil : IsSelector [] []
  | last {tokens : List Token} {part : Part} (valid : IsPart tokens part) :
      IsSelector tokens [part]
  | more {first others : List Token} {part : Part} {parts : List Part} (valid : IsPart first part)
      (selector : IsSelector others parts) : IsSelector (first ++ .comma :: others) (part :: parts)

/-! ## Paths -/

theorem stem_withoutWildcard (name : List Char) : Stem name (withoutWildcard name) := by
  fun_induction withoutWildcard name with
  | case1 => exact ⟨by simp, .inl rfl⟩
  | case2 after => exact ⟨by simp, .inr ⟨after, rfl⟩⟩
  | case3 c rest uncut ih =>
    obtain ⟨none, whole⟩ := ih
    refine ⟨fun found => ?_, ?_⟩
    · rcases List.infix_cons_iff.mp found with ⟨after, front⟩ | found
      · obtain ⟨rfl, star⟩ := List.cons.inj front
        rw [← star] at whole
        rcases whole with whole | ⟨later, whole⟩
        · exact uncut _ rfl whole.symm
        · exact uncut _ rfl whole
      · exact none found
    · exact whole.imp (congrArg (c :: ·)) fun ⟨after, whole⟩ => ⟨after, congrArg (c :: ·) whole⟩

theorem Stem.eq_withoutWildcard {name stem : List Char} (valid : Stem name stem) :
    stem = withoutWildcard name := by
  obtain ⟨none, whole⟩ := valid
  fun_induction withoutWildcard name generalizing stem with
  | case1 => simpa using whole
  | case2 after =>
    rcases whole with rfl | ⟨later, whole⟩
    · exact absurd ⟨[], after, rfl⟩ none
    · match stem with
      | [] => rfl
      | [c] => simp at whole
      | c :: d :: stem =>
        obtain ⟨rfl, rfl, -⟩ : '.' = c ∧ '*' = d ∧ _ := by simpa using whole
        exact absurd ⟨[], stem, rfl⟩ none
  | case3 c rest uncut ih =>
    rcases whole with rfl | ⟨later, whole⟩
    · rw [← ih (fun found => none (List.infix_cons found)) (.inl rfl)]
    · cases stem with
      | nil =>
        obtain ⟨rfl, rfl⟩ := List.cons.inj whole
        exact absurd rfl (uncut later rfl)
      | cons d stem =>
        obtain ⟨rfl, rfl⟩ := List.cons.inj whole
        rw [← ih (fun found => none (List.infix_cons found)) (.inr ⟨later, rfl⟩)]

theorem stems_eq {names stems : List (List Char)} (cut : List.Forall₂ Stem names stems) :
    stems = names.map withoutWildcard := by
  induction cut with
  | nil => rfl
  | cons valid _ ih => rw [List.map_cons, ih, valid.eq_withoutWildcard]

theorem forall₂_stem (names : List (List Char)) :
    List.Forall₂ Stem names (names.map withoutWildcard) := by
  induction names with
  | nil => exact .nil
  | cons name names ih => exact .cons (stem_withoutWildcard name) ih

/-- Whether an operand may begin with a token. -/
def Token.startsOperand : Token → Bool
  | .minus | .open | .scope _ => true
  | _ => false

/-- No operand begins at the front of these tokens. -/
def Bare (tokens : List Token) : Prop := ∀ token ∈ tokens.head?, token.startsOperand = false

theorem Bare.apart {tokens : List Token} (bare : Bare tokens) (used : List Token) :
    Apart used tokens := by
  intro name other _ first
  cases bare _ first

/-- The scope names at the front of some tokens are a whole run of them. -/
theorem exists_scopes (tokens : List Token) :
    ∃ names : List (List Char), tokens = names.map .scope ++ afterScopes tokens ∧
      leadingScopes tokens = (names.map withoutWildcard).map String.ofList ∧
      ∀ name, .scope name ∉ (afterScopes tokens).head? := by
  fun_induction afterScopes tokens with
  | case1 name tokens ih =>
    obtain ⟨names, whole, stems, last⟩ := ih
    refine ⟨name :: names, congrArg (.scope name :: ·) whole, ?_, last⟩
    rw [leadingScopes, stems]
    rfl
  | case2 tokens none =>
    refine ⟨[], rfl, ?_, fun name first => ?_⟩
    · unfold leadingScopes
      split
      · exact absurd rfl (none _ _)
      · rfl
    · cases tokens with
      | nil => cases first
      | cons token tokens =>
        cases first
        exact none _ _ rfl

theorem leadingScopes_map_append (names : List (List Char)) {rest : List Token}
    (last : ∀ name, .scope name ∉ rest.head?) :
    leadingScopes (names.map .scope ++ rest) = (names.map withoutWildcard).map String.ofList := by
  induction names with
  | nil =>
    rw [List.map_nil, List.nil_append]
    unfold leadingScopes
    split
    · exact absurd rfl (last _)
    · rfl
  | cons name names ih => rw [List.map_cons, List.cons_append, leadingScopes, ih]; rfl

theorem afterScopes_map_append (names : List (List Char)) {rest : List Token}
    (last : ∀ name, .scope name ∉ rest.head?) : afterScopes (names.map .scope ++ rest) = rest := by
  induction names with
  | nil =>
    rw [List.map_nil, List.nil_append]
    unfold afterScopes
    split
    · exact absurd rfl (last _)
    · rfl
  | cons name names ih => rw [List.map_cons, List.cons_append, afterScopes, ih]

/-! ## Tests that are joined -/

theorem joined_conjunction {matchers : List Matcher} {matcher : Matcher} :
    conjunction matchers = some matcher ↔ Joined .all matchers matcher := by
  match matchers with
  | [] => simp [conjunction, Joined]
  | [only] => simp [conjunction, Joined]
  | first :: second :: others => simp [conjunction, Joined, eq_comm]

theorem joined_choice {matchers : List Matcher} (nonempty : matchers ≠ []) {matcher : Matcher} :
    Joined .any matchers matcher ↔ matcher = choice matchers := by
  match matchers with
  | [only] => simp [choice, Joined, eq_comm]
  | first :: second :: others => simp [choice, Joined]

/-! ## Runs of scope names that stay whole -/

theorem Apart.concat {used rest : List Token} {token : Token}
    (closed : ∀ name, token ≠ .scope name) : Apart (used ++ [token]) rest := by
  intro name other final
  rw [List.getLast?_concat] at final
  cases final
  exact absurd rfl (closed _)

theorem Apart.cons {used rest : List Token} {token : Token} (apart : Apart used rest)
    (nonempty : used ≠ []) : Apart (token :: used) rest := by
  intro name other final
  rw [List.getLast?_cons_of_ne_nil nonempty] at final
  exact apart name other final

theorem Apart.left_of_append {used more rest : List Token} (apart : Apart used (more ++ rest))
    (nonempty : more ≠ []) : Apart used more := by
  intro name other final first
  refine apart name other final ?_
  rw [List.head?_append_of_ne_nil _ nonempty]
  exact first

theorem Apart.append {used more : List Token} (apart : Apart used more) (nonempty : more ≠ [])
    (rest : List Token) : Apart used (more ++ rest) := by
  intro name other final
  rw [List.head?_append_of_ne_nil _ nonempty]
  exact apart name other final

theorem Apart.of_cons {used rest : List Token} {token : Token} (apart : Apart (token :: used) rest)
    (nonempty : used ≠ []) : Apart used rest := by
  intro name other final
  refine apart name other ?_
  rw [List.getLast?_cons_of_ne_nil nonempty]
  exact final

/-! ## The first tokens -/

theorem IsOperand.exists_cons {tokens : List Token} {matcher : Matcher}
    (valid : IsOperand tokens matcher) :
    ∃ first others, tokens = first :: others ∧ first.startsOperand := by
  cases valid with
  | path nonempty =>
    obtain ⟨name, names, rfl⟩ := List.exists_cons_of_ne_nil nonempty
    exact ⟨_, _, rfl, rfl⟩
  | not => exact ⟨_, _, rfl, rfl⟩
  | group => exact ⟨_, _, rfl, rfl⟩

theorem IsOperands.exists_cons {tokens : List Token} {matchers : List Matcher}
    (valid : IsOperands tokens matchers) :
    ∃ first others, tokens = first :: others ∧ first.startsOperand := by
  cases valid with
  | last operand => exact operand.exists_cons
  | more operand =>
    obtain ⟨first, others, rfl, starts⟩ := operand.exists_cons
    exact ⟨first, _, rfl, starts⟩

theorem IsChoices.exists_cons {separators tokens : List Token} {matchers : List Matcher}
    (valid : IsChoices separators tokens matchers) :
    ∃ first others, tokens = first :: others ∧ first.startsOperand := by
  cases valid with
  | last operands => exact operands.exists_cons
  | more operands =>
    obtain ⟨first, others, rfl, starts⟩ := operands.exists_cons
    exact ⟨first, _, rfl, starts⟩

theorem IsOperand.ne_nil {tokens : List Token} {matcher : Matcher}
    (valid : IsOperand tokens matcher) : tokens ≠ [] := by
  obtain ⟨first, others, rfl, -⟩ := valid.exists_cons
  exact List.cons_ne_nil _ _

theorem IsOperands.tokens_ne_nil {tokens : List Token} {matchers : List Matcher}
    (valid : IsOperands tokens matchers) : tokens ≠ [] := by
  obtain ⟨first, others, rfl, -⟩ := valid.exists_cons
  exact List.cons_ne_nil _ _

theorem IsChoices.ne_nil {separators tokens : List Token} {matchers : List Matcher}
    (valid : IsChoices separators tokens matchers) : matchers ≠ [] := by
  cases valid <;> exact List.cons_ne_nil _ _

end ScopeTokenizer.Selector
