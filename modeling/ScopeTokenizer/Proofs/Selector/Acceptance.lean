import ScopeTokenizer.Proofs.Selector.Syntax

/-!
# Selectors that are accepted

A text is accepted as a selector if its tokens are those of a selector and no other character is
between them, and only then. What is built for it is what its derivation says. Each function of the
reader is sound, since what it takes from the front of its tokens is derived, and complete, since it
takes what is derived if reading can go on behind it.
-/

namespace ScopeTokenizer.Selector

/-! ## What is read is well formed -/

theorem bare_of_operand {tokens : List Token} (missing : operand tokens = .ok none) :
    Bare tokens := by
  unfold operand at missing
  split at missing
  · split at missing <;> cases missing
  · split at missing <;> cases missing
  · cases missing
  · rename_i notMinus notOpen notScope
    intro token first
    obtain ⟨after, rfl⟩ := List.head?_eq_some_iff.mp first
    cases token with
    | minus => exact absurd rfl (notMinus after)
    | «open» => exact absurd rfl (notOpen after)
    | scope name => exact absurd rfl (notScope name after)
    | _ => rfl

-- The three functions recurse on what is left of the tokens, and the proofs do so with them.
mutual

theorem operand_sound {tokens : List Token} {matcher : Matcher}
    {rest : { rest : List Token // rest.length < tokens.length }}
    (read : operand tokens = .ok (some (matcher, rest))) :
    ∃ used, tokens = used ++ rest.val ∧ IsOperand used matcher ∧ Apart used rest.val := by
  unfold operand at read
  split at read
  case h_1 after =>
    split at read
    · cases read
    · cases read
    · rename_i found
      cases read
      obtain ⟨used, whole, valid, apart⟩ := operand_sound found
      exact ⟨.minus :: used, congrArg (.minus :: ·) whole, .not valid, apart.cons valid.ne_nil⟩
  case h_2 after =>
    split at read
    · cases read
    · rename_i found
      cases read
      obtain ⟨used, whole, valid, -⟩ := choices_sound found
      refine ⟨.open :: (used ++ [.close]), ?_, .group valid ?_, ?_⟩
      · simpa using whole
      · exact (joined_choice valid.ne_nil).mpr rfl
      · rw [← List.cons_append]
        exact .concat nofun
    · cases read
  case h_3 name after =>
    cases read
    obtain ⟨names, whole, stems, last⟩ := exists_scopes (.scope name :: after)
    refine ⟨names.map .scope, whole, ?_, fun _ other _ => last other⟩
    rw [stems]
    refine .path ?_ (forall₂_stem names)
    rintro rfl
    rw [List.map_nil, List.nil_append] at whole
    rw [← whole] at last
    exact last name rfl
  case h_4 => cases read
termination_by 3 * tokens.length

theorem operands_sound {tokens : List Token} {matchers : List Matcher} {rest : Rest tokens}
    (read : operands tokens = .ok (matchers, rest)) :
    ∃ used, tokens = used ++ rest.val ∧ (matchers = [] ∧ used = [] ∨ IsOperands used matchers) ∧
      Bare rest.val := by
  unfold operands at read
  split at read
  · cases read
  · rename_i missing
    cases read
    exact ⟨[], rfl, .inl ⟨rfl, rfl⟩, bare_of_operand missing⟩
  · rename_i found
    split at read
    · cases read
    · rename_i others
      cases read
      obtain ⟨used, whole, valid, apart⟩ := operand_sound found
      obtain ⟨more, whole', valid', bare⟩ := operands_sound others
      refine ⟨used ++ more, ?_, .inr ?_, bare⟩
      · rw [List.append_assoc, ← whole', ← whole]
      · rcases valid' with ⟨rfl, rfl⟩ | valid'
        · rw [List.append_nil]
          exact .last valid
        · -- Reading the first operand took all scope names of its run, so the others begin anew.
          dsimp only at apart
          rw [whole'] at apart
          exact .more valid (apart.left_of_append valid'.tokens_ne_nil) valid'
termination_by 3 * tokens.length + 1

theorem choices_sound {separators tokens : List Token} {matchers : List Matcher}
    {rest : Rest tokens} (read : choices separators tokens = .ok (matchers, rest)) :
    ∃ used, tokens = used ++ rest.val ∧ IsChoices separators used matchers ∧
      Bare rest.val ∧ ∀ token ∈ rest.val.head?, token ∉ separators := by
  unfold choices at read
  split at read
  · cases read
  · rename_i matchers' after short found
    obtain ⟨used, whole, valid, bare⟩ := operands_sound found
    split at read
    · split at read
      · split at read <;> cases read
      · cases read
    · rename_i matcher together
      have joined := joined_conjunction.mp together
      have valid : IsOperands used matchers' := by
        rcases valid with ⟨rfl, rfl⟩ | valid
        · cases together
        · exact valid
      split at read
      · cases read
        exact ⟨used, whole, .last valid joined, bare, nofun⟩
      · split at read
        case isTrue separates =>
          split at read
          · cases read
          · rename_i others
            cases read
            obtain ⟨more, whole', valid', bare', last⟩ := choices_sound others
            refine ⟨_, ?_, .more valid joined (List.contains_iff_mem.mp separates) valid', bare',
              last⟩
            rw [List.append_assoc, List.cons_append, ← whole', ← whole]
        case isFalse ends =>
          cases read
          refine ⟨used, whole, .last valid joined, bare, ?_⟩
          rintro token ⟨⟩
          simpa using ends
termination_by 3 * tokens.length + 2

end

/-! ## What is well formed is read -/

theorem operand_of_bare {tokens : List Token} (bare : Bare tokens) : operand tokens = .ok none := by
  unfold operand
  split
  · cases bare _ rfl
  · cases bare _ rfl
  · cases bare _ rfl
  · rfl

theorem bare_cons {token : Token} (rest : List Token) (starts : token.startsOperand = false) :
    Bare (token :: rest) := by
  rintro _ ⟨⟩
  exact starts

/-- No operand begins with one of these tokens. -/
def Separating (separators : List Token) : Prop :=
  ∀ token ∈ separators, token.startsOperand = false

theorem separating_group : Separating [.bar, .comma] := by
  simp [Separating, Token.startsOperand]

theorem separating_part : Separating [.bar] := by
  simp [Separating, Token.startsOperand]

-- The induction is on derivations. Reading has to stop where a derivation ends: behind an operand
-- there is no more of its run, behind operands no other one, and behind choices no separator.
mutual

theorem IsOperand.read {used : List Token} {matcher : Matcher} (valid : IsOperand used matcher)
    {rest : List Token} (apart : Apart used rest) :
    ∃ shorter, operand (used ++ rest) = .ok (some (matcher, ⟨rest, shorter⟩)) := by
  match valid with
  | @IsOperand.path names _ nonempty cut =>
    obtain ⟨name, names, rfl⟩ := List.exists_cons_of_ne_nil nonempty
    have last : ∀ other, .scope other ∉ rest.head? := by
      intro other
      obtain ⟨final, member⟩ := Option.isSome_iff_exists.mp
        (List.getLast?_isSome.mpr (List.cons_ne_nil name names))
      refine apart final other ?_
      rw [List.getLast?_map, member]
      rfl
    have after := afterScopes_map_append names last
    have path := leadingScopes_map_append (name :: names) last
    rw [← stems_eq cut, List.map_cons, List.cons_append] at path
    rw [List.map_cons, List.cons_append]
    refine ⟨by simp only [List.length_cons, List.length_append]; omega, ?_⟩
    rw [operand]
    simp only [path, after]
  | .not valid =>
    obtain ⟨shorter, found⟩ := valid.read (apart.of_cons valid.ne_nil)
    rw [List.cons_append]
    refine ⟨Nat.lt_succ_of_lt shorter, ?_⟩
    rw [operand, found]
  | .group choices joined =>
    have bare : Bare (.close :: rest) := bare_cons rest rfl
    obtain ⟨short, found⟩ := choices.read separating_group bare (by simp)
    rw [List.cons_append, List.append_assoc, List.singleton_append]
    refine ⟨Nat.lt_succ_of_lt short, ?_⟩
    rw [operand, found, (joined_choice choices.ne_nil).mp joined]

theorem IsOperands.read {used : List Token} {matchers : List Matcher}
    (valid : IsOperands used matchers) {rest : List Token} (bare : Bare rest) :
    ∃ short, operands (used ++ rest) = .ok (matchers, ⟨rest, short⟩) := by
  match valid with
  | .last operand =>
    obtain ⟨shorter, found⟩ := operand.read (bare.apart used)
    refine ⟨by simp, ?_⟩
    rw [operands, found]
    dsimp only
    rw [operands, operand_of_bare bare]
  | .more operand apart operands =>
    obtain ⟨shorter, found⟩ := operand.read (apart.append operands.tokens_ne_nil rest)
    obtain ⟨short, others⟩ := operands.read bare
    rw [List.append_assoc]
    refine ⟨short.trans shorter.le, ?_⟩
    rw [Selector.operands, found]
    dsimp only
    rw [others]

theorem IsChoices.read {separators used : List Token} {matchers : List Matcher}
    (valid : IsChoices separators used matchers) (separating : Separating separators)
    {rest : List Token} (bare : Bare rest) (last : ∀ token ∈ rest.head?, token ∉ separators) :
    ∃ short, choices separators (used ++ rest) = .ok (matchers, ⟨rest, short⟩) := by
  match valid with
  | .last operands joined =>
    obtain ⟨short, found⟩ := operands.read bare
    refine ⟨by simp, ?_⟩
    rw [choices, found]
    dsimp only
    rw [joined_conjunction.mpr joined]
    cases rest with
    | nil => rfl
    | cons token after =>
      have ends : separators.contains token = false := by simpa using last token rfl
      simp only [ends]
      rfl
  | @IsChoices.more _ _ others _ _ _ _ operands joined separates choices =>
    obtain ⟨short, found⟩ := operands.read (bare_cons (others ++ rest) (separating _ separates))
    obtain ⟨short', others⟩ := choices.read separating bare last
    rw [List.append_assoc, List.cons_append]
    refine ⟨short'.trans (Nat.le_of_lt short), ?_⟩
    rw [Selector.choices, found]
    dsimp only
    rw [joined_conjunction.mpr joined]
    dsimp only
    rw [if_pos (List.contains_iff_mem.mpr separates), others]

end

/-! ## Whole selectors -/

theorem mark_append_splitPriority (tokens : List Token) :
    (splitPriority tokens).1.mark ++ (splitPriority tokens).2 = tokens := by
  fun_cases splitPriority tokens <;> rfl

theorem splitPriority_append (priority : Priority) {tokens : List Token}
    {matchers : List Matcher} (choices : IsChoices [.bar] tokens matchers) (rest : List Token) :
    splitPriority (priority.mark ++ tokens ++ rest) = (priority, tokens ++ rest) := by
  obtain ⟨first, others, rfl, starts⟩ := choices.exists_cons
  cases priority with
  | left | right => rfl
  | neutral =>
    cases first with
    | left | right => cases starts
    | _ => rfl

/-- What is read of a selector behind one of its parts. -/
def afterPart (part : Part) : List Token → Except Fault (List Part)
  | [] => .ok [part]
  | .comma :: others => (parts others).map (part :: ·)
  | token :: _ => .error (.unexpectedToken token)

theorem parts_of_choices {tokens rest : List Token} {matchers : List Matcher}
    (nonempty : tokens ≠ [])
    (read : ∃ short, choices [.bar] (splitPriority tokens).2 = .ok (matchers, ⟨rest, short⟩)) :
    parts tokens = afterPart ⟨choice matchers, (splitPriority tokens).1⟩ rest := by
  obtain ⟨first, others, rfl⟩ := List.exists_cons_of_ne_nil nonempty
  obtain ⟨short, read⟩ := read
  rw [parts]
  simp only [read]
  cases rest with
  | nil => rfl
  | cons token after => cases token <;> rfl

theorem IsPart.parts_append {tokens : List Token} {part : Part} (valid : IsPart tokens part)
    {rest : List Token} (bare : Bare rest) (last : .bar ∉ rest.head?) :
    parts (tokens ++ rest) = afterPart part rest := by
  obtain @⟨tokens, matchers, matcher, priority, valid, joined⟩ := valid
  have split := splitPriority_append priority valid rest
  have read : ∃ short, choices [.bar] (splitPriority (priority.mark ++ tokens ++ rest)).2 =
      .ok (matchers, ⟨rest, short⟩) := by
    rw [split]
    refine valid.read separating_part bare fun token first separates => last ?_
    rwa [← List.mem_singleton.mp separates]
  have nonempty : priority.mark ++ tokens ++ rest ≠ [] := by
    obtain ⟨first, others, rfl, -⟩ := valid.exists_cons
    simp
  rw [parts_of_choices nonempty read, split, ← (joined_choice valid.ne_nil).mp joined]

/-- What is well formed is accepted. -/
theorem IsSelector.read {tokens : List Token} {found : List Part}
    (valid : IsSelector tokens found) : parts tokens = .ok found := by
  induction valid with
  | nil => rw [parts]
  | @last tokens part valid =>
    have bare : Bare [] := by simp [Bare]
    have read : parts (tokens ++ []) = .ok [part] := valid.parts_append bare (by simp)
    rwa [List.append_nil] at read
  | @more first others _ _ valid _ ih =>
    have bare : Bare (.comma :: others) := bare_cons others rfl
    rw [valid.parts_append bare (by simp), afterPart, ih]
    rfl

theorem exists_part_of_parts {tokens : List Token} {found : List Part} (nonempty : tokens ≠ [])
    (read : parts tokens = .ok found) :
    ∃ used rest part, tokens = used ++ rest ∧ IsPart used part ∧
      afterPart part rest = .ok found := by
  cases front : choices [.bar] (splitPriority tokens).2 with
  | error fault =>
    obtain ⟨first, others, rfl⟩ := List.exists_cons_of_ne_nil nonempty
    rw [parts] at read
    simp only [front] at read
    cases read
  | ok answer =>
    obtain ⟨matchers, rest, short⟩ := answer
    obtain ⟨used, whole, valid, -⟩ := choices_sound front
    have joined := (joined_choice valid.ne_nil).mpr rfl
    rw [parts_of_choices nonempty ⟨short, front⟩] at read
    refine ⟨_, rest, _, ?_, .mk _ valid joined, read⟩
    rw [List.append_assoc, ← whole, mark_append_splitPriority]

/-- What is accepted is well formed. -/
theorem isSelector_of_parts {tokens : List Token} {found : List Part}
    (read : parts tokens = .ok found) : IsSelector tokens found := by
  induction shorter : tokens.length using Nat.strong_induction_on generalizing tokens found with
  | _ length ih =>
    subst shorter
    by_cases empty : tokens = []
    · subst empty
      rw [parts] at read
      cases read
      exact .nil
    · obtain ⟨used, rest, part, rfl, valid, after⟩ := exists_part_of_parts empty read
      unfold afterPart at after
      split at after
      · cases after
        rw [List.append_nil]
        exact .last valid
      · rename_i others
        cases later : parts others with
        | error fault =>
          rw [later] at after
          cases after
        | ok found =>
          rw [later] at after
          cases after
          refine .more valid (ih _ ?_ later rfl)
          simp only [List.length_append, List.length_cons]
          omega
      · cases after

/-! ## Faults -/

/-- Whether a fault is about how tokens follow each other. -/
def Fault.OfTokens : Fault → Prop
  | .unexpectedCharacter _ => False
  | _ => True

mutual

theorem operand_fault {tokens : List Token} {fault : Fault} (read : operand tokens = .error fault) :
    fault.OfTokens := by
  unfold operand at read
  split at read
  · split at read
    · rename_i found
      cases read
      exact operand_fault found
    · cases read
      trivial
    · cases read
  · split at read
    · rename_i found
      cases read
      exact choices_fault found
    · cases read
    · cases read
      trivial
  · cases read
  · cases read
termination_by 3 * tokens.length

theorem operands_fault {tokens : List Token} {fault : Fault}
    (read : operands tokens = .error fault) : fault.OfTokens := by
  unfold operands at read
  split at read
  · rename_i found
    cases read
    exact operand_fault found
  · cases read
  · split at read
    · rename_i found
      cases read
      exact operands_fault found
    · cases read
termination_by 3 * tokens.length + 1

theorem choices_fault {separators tokens : List Token} {fault : Fault}
    (read : choices separators tokens = .error fault) : fault.OfTokens := by
  unfold choices at read
  split at read
  · rename_i found
    cases read
    exact operands_fault found
  · split at read
    · split at read
      · split at read <;> cases read <;> trivial
      · cases read
        trivial
    · split at read
      · cases read
      · split at read
        · split at read
          · rename_i found
            cases read
            exact choices_fault found
          · cases read
        · cases read
termination_by 3 * tokens.length + 2

end

theorem parts_fault {tokens : List Token} {fault : Fault} (read : parts tokens = .error fault) :
    fault.OfTokens := by
  fun_induction parts tokens generalizing fault with
  | case1 => cases read
  | case2 first others _ _ found =>
    cases read
    exact choices_fault found
  | case3 => cases read
  | case4 first others _ matchers part after =>
    rename_i ih
    cases later : parts after with
    | error fault =>
      rw [later] at read
      cases read
      exact ih later
    | ok found =>
      rw [later] at read
      cases read
  | case5 =>
    cases read
    trivial

/-! ## Texts -/

/-- A text is taken apart into tokens, and characters between them, in one way only. The first
character between them that is not blank is told. If all are blank, the selector is accepted if
and only if its tokens are derived, and its parts are those of the derivation. If they are not
derived, one of the three other faults is told. -/
theorem ofText_accepts_selectors (text : String) :
    ∃ pieces, (∀ others, Pieces text.toList others ↔ others = pieces) ∧
      pieces.flatMap Piece.text = text.toList ∧
      (∀ position, ofText text = .error (.unexpectedCharacter position) ↔
        Stray pieces position) ∧
      (∀ found, ofText text = .ok found ↔
        (∀ position, ¬ Stray pieces position) ∧ IsSelector (tokensOf pieces) found) ∧
      ((∀ position, ¬ Stray pieces position) → (∀ found, ¬ IsSelector (tokensOf pieces) found) →
        ofText text = .error .unclosedParenthesis ∨ ofText text = .error .missingOperand ∨
          ∃ token, ofText text = .error (.unexpectedToken token)) := by
  obtain ⟨pieces, valid⟩ := exists_pieces text.toList
  refine ⟨pieces, fun others => ⟨valid.unique, fun same => same ▸ valid⟩, valid.flatMap_text, ?_⟩
  by_cases stray : ∃ position, Stray pieces position
  · obtain ⟨first, stray⟩ := stray
    have read : ofText text = .error (.unexpectedCharacter first) := by
      rw [ofText, readAll_eq_error valid stray, Nat.zero_add]
    rw [read]
    refine ⟨fun position => ⟨?_, fun found => ?_⟩, fun found => ⟨nofun, fun valid => ?_⟩,
      fun none => absurd stray (none first)⟩
    · rintro ⟨⟩
      exact stray
    · have also := readAll_eq_error valid found 0
      rw [readAll_eq_error valid stray] at also
      simpa using also
    · exact absurd stray (valid.1 first)
  · have none : ∀ position, ¬ Stray pieces position := not_exists.mp stray
    have read : ofText text = parts (tokensOf pieces) := by
      rw [ofText, readAll_eq_ok valid none]
    rw [read]
    refine ⟨fun position => ⟨fun fault => (parts_fault fault).elim, fun found => ?_⟩, fun found =>
      ⟨fun accepted => ⟨none, isSelector_of_parts accepted⟩, fun valid => valid.2.read⟩,
      fun _ underivable => ?_⟩
    · exact absurd found (none position)
    cases answer : parts (tokensOf pieces) with
    | ok found => exact absurd (isSelector_of_parts answer) (underivable found)
    | error fault =>
      have kind := parts_fault answer
      cases fault with
      | unexpectedCharacter => exact kind.elim
      | unclosedParenthesis => exact .inl rfl
      | missingOperand => exact .inr (.inl rfl)
      | unexpectedToken token => exact .inr (.inr ⟨token, rfl⟩)

end ScopeTokenizer.Selector
