import ScopeTokenizer.Proofs.Tokenizer.Selection

/-!
# What closing patterns close

A region is closed by the pattern that its rule says. But an injection can be a region too, and its
closing pattern is searched for although nothing has opened it. All closing patterns have one label,
so a match of it closes the innermost region, whatever that is.
-/

namespace ScopeTokenizer

open Grammar Pattern Style Reading

variable {engine : Engine}

namespace Tokenizer

/-- What a pattern matches somewhere on a line, from a position on. -/
def Matches (engine : Engine) (text : String) (line : Line) (position : Nat)
    (found : SetMatch Target) : Prop :=
  ∃ pattern here, engine.compile? true text = some pattern ∧
    min position line.length ≤ here ∧ here ≤ line.length ∧
    engine.matchAt pattern line.chars (min position line.length) here = some found.captures ∧
    (found.start, found.stop) = (found.captures.head?.join).getD (here, here)

/-- The pattern that closes the region of a rule, if the rule is one for regions. -/
def closing? (tokenizer : Tokenizer engine) (id : RuleId) (filled : Option String)
    (anchors : Anchors) : Option String :=
  (tokenizer.rule? id).bind fun rule =>
    match rule.kind with
    | .region _ _ closing _ _ => some (patternText closing.pattern filled anchors)
    | .single _ | .container _ _ | .lines _ _ _ _ | .capture _ _ => none

/-- What is found is a match of the pattern that closes the region of a rule. -/
def Closes (tokenizer : Tokenizer engine) (line : Line) (cursor : Cursor) (id : RuleId)
    (filled : Option String) (found : SetMatch Target) : Prop :=
  ∃ text, tokenizer.closing? id filled cursor.anchors = some text ∧
    Matches engine text line cursor.position found

variable {tokenizer : Tokenizer engine} {line : Line} {cursor : Cursor} {library : Library}

/-- What a search inside a rule finds is a match of one of its patterns. -/
theorem Coherent.exists_of_answer (coherent : tokenizer.Coherent) {id : RuleId}
    {filled : Option String} {found : SetMatch Target}
    (answered : tokenizer.answer line cursor id filled = some found) :
    ∃ rule text, tokenizer.rule? id = some rule ∧
      (found.label, text) ∈ patternsOf tokenizer.compilation.table rule (fillable rule filled)
        cursor.anchors ∧
      Matches engine text line cursor.position found := by
  obtain ⟨rule, compiled, run⟩ := Option.bind_eq_some_iff.mp answered
  rw [(coherent.ruleScanner compiled filled cursor.anchors).1] at run
  obtain ⟨here, above, below, member, mem, label, at_here, whole⟩ := PatternSet.exists_of_findAt run
  obtain ⟨⟨target, text⟩, among, is, pattern⟩ := PatternSet.exists_of_mem_ofList mem
  obtain rfl : target = found.label := is.trans label
  exact ⟨rule, text, compiled, among, member.pattern, here, pattern, above, below, at_here, whole⟩

/-- A search inside a rule finds closing matches only of the pattern that the rule says. -/
theorem Coherent.closes_of_answer (coherent : tokenizer.Coherent) {id : RuleId}
    {filled : Option String} {found : SetMatch Target}
    (answered : tokenizer.answer line cursor id filled = some found)
    (closing : found.label = .closing) : tokenizer.Closes line cursor id filled found := by
  obtain ⟨rule, text, compiled, among, matched⟩ := coherent.exists_of_answer answered
  rw [closing] at among
  obtain ⟨_, _, _, _, _, region, rfl⟩ := exists_of_closing_mem_patternsOf among
  refine ⟨_, ?_, matched⟩
  rw [closing?, compiled, Option.bind_some, fillable, region]

/-- What holds of all that injections find holds of the best one. -/
theorem Coherent.ensures_bestInjected (coherent : tokenizer.Coherent) {P : SetMatch Target → Prop}
    {injections : List Injection} {best : Option Injected}
    (proposed : ∀ injection ∈ injections, injection.matcher.holds cursor.scopes.names = true →
      ∀ found ∈ tokenizer.answer line cursor injection.rule none, P found)
    (sofar : ∀ injected ∈ best, P injected.2) :
    Ensures library tokenizer.Likeness
      (bestInjected line cursor cursor.scopes.names injections best)
      (fun best _ => ∀ injected ∈ best, P injected.2) := by
  induction injections generalizing best with
  | nil => exact Ensures.pure fun _ _ => sofar
  | cons injection others ih =>
    obtain ⟨first, later⟩ := List.forall_mem_cons.mp proposed
    unfold bestInjected
    split
    · next holds =>
      apply Ensures.bind (ensures_rule?_likeness injection.rule)
      intro rule
      apply Ensures.of_and
      rintro rfl
      cases compiled : tokenizer.rule? injection.rule with
      | none => exact ih later sofar
      | some rule =>
        apply Ensures.bind (ensures_search_likeness coherent compiled none)
        intro answer
        apply Ensures.of_and
        intro answered
        cases answer with
        | none => exact ih later sofar
        | some found =>
          have better : ∀ injected ∈ some (injection.priority, found), P injected.2 := by
            rintro injected ⟨⟩
            exact first holds found answered.symm
          dsimp only
          split
          · exact ih later sofar
          · split
            · exact Ensures.pure fun _ _ => better
            · exact ih later better
    · exact ih later sofar

/-- What holds of all that the innermost region and the injections find holds of the next match. -/
theorem Coherent.ensures_nextMatch_of (coherent : tokenizer.Coherent) {P : SetMatch Target → Prop}
    (own : ∀ found ∈
      tokenizer.answer line cursor cursor.nesting.top.rule cursor.nesting.top.pattern, P found)
    (proposed : ∀ injection ∈ (tokenizer.collected library).1,
      injection.matcher.holds cursor.scopes.names = true → ∀ found ∈
        (tokenizer.collected library).2.1.answer line cursor injection.rule none, P found) :
    Ensures library tokenizer.Likeness (nextMatch line cursor)
      (fun answer _ => ∀ found ∈ answer, P found) :=
  coherent.ensures_nextMatch_of_better (fun _ _ => own)
    ((coherent.collected library).1.ensures_bestInjected proposed nofun)
    fun _ _ injected _ is => of_better own injected is

/-- An injection whose selector holds is a region, and what is found is a match of the pattern that
closes it. -/
def ClosesInjected (tokenizer : Tokenizer engine) (library : Library) (line : Line)
    (cursor : Cursor) (found : SetMatch Target) : Prop :=
  ∃ injection ∈ (tokenizer.collected library).1,
    injection.matcher.holds cursor.scopes.names = true ∧
      (tokenizer.collected library).2.1.Closes line cursor injection.rule none found

/-- At any moment, a closing match is one of the pattern that closes the innermost region, or else
of the pattern that closes the region of an injection. -/
theorem closes_of_nextMatch {p after : Progress engine} (moment : Moment p.tokenizer)
    {found : SetMatch Target} (run : nextMatch line cursor library p = some (some found, after))
    (closing : found.label = .closing) :
    p.tokenizer.Closes line cursor cursor.nesting.top.rule cursor.nesting.top.pattern found ∨
      p.tokenizer.ClosesInjected library line cursor found := by
  have coherent := moment.coherent
  have collected := (coherent.collected library).1
  let Closed (found : SetMatch Target) : Prop :=
    p.tokenizer.Closes line cursor cursor.nesting.top.rule cursor.nesting.top.pattern found ∨
      p.tokenizer.ClosesInjected library line cursor found
  have closed : Ensures library p.tokenizer.Likeness (nextMatch line cursor)
      (fun answer _ => ∀ found ∈ answer, found.label = .closing → Closed found) := by
    apply coherent.ensures_nextMatch_of
    · exact fun found answered closing => .inl (coherent.closes_of_answer answered closing)
    · exact fun injection mem holds found answered closing =>
        .inr ⟨injection, mem, holds, collected.closes_of_answer answered closing⟩
  exact closed.of_run ⟨coherent, .refl _⟩ run found rfl closing

/-- A grammar of groups in brackets, into which a region is injected. -/
def intruded : GrammarDef where
  scopeName := "source"
  patterns := [{ name := some "group", beginPattern := some "<", endPattern := some ">" }]
  injections :=
    [("L:group", { name := some "inner", beginPattern := some ":", endPattern := some ";" })]

/-- The first place of a line after another one. -/
def nextLine (tokenizer : Tokenizer engine) (nesting : Nesting) : Cursor :=
  { position := 0, firstLine := false, nesting := tokenizer.resumed (some nesting) }

/-- Reads a line that opens a group, and asks for a closing match at the start of the next one. -/
def closingAfter (text : String) (tokenizer : Tokenizer Engine.literal) :
    Option (LineReading Engine.literal × SetMatch Target × Progress Engine.literal) := do
  let reading ← tokenizer.readLine {} "<" none false
  let cursor := reading.tokenizer.nextLine reading.nesting
  let (answer, after) ← nextMatch (terminated text) cursor {}
    { tokenizer := reading.tokenizer, tokens := { styled := false } }
  let found ← answer
  let top := cursor.nesting.top
  if found.label = .closing ∧ found.start = 0 ∧
      reading.tokenizer.closing? top.rule top.pattern cursor.anchors = some ">" then
    some (reading, found, after)
  else none

/-- A session in which a group is open, with a closing match on the next line. -/
structure FoundClosing (text : String) (tokenizer : Tokenizer Engine.literal) (cursor : Cursor)
    (found : SetMatch Target) (after : Progress Engine.literal) : Prop where
  session : ∃ nesting, Session tokenizer [nesting] [nesting] ∧ cursor = tokenizer.nextLine nesting
  run : nextMatch (terminated text) cursor {} { tokenizer, tokens := { styled := false } } =
    some (some found, after)
  label : found.label = .closing
  start : found.start = 0
  closing : tokenizer.closing? cursor.nesting.top.rule cursor.nesting.top.pattern cursor.anchors =
    some ">"

theorem exists_foundClosing (text : String)
    (answers : ((ofTexts intruded).toOption.bind (closingAfter text)).isSome) :
    ∃ tokenizer cursor found after, FoundClosing text tokenizer cursor found after := by
  obtain ⟨origin, answer, compiled, asked⟩ := exists_ofTexts intruded _ answers
  simp only [closingAfter, bind, Option.bind_eq_some_iff, Option.ite_none_right_eq_some] at asked
  obtain ⟨reading, opened, ⟨_, after⟩, run, found, rfl, ⟨label, start, closing⟩, -⟩ := asked
  have compiled : Session origin [] [] := .compiled compiled
  have session := compiled.presentLine (by simp) (reads_of_readLine opened)
  exact ⟨reading.tokenizer, _, found, after, ⟨_, session, rfl⟩, run, label, start, closing⟩

theorem closes_of_nextMatch_intruded : ∃ tokenizer cursor found after,
    FoundClosing ">" tokenizer cursor found after ∧
    (tokenizer.Closes (terminated ">") cursor cursor.nesting.top.rule cursor.nesting.top.pattern
        found ∨
      tokenizer.ClosesInjected {} (terminated ">") cursor found) := by
  obtain ⟨tokenizer, cursor, found, after, given⟩ := exists_foundClosing ">" (by decide +kernel)
  obtain ⟨_, session, -⟩ := given.session
  exact ⟨tokenizer, cursor, found, after, given,
    closes_of_nextMatch session.moment given.run given.label⟩

/-- The injected region was not opened, but its closing pattern is found inside a group, which is
closed by another one. -/
theorem intruding_closing : ∃ tokenizer cursor found after,
    FoundClosing ";>" tokenizer cursor found after ∧
    ¬ tokenizer.Closes (terminated ";>") cursor cursor.nesting.top.rule cursor.nesting.top.pattern
      found := by
  obtain ⟨tokenizer, cursor, found, after, given⟩ := exists_foundClosing ";>" (by decide +kernel)
  refine ⟨tokenizer, cursor, found, after, given, ?_⟩
  rintro ⟨text, is, pattern, here, compiled, -, inside, at_here, whole⟩
  rw [given.closing, Option.some.injEq] at is
  subst is
  obtain ⟨captures, -⟩ := Engine.literal_matchAt inside at_here
  rw [captures, given.start] at whole
  obtain ⟨rfl, -⟩ := Prod.mk.inj whole
  cases compiled
  have apart : Engine.literal.matchAt ">".toList (terminated ";>").chars 0 0 = none := by
    decide +kernel
  cases apart.symm.trans at_here

end Tokenizer

end ScopeTokenizer
