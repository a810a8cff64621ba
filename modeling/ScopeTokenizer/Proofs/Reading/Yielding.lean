import ScopeTokenizer.Proofs.Reading.Ensuring

/-!
# What readings yield

Whether a reading gives an answer is one question, and what holds once it has given one is another.
The rules here are for the second one. Like those for the first one, they keep account of the
tokenizer only.

Reading changes a tokenizer only by asking it for something. So a property that lasts whatever a
tokenizer is asked for lasts while lines are read.
-/

namespace ScopeTokenizer

open Grammar Pattern Style

variable {engine : Engine} {α β : Type}

namespace Reading

/-- With a tokenizer of which `before` holds, `after` holds of any answer that the reading gives
and of the tokenizer then. -/
def Yields (library : Library) (before : Tokenizer engine → Prop) (reading : Reading engine α)
    (after : α → Tokenizer engine → Prop) : Prop :=
  ∀ p, before p.tokenizer → ∀ a q, reading library p = some (a, q) → after a q.tokenizer

namespace Yields

variable {library : Library} {before : Tokenizer engine → Prop} {reading : Reading engine α}
  {after : α → Tokenizer engine → Prop}

theorem of_ensures (ensures : Ensures library before reading after) :
    Yields library before reading after :=
  fun _ held _ _ run => ensures.of_run held run

theorem bind {next : α → Reading engine β} {last : β → Tokenizer engine → Prop}
    (start : Yields library before reading after)
    (rest : ∀ a, Yields library (after a) (next a) last) :
    Yields library before (reading >>= next) last := by
  intro p held b r run
  obtain ⟨a, q, run₁, run₂⟩ := run_bind_eq_some.mp run
  exact rest a q (start p held a q run₁) b r run₂

theorem pure {a : α} (given : ∀ tokenizer, before tokenizer → after a tokenizer) :
    Yields library before (Pure.pure a : Reading engine α) after :=
  of_ensures (.pure given)

theorem failure : Yields library before (failure : Reading engine α) after := by
  intro p held a q run
  cases run

theorem weaken {before' : Tokenizer engine → Prop} {after' : α → Tokenizer engine → Prop}
    (yields : Yields library before reading after)
    (given : ∀ tokenizer, before' tokenizer → before tokenizer)
    (wanted : ∀ a tokenizer, after a tokenizer → after' a tokenizer) :
    Yields library before' reading after' :=
  fun p held a q run => wanted a _ (yields p (given _ held) a q run)

theorem post {after' : α → Tokenizer engine → Prop} (yields : Yields library before reading after)
    (wanted : ∀ a tokenizer, after a tokenizer → after' a tokenizer) :
    Yields library before reading after' :=
  yields.weaken (fun _ held => held) wanted

/-- Two ways to go on that agree wherever a reading leads agree after it. -/
theorem bind_congr {next other : α → Reading engine β} (yields : Yields library before reading after)
    (agree : ∀ a q, after a q.tokenizer → next a library q = other a library q)
    {p : Progress engine} (held : before p.tokenizer) :
    (reading >>= next) library p = (reading >>= other) library p := by
  rw [run_bind, run_bind]
  cases run : reading library p with
  | none => rfl
  | some answer => exact agree answer.1 answer.2 (yields p held _ _ run)

/-- A fact that does not depend on the tokenizer may be taken out of what is given. -/
theorem of_and {fact : Prop} (yields : fact → Yields library before reading after) :
    Yields library (fun tokenizer => fact ∧ before tokenizer) reading after :=
  fun p held => yields held.1 p held.2

/-- So may a fact that is not needed. -/
theorem of_right {fact : Tokenizer engine → Prop} (yields : Yields library before reading after) :
    Yields library (fun tokenizer => fact tokenizer ∧ before tokenizer) reading after :=
  fun p held => yields p held.2

end Yields

end Reading

/-- Entering scopes goes further in by their names. -/
theorem Tokenizer.names_enterEach (tokenizer : Tokenizer engine) (path : ScopePath)
    (scopes : List String) :
    (tokenizer.enterEach path scopes).1.names = path.names ++ scopes := by
  induction scopes generalizing tokenizer path with
  | nil => exact (List.append_nil _).symm
  | cons scope scopes ih =>
    refine (ih (tokenizer.enter path scope).2 (tokenizer.enter path scope).1).trans ?_
    simp only [Tokenizer.enter, ScopePath.names_push, List.append_assoc, List.singleton_append]

theorem Tokenizer.names_enterAll (tokenizer : Tokenizer engine) (path : ScopePath)
    (scopes : Option String) :
    (tokenizer.enterAll path scopes).1.names =
      path.names ++ (scopes.map ScopePath.scopesOf).getD [] := by
  cases scopes with
  | none => exact (List.append_nil _).symm
  | some text => exact tokenizer.names_enterEach path _

theorem Tokenizer.names_prefix_enterAll (tokenizer : Tokenizer engine) (path : ScopePath)
    (scopes : Option String) : path.names <+: (tokenizer.enterAll path scopes).1.names := by
  rw [tokenizer.names_enterAll]
  exact List.prefix_append _ _

/-- Asking for the style of a scope changes nothing of a tokenizer but the styles it has made. -/
theorem Tokenizer.exists_styles_styleOf (tokenizer : Tokenizer engine) (scope : String) :
    ∃ styles, (tokenizer.styleOf scope).2 = { tokenizer with styles } := by
  unfold Tokenizer.styleOf
  split
  · exact ⟨tokenizer.styles, rfl⟩
  · exact ⟨_, rfl⟩

/-- Nor does entering scopes. -/
theorem Tokenizer.exists_styles_enterEach (tokenizer : Tokenizer engine) (path : ScopePath)
    (scopes : List String) :
    ∃ styles, (tokenizer.enterEach path scopes).2 = { tokenizer with styles } := by
  induction scopes generalizing tokenizer path with
  | nil => exact ⟨tokenizer.styles, rfl⟩
  | cons scope scopes ih =>
    obtain ⟨styles, entered⟩ := tokenizer.exists_styles_styleOf scope
    obtain ⟨later, all⟩ := ih (tokenizer.styleOf scope).2 (tokenizer.enter path scope).1
    exact ⟨later, all.trans (by rw [entered])⟩

theorem Tokenizer.exists_styles_enterAll (tokenizer : Tokenizer engine) (path : ScopePath)
    (scopes : Option String) :
    ∃ styles, (tokenizer.enterAll path scopes).2.1 = { tokenizer with styles } := by
  cases scopes with
  | none => exact ⟨tokenizer.styles, rfl⟩
  | some text => exact tokenizer.exists_styles_enterEach path _

/-! ## Lasting properties -/

/-- A property of tokenizers that lasts whatever they are asked for. All their rules are rules of
a table. -/
structure Lasting (library : Library) (table : RuleTable) (Held : Tokenizer engine → Prop) :
    Prop where
  rule? {tokenizer : Tokenizer engine} {id : RuleId} {rule : Rule} :
    Held tokenizer → tokenizer.rule? id = some rule → table.rule? id = some rule
  collected {tokenizer : Tokenizer engine} :
    Held tokenizer → Held (tokenizer.collected library).2.1
  ruleScanner {tokenizer : Tokenizer engine} {id : RuleId} {rule : Rule} (filled : Option String)
    (anchors : Anchors) :
    Held tokenizer → tokenizer.rule? id = some rule →
      Held (tokenizer.ruleScanner rule filled anchors).2.1
  conditionScanner {tokenizer : Tokenizer engine} {id number : RuleId}
    {name contentName : Option Scope.Template} {opening condition : Matching} {inner : Inner}
    (filled : Option String) (anchors : Anchors) :
    Held tokenizer →
      tokenizer.rule? id = some ⟨number, name, .lines contentName opening condition inner⟩ →
      Held (tokenizer.conditionScanner number condition.pattern filled anchors).2.1
  enterAll {tokenizer : Tokenizer engine} (path : ScopePath) (scopes : Option String) :
    Held tokenizer → Held (tokenizer.enterAll path scopes).2.1

namespace Lasting

open Reading

variable {library : Library} {table : RuleTable} {Held : Tokenizer engine → Prop}
  (lasting : Lasting library table Held)

include lasting

theorem yields_rule? (id : RuleId) :
    Yields library Held (Reading.rule? id)
      (fun rule tokenizer => (∀ found ∈ rule, table.rule? id = some found) ∧
        rule = tokenizer.rule? id ∧ Held tokenizer) := by
  refine (Yields.of_ensures (Ensures.rule? id)).post ?_
  rintro rule tokenizer ⟨rfl, held⟩
  exact ⟨fun found is => lasting.rule? held is, rfl, held⟩

theorem yields_enter (path : ScopePath) (scopes : Option String) :
    Yields library Held (Reading.enter path scopes)
      (fun inner tokenizer => path.names <+: inner.names ∧ Held tokenizer) := by
  refine .of_ensures (Ensures.use fun tokenizer held => ?_)
  exact ⟨tokenizer.names_prefix_enterAll path scopes, lasting.enterAll path scopes held⟩

/-! ### Matches -/

section Matches

variable (line : Line) (cursor : Cursor)

theorem yields_search {id : RuleId} {rule : Rule} (filled : Option String) :
    Yields library (fun tokenizer => some rule = tokenizer.rule? id ∧ Held tokenizer)
      (search line cursor rule filled) (fun _ => Held) := by
  unfold search
  refine .bind (.of_ensures (Ensures.use fun tokenizer given => ?_))
    fun _ => .pure fun _ held => held
  exact lasting.ruleScanner filled cursor.anchors given.2 given.1.symm

theorem yields_regularMatch :
    Yields library Held (regularMatch line cursor) (fun _ => Held) := by
  unfold regularMatch
  refine .bind (lasting.yields_rule? _) fun rule => ?_
  refine .of_and fun _ => ?_
  cases rule with
  | none => exact .of_right (.pure fun _ held => held)
  | some rule => exact lasting.yields_search line cursor _

theorem yields_bestInjected (names : List String) (injections : List Injection)
    (best : Option Injected) :
    Yields library Held (bestInjected line cursor names injections best) (fun _ => Held) := by
  induction injections generalizing best with
  | nil => exact .pure fun _ held => held
  | cons injection others ih =>
    unfold bestInjected
    split
    · refine .bind (lasting.yields_rule? _) fun rule => ?_
      refine .of_and fun _ => ?_
      cases rule with
      | none => exact .of_right (ih best)
      | some rule =>
        refine .bind (lasting.yields_search line cursor none) fun found => ?_
        cases found with
        | none => exact ih best
        | some found =>
          dsimp only
          split
          · exact ih best
          · split
            · exact .pure fun _ held => held
            · exact ih _
    · exact ih best

theorem yields_nextMatch : Yields library Held (nextMatch line cursor) (fun _ => Held) := by
  unfold nextMatch
  refine .bind (lasting.yields_regularMatch line cursor) fun regular => ?_
  refine .bind (.of_ensures Ensures.read) fun given => ?_
  refine .of_and ?_
  rintro rfl
  have asked : Yields given Held (use fun tokenizer => tokenizer.collected given) (fun _ => Held) :=
    .of_ensures (Ensures.use fun _ held => lasting.collected held)
  refine .bind asked fun injections => ?_
  split
  · exact .pure fun _ held => held
  · exact .bind (lasting.yields_bestInjected line cursor _ _ none)
      fun _ => .pure fun _ held => held

end Matches

/-! ### Captures -/

section Captures

variable {reread : Line → Cursor → Reading engine Nesting}
  (rereads : ∀ line cursor, Yields library Held (reread line cursor) (fun _ => Held))
  (line : Line) (cursor : Cursor) (captures : Captures)

include rereads

theorem yields_again (rule : Rule) (inner : RuleId) (span : Span) :
    Yields library Held (again reread line cursor captures rule inner span) (fun _ => Held) := by
  unfold again
  refine .bind (lasting.yields_enter _ _) fun nameScopes => ?_
  refine .of_and fun _ => ?_
  refine .bind (lasting.yields_enter _ _) fun contentScopes => ?_
  refine .of_and fun _ => ?_
  exact .bind (rereads _ _) fun _ => .pure fun _ held => held

theorem yields_openCapture (opened : List OpenCapture) (id : RuleId) (span : Span) :
    Yields library Held (openCapture reread line cursor captures opened id span)
      (fun _ => Held) := by
  unfold openCapture
  refine .bind (.of_ensures (.closeUpTo _ _)) fun opened => ?_
  refine .bind (.of_ensures (.cut _ _)) fun _ => ?_
  refine .bind (lasting.yields_rule? id) fun rule => ?_
  refine .of_right (.of_right ?_)
  have unchanged : Yields library Held (pure opened : Reading engine _) (fun _ => Held) :=
    .pure fun _ held => held
  cases rule with
  | none => exact unchanged
  | some rule =>
    obtain ⟨number, name, kind⟩ := rule
    cases kind with
    | single | container | region | lines => exact unchanged
    | capture contentName inner =>
      cases inner with
      | some inner =>
        exact .bind (lasting.yields_again rereads line cursor captures _ inner span)
          fun _ => unchanged
      | none =>
        dsimp only
        split
        · exact .bind (lasting.yields_enter _ _) fun _ => .pure fun _ held => held.2
        · exact unchanged

theorem yields_openCaptures (stop : Nat) (groups : List (Option RuleId × Option Span))
    (opened : List OpenCapture) :
    Yields library Held (openCaptures reread line cursor captures stop groups opened)
      (fun _ => Held) := by
  induction groups generalizing opened with
  | nil => exact .pure fun _ held => held
  | cons group others ih =>
    obtain ⟨id, span⟩ := group
    cases id with
    | none => simpa only [openCaptures] using ih opened
    | some id =>
      cases span with
      | none => simpa only [openCaptures] using ih opened
      | some span =>
        simp only [openCaptures]
        split
        · exact ih opened
        · split
          · exact .pure fun _ held => held
          · exact .bind (lasting.yields_openCapture rereads line cursor captures opened id span) ih

theorem yields_readCaptures (rules : List (Option RuleId)) :
    Yields library Held (readCaptures reread line cursor captures rules) (fun _ => Held) := by
  unfold readCaptures
  split
  · exact .bind (lasting.yields_openCaptures rereads line cursor _ _ _ _)
      fun _ => .of_ensures (.closeAll _)
  · exact .pure fun _ held => held

end Captures

end Lasting

end ScopeTokenizer
