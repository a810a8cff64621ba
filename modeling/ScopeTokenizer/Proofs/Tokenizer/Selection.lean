import Mathlib.Data.List.MinMax
import ScopeTokenizer.Proofs.Pattern.Literal
import ScopeTokenizer.Proofs.Tokenizer.Collecting

/-!
# Which match comes next

The rule of the innermost region and the injections whose selectors hold each propose a match. The
one that begins leftmost is taken. If several do, injections that go to the left come before the
rule, and the rule comes before all other injections.

Not all of them are always asked. Whoever is left out could not have proposed a better match.
-/

namespace ScopeTokenizer

open Grammar Pattern Style Reading Text

variable {engine : Engine}

/-! ## Leftmost elements -/

section Leftmost

variable {α : Type} {start : α → Nat}

/-- The first one of those elements of a list that begin leftmost. Only an empty list has none. -/
inductive Leftmost (start : α → Nat) : List α → Option α → Prop where
  | none : Leftmost start [] none
  | some (before : List α) (a : α) (later : List α) : (∀ b ∈ before, start a < start b) →
      (∀ b ∈ later, start a ≤ start b) → Leftmost start (before ++ a :: later) (some a)

/-- The one of two elements that begins leftmost, which is the first one if neither does. -/
def nearer (start : α → Nat) : Option α → Option α → Option α
  | none, second => second
  | some first, none => some first
  | some first, some second => if start second < start first then some second else some first

theorem nearer_some (start : α → Nat) (best : Option α) (a : α) :
    nearer start best (some a) = if best.any fun b => start b ≤ start a then best else some a := by
  cases best with
  | none => rfl
  | some b =>
    simp only [nearer, Option.any_some, decide_eq_true_eq]
    split <;> split <;> first | rfl | omega

theorem leftmost_argmin (start : α → Nat) (list : List α) :
    Leftmost start list (list.argmin start) := by
  induction list with
  | nil => exact .none
  | cons a list ih =>
    rw [List.argmin_cons]
    generalize list.argmin start = best at ih
    cases ih with
    | none => exact .some [] a [] nofun nofun
    | some before b later nearest le =>
      dsimp only
      split
      · next closer =>
        exact .some (a :: before) b later (List.forall_mem_cons.mpr ⟨closer, nearest⟩) le
      · next far =>
        refine .some [] a _ nofun fun c mem => ?_
        rcases List.mem_append.mp mem with mem | mem
        · have := nearest c mem
          omega
        · rcases List.mem_cons.mp mem with rfl | mem
          · omega
          · have := le c mem
            omega

theorem nearer_assoc (first second third : Option α) :
    nearer start (nearer start first second) third =
      nearer start first (nearer start second third) := by
  cases first <;> cases second <;> cases third <;> grind [nearer]

theorem argmin_cons (start : α → Nat) (a : α) (list : List α) :
    (a :: list).argmin start = nearer start (some a) (list.argmin start) := by
  rw [List.argmin_cons]
  cases list.argmin start <;> rfl

theorem argmin_append (start : α → Nat) (first second : List α) :
    (first ++ second).argmin start = nearer start (first.argmin start) (second.argmin start) := by
  induction first with
  | nil => rfl
  | cons a first ih => rw [List.cons_append, argmin_cons, argmin_cons, ih, nearer_assoc]

theorem argmin_map {β : Type} (change : β → α) (list : List β) :
    (list.map change).argmin start = (list.argmin fun b => start (change b)).map change := by
  induction list with
  | nil => rfl
  | cons b list ih =>
    rw [List.map_cons, List.argmin_cons, List.argmin_cons, ih]
    cases list.argmin fun b => start (change b) with
    | none => rfl
    | some c =>
      dsimp only [Option.map_some]
      split <;> rfl

/-- Nothing that begins further on is nearer. -/
theorem nearer_of_le {a : α} {list : List α} (le : ∀ b ∈ list, start a ≤ start b) :
    nearer start (some a) (list.argmin start) = some a := by
  cases nearest : list.argmin start with
  | none => rfl
  | some b =>
    have := le b (List.argmin_mem nearest)
    rw [nearer, if_neg (by omega)]

/-- A list in which certain elements come first is cut into those and the others. -/
theorem filter_append_filter_not {first : α → Bool} {list : List α}
    (order : list.Pairwise fun a b => first b = true → first a = true) :
    list.filter first ++ list.filter (fun a => !first a) = list := by
  induction order with
  | nil => rfl
  | @cons a list before _ ih =>
    by_cases is : first a = true
    · rw [List.filter_cons_of_pos is, List.filter_cons_of_neg (by simp [is]), List.cons_append, ih]
    · have none (b : α) (mem : b ∈ list) : ¬ first b = true := fun holds => is (before b mem holds)
      rw [List.filter_cons_of_neg is, List.filter_cons_of_pos (by simpa using is),
        List.filter_eq_nil_iff.mpr none, List.nil_append,
        List.filter_eq_self.mpr fun b mem => by simpa using none b mem]

end Leftmost

namespace Tokenizer

/-! ## Candidates -/

section Candidates

variable (tokenizer : Tokenizer engine) (line : Line) (cursor : Cursor)

/-- The match that a search inside a rule finds. -/
def answer (id : RuleId) (filled : Option String) : Option (SetMatch Target) :=
  (tokenizer.rule? id).bind fun rule =>
    (tokenizer.ruleScanner rule filled cursor.anchors).1.findAt line cursor.position

/-- The matches of those injections whose selectors hold. -/
def injected (injections : List Injection) : List Injected :=
  (injections.filter fun injection => injection.matcher.holds cursor.scopes.names).filterMap
    fun injection =>
      (tokenizer.answer line cursor injection.rule none).map fun found =>
        (injection.priority, found)

/-- All matches that may come next, in the order in which they are preferred at one position. -/
def candidates (library : Library) : List (SetMatch Target) :=
  let (injections, collected, _) := tokenizer.collected library
  let (left, others) :=
    (collected.injected line cursor injections).partition fun injected => injected.1 == .left
  let top := cursor.nesting.top
  left.map Prod.snd ++ (tokenizer.answer line cursor top.rule top.pattern).toList ++
    others.map Prod.snd

end Candidates

variable {tokenizer other : Tokenizer engine} {line : Line} {cursor : Cursor} {library : Library}

theorem injected_of_answer {injection : Injection} {found : SetMatch Target}
    (holds : injection.matcher.holds cursor.scopes.names = true)
    (answered : tokenizer.answer line cursor injection.rule none = some found)
    (others : List Injection) :
    tokenizer.injected line cursor (injection :: others) =
      (injection.priority, found) :: tokenizer.injected line cursor others := by
  simp [injected, holds, answered]

/-- An injection that finds nothing, or whose selector does not hold, has no influence. -/
theorem injected_of_no_answer {injection : Injection}
    (nothing : injection.matcher.holds cursor.scopes.names = true →
      tokenizer.answer line cursor injection.rule none = none) (others : List Injection) :
    tokenizer.injected line cursor (injection :: others) =
      tokenizer.injected line cursor others := by
  by_cases holds : injection.matcher.holds cursor.scopes.names = true
  · simp [injected, holds, nothing holds]
  · simp [injected, holds]

/-! ## Answers at one moment -/

/-- A coherent tokenizer with the same rules. -/
structure Likeness (tokenizer other : Tokenizer engine) : Prop where
  coherent : other.Coherent
  same : tokenizer.SameRules other

theorem SameRules.rule?_eq (same : tokenizer.SameRules other) (id : RuleId) :
    other.rule? id = tokenizer.rule? id := by
  rw [rule?, rule?, same.compilation]

/-- Tokenizers with the same rules find the same matches. -/
theorem ensures_search_likeness (coherent : tokenizer.Coherent) {id : RuleId} {rule : Rule}
    (found : tokenizer.rule? id = some rule) (filled : Option String) :
    Ensures library tokenizer.Likeness (search line cursor rule filled)
      (fun answer other => answer = tokenizer.answer line cursor id filled ∧
        tokenizer.Likeness other) := by
  have asked : Ensures library tokenizer.Likeness
      (use fun other => other.ruleScanner rule filled cursor.anchors)
      (fun scanner other =>
        scanner = (tokenizer.ruleScanner rule filled cursor.anchors).1 ∧
          tokenizer.Likeness other) := by
    refine Ensures.use fun other like => ?_
    obtain ⟨built, after, same⟩ :=
      like.coherent.ruleScanner ((like.same.rule?_eq id).trans found) filled cursor.anchors
    refine ⟨?_, after, like.same.trans same⟩
    rw [built, like.same.compilation, (coherent.ruleScanner found filled cursor.anchors).1]
  unfold search
  apply Ensures.bind asked
  intro scanner
  apply Ensures.of_and
  rintro rfl
  refine Ensures.pure fun other like => ⟨?_, like⟩
  rw [answer, found]
  rfl

theorem ensures_rule?_likeness (id : RuleId) :
    Ensures library tokenizer.Likeness (Reading.rule? id)
      (fun rule other => rule = tokenizer.rule? id ∧ tokenizer.Likeness other) := by
  refine (Ensures.rule? id).weaken (fun _ like => like) ?_
  rintro rule other ⟨rfl, like⟩
  exact ⟨like.same.rule?_eq id, like⟩

/-- Where an injected match begins. -/
abbrev injectedStart (injected : Injected) : Nat := injected.2.start

/-- Asking the injections in turn finds the nearest match. That of an injection which is not asked
any more is no nearer. -/
theorem ensures_bestInjected_likeness (coherent : tokenizer.Coherent) (injections : List Injection)
    (best : Option Injected)
    (ahead : ∀ found ∈ tokenizer.injected line cursor injections,
      cursor.position ≤ injectedStart found) :
    Ensures library tokenizer.Likeness
      (bestInjected line cursor cursor.scopes.names injections best)
      (fun result other =>
        result = nearer injectedStart best
          ((tokenizer.injected line cursor injections).argmin injectedStart) ∧
        tokenizer.Likeness other) := by
  induction injections generalizing best with
  | nil =>
    refine Ensures.pure fun other like => ⟨?_, like⟩
    cases best <;> rfl
  | cons injection others ih =>
    have skip (nothing : injection.matcher.holds cursor.scopes.names = true →
        tokenizer.answer line cursor injection.rule none = none) :=
      injected_of_no_answer nothing others
    unfold bestInjected
    by_cases holds : injection.matcher.holds cursor.scopes.names = true
    · rw [if_pos holds]
      apply Ensures.bind (ensures_rule?_likeness injection.rule)
      intro rule
      apply Ensures.of_and
      rintro rfl
      cases compiled : tokenizer.rule? injection.rule with
      | none =>
        rw [skip fun _ => by rw [answer, compiled]; rfl] at ahead ⊢
        exact ih best ahead
      | some rule =>
        apply Ensures.bind (ensures_search_likeness coherent compiled none)
        intro answer
        apply Ensures.of_and
        rintro rfl
        cases answered : tokenizer.answer line cursor injection.rule none with
        | none =>
          rw [skip fun _ => answered] at ahead ⊢
          exact ih best ahead
        | some found =>
          rw [injected_of_answer holds answered] at ahead ⊢
          obtain ⟨here, later⟩ := List.forall_mem_cons.mp ahead
          rw [argmin_cons, ← nearer_assoc]
          dsimp only
          split
          · next worse =>
            have kept : nearer injectedStart best (some (injection.priority, found)) = best :=
              (nearer_some _ _ _).trans (if_pos worse)
            rw [kept]
            exact ih best later
          · next closer =>
            have taken : nearer injectedStart best (some (injection.priority, found)) =
                some (injection.priority, found) := (nearer_some _ _ _).trans (if_neg closer)
            rw [taken]
            split
            · next at_cursor =>
              have none_closer (other : Injected)
                  (mem : other ∈ tokenizer.injected line cursor others) :
                  injectedStart (injection.priority, found) ≤ injectedStart other :=
                Nat.le_trans (Nat.le_of_eq at_cursor) (later other mem)
              exact Ensures.pure fun other like => ⟨(nearer_of_le none_closer).symm, like⟩
            · exact ih _ later
    · rw [if_neg holds]
      rw [skip fun contra => absurd contra holds] at ahead ⊢
      exact ih best ahead

theorem SameRules.collected (same : tokenizer.SameRules other) (coherent : tokenizer.Coherent)
    (likewise : other.Coherent) (library : Library) :
    (tokenizer.collected library).2.1.SameRules (other.collected library).2.1 := by
  obtain ⟨injections, compilation⟩ := same.collected_eq library
  obtain ⟨root, styler⟩ := tokenizer.collected_root_styler library
  obtain ⟨root', styler'⟩ := other.collected_root_styler library
  obtain ⟨-, -, kept⟩ := coherent.collected library
  obtain ⟨-, -, kept'⟩ := likewise.collected library
  constructor
  · rw [root, root', same.root]
  · rw [styler, styler', same.styler]
  · exact compilation
  · rw [kept, kept', injections]

theorem ensures_regularMatch_likeness (coherent : tokenizer.Coherent) :
    Ensures library tokenizer.Likeness (regularMatch line cursor)
      (fun found other =>
        found = tokenizer.answer line cursor cursor.nesting.top.rule cursor.nesting.top.pattern ∧
          tokenizer.Likeness other) := by
  unfold regularMatch
  apply Ensures.bind (ensures_rule?_likeness _)
  intro rule
  apply Ensures.of_and
  rintro rfl
  cases compiled : tokenizer.rule? cursor.nesting.top.rule with
  | none =>
    refine Ensures.pure fun other like => ⟨?_, like⟩
    rw [answer, compiled]
    rfl
  | some rule => exact ensures_search_likeness coherent compiled _

theorem ensures_collected_likeness (coherent : tokenizer.Coherent) (library : Library) :
    Ensures library tokenizer.Likeness (use fun other => other.collected library)
      (fun injections other => injections = (tokenizer.collected library).1 ∧
        (tokenizer.collected library).2.1.Likeness other) :=
  Ensures.use fun _ like =>
    ⟨(like.same.collected_eq library).1, (like.coherent.collected library).1,
      like.same.collected coherent like.coherent library⟩

/-! ## The next match -/

/-- The rule's match stands between those of injections to the left and those of the others. -/
theorem better_nearer (regular : Option (SetMatch Target)) {left others : Option Injected}
    (first : ∀ found ∈ left, (found.1 == .left) = true)
    (last : ∀ found ∈ others, (found.1 == .left) = false) :
    better regular (nearer injectedStart left others) =
      nearer SetMatch.start (nearer SetMatch.start (left.map Prod.snd) regular)
        (others.map Prod.snd) := by
  cases left <;> cases others <;> cases regular <;> grind [better, nearer]

/-- The better one of the nearest injected match and the rule's is the nearest of all candidates. -/
theorem better_argmin (regular : Option (SetMatch Target)) {injected : List Injected}
    (order : injected.Pairwise fun first second => second.1 == .left → first.1 == .left) :
    better regular (injected.argmin injectedStart) =
      ((injected.filter fun found => found.1 == .left).map Prod.snd ++ regular.toList ++
        (injected.filter fun found => !(found.1 == .left)).map Prod.snd).argmin
          SetMatch.start := by
  have whole := argmin_append injectedStart (injected.filter fun found => found.1 == .left)
    (injected.filter fun found => !(found.1 == .left))
  rw [filter_append_filter_not order] at whole
  have own : regular.toList.argmin SetMatch.start = regular := by cases regular <;> rfl
  rw [whole, argmin_append, argmin_append, argmin_map, argmin_map, own]
  refine better_nearer regular (fun found is => ?_) fun found is => ?_
  · exact (List.mem_filter.mp (List.argmin_mem is)).2
  · simpa using (List.mem_filter.mp (List.argmin_mem is)).2

theorem injected_order {injections : List Injection}
    (order : injections.Pairwise fun first second => first.priority.rank ≤ second.priority.rank) :
    (tokenizer.injected line cursor injections).Pairwise
      fun first second => second.1 == .left → first.1 == .left := by
  refine (order.filter _).filterMap _ fun first second le found is found' is' => ?_
  obtain ⟨-, -, rfl⟩ := Option.map_eq_some_iff.mp is
  obtain ⟨-, -, rfl⟩ := Option.map_eq_some_iff.mp is'
  simp only [beq_iff_eq]
  intro left
  rw [left] at le
  cases priority : first.priority with
  | left => rfl
  | neutral | right =>
    rw [priority] at le
    exact absurd le (by decide)

/-- The candidates are those of all injections that are asked, and that of the rule. -/
theorem mem_candidates {found : SetMatch Target} :
    found ∈ tokenizer.candidates line cursor library ↔
      found ∈ tokenizer.answer line cursor cursor.nesting.top.rule cursor.nesting.top.pattern ∨
        ∃ injected ∈ (tokenizer.collected library).2.1.injected line cursor
          (tokenizer.collected library).1, injected.2 = found := by
  simp only [candidates, List.partition_eq_filter_filter, List.mem_append, List.mem_map,
    List.mem_filter, Option.mem_toList]
  constructor
  · rintro ((⟨injected, ⟨mem, -⟩, is⟩ | own) | ⟨injected, ⟨mem, -⟩, is⟩)
    · exact .inr ⟨injected, mem, is⟩
    · exact .inl own
    · exact .inr ⟨injected, mem, is⟩
  · rintro (own | ⟨injected, mem, is⟩)
    · exact .inl (.inr own)
    · by_cases left : (injected.1 == .left) = true
      · exact .inl (.inl ⟨injected, ⟨mem, left⟩, is⟩)
      · exact .inr ⟨injected, ⟨mem, by simpa using left⟩, is⟩

/-- Injected matches have priorities of injections. -/
theorem exists_of_mem_injected {injections : List Injection} {found : Injected}
    (mem : found ∈ tokenizer.injected line cursor injections) :
    ∃ injection ∈ injections, injection.priority = found.1 := by
  obtain ⟨injection, mem, is⟩ := List.mem_filterMap.mp mem
  obtain ⟨-, -, rfl⟩ := Option.map_eq_some_iff.mp is
  exact ⟨injection, (List.mem_filter.mp mem).1, rfl⟩

/-- Nothing is better than a match of the rule at the cursor, if no injection goes to the left. -/
theorem better_of_at_cursor {regular : Option (SetMatch Target)} {position : Nat}
    {best : Option Injected} (here : regular.any fun found => found.start == position)
    (others : ∀ found ∈ best, found.1 ≠ .left) (ahead : ∀ found ∈ best, position ≤ found.2.start) :
    better regular best = regular := by
  cases regular with
  | none => cases here
  | some found =>
    cases best with
    | none => rfl
    | some injected =>
      have other := others injected rfl
      have further := ahead injected rfl
      have at_cursor : found.start = position := by simpa using here
      simp only [better]
      rw [if_neg]
      simp only [Bool.or_eq_true, Bool.and_eq_true, decide_eq_true_eq, beq_iff_eq, other, and_false,
        or_false]
      omega

theorem argmin_candidates
    (order : (tokenizer.collected library).1.Pairwise
      fun first second => first.priority.rank ≤ second.priority.rank) :
    (tokenizer.candidates line cursor library).argmin SetMatch.start =
      better
        (tokenizer.answer line cursor cursor.nesting.top.rule cursor.nesting.top.pattern)
        (((tokenizer.collected library).2.1.injected line cursor
          (tokenizer.collected library).1).argmin injectedStart) := by
  rw [better_argmin _ (injected_order order)]
  simp only [candidates, List.partition_eq_filter_filter]
  rfl

/-- The next match is that of the innermost region alone, or else the better one of it and of what
the injections find. -/
theorem Coherent.ensures_nextMatch_of_better (coherent : tokenizer.Coherent)
    {P : Option (SetMatch Target) → Prop} {after : Option Injected → Tokenizer engine → Prop}
    (alone : (tokenizer.answer line cursor cursor.nesting.top.rule cursor.nesting.top.pattern).any
        (fun found => found.start == cursor.position) →
      (∀ injection ∈ (tokenizer.collected library).1, injection.priority ≠ .left) →
      P (tokenizer.answer line cursor cursor.nesting.top.rule cursor.nesting.top.pattern))
    (injected : Ensures library (tokenizer.collected library).2.1.Likeness
      (bestInjected line cursor cursor.scopes.names (tokenizer.collected library).1 none) after)
    (chosen : ∀ best other, after best other → P (better
      (tokenizer.answer line cursor cursor.nesting.top.rule cursor.nesting.top.pattern) best)) :
    Ensures library tokenizer.Likeness (nextMatch line cursor) (fun found _ => P found) := by
  unfold nextMatch
  apply Ensures.bind (ensures_regularMatch_likeness coherent)
  intro regular
  apply Ensures.of_and
  rintro rfl
  apply Ensures.bind Ensures.read
  intro given
  apply Ensures.of_and
  rintro rfl
  apply Ensures.bind (ensures_collected_likeness coherent given)
  intro injections
  apply Ensures.of_and
  rintro rfl
  split
  · next shortcut =>
    obtain ⟨here, others⟩ := Bool.and_eq_true_iff.mp shortcut
    refine Ensures.pure fun _ _ => alone here fun injection mem => ?_
    simpa using List.all_eq_true.mp others injection mem
  · exact Ensures.bind injected fun best => Ensures.pure fun other held => chosen best other held

/-- The next match is the nearest one of all candidates. -/
theorem Coherent.ensures_nextMatch (coherent : tokenizer.Coherent)
    (order : (tokenizer.collected library).1.Pairwise
      fun first second => first.priority.rank ≤ second.priority.rank)
    (ahead : ∀ found ∈ tokenizer.candidates line cursor library, cursor.position ≤ found.start) :
    Ensures library tokenizer.Likeness (nextMatch line cursor)
      (fun found _ => found =
        (tokenizer.candidates line cursor library).argmin SetMatch.start) := by
  have injected_ahead (found : Injected) (mem : found ∈ (tokenizer.collected library).2.1.injected
      line cursor (tokenizer.collected library).1) : cursor.position ≤ injectedStart found :=
    ahead found.2 (mem_candidates.mpr (.inr ⟨found, mem, rfl⟩))
  rw [argmin_candidates order]
  refine coherent.ensures_nextMatch_of_better ?_ (ensures_bestInjected_likeness
    (coherent.collected library).1 _ none injected_ahead) ?_
  · intro here others
    refine (better_of_at_cursor here (fun found is left => ?_)
      fun found is => injected_ahead found (List.argmin_mem is)).symm
    obtain ⟨injection, mem, priority⟩ := exists_of_mem_injected (List.argmin_mem is)
    exact others injection mem (priority.trans left)
  · rintro best _ ⟨rfl, -⟩
    rfl

/-- At any time in the life of a tokenizer, the next match is the first one of those candidates that
begin leftmost, and there is none only if there are no candidates. The injections were collected in
order, from the library of that time. -/
theorem nextMatch_leftmost {grammar : GrammarDef} {first library : Library} {languages : Languages}
    {theme : Theme} {origin : Tokenizer engine}
    (compiled : ofGrammar engine grammar first languages theme = .ok origin)
    (sorted : grammar.Sorted) {heard : Option Library} {p : Progress engine}
    (lifetime : origin.Lifetime library heard p.tokenizer) (line : Line) (cursor : Cursor)
    (ahead : ∀ found ∈ p.tokenizer.candidates line cursor library,
      cursor.position ≤ found.start) :
    (∃ found after, nextMatch line cursor library p = some (found, after) ∧
      Leftmost SetMatch.start (p.tokenizer.candidates line cursor library) found) ∧
    Collection.InOrder (heard.getD library) origin.compilation
      (p.tokenizer.collected library).1 := by
  have coherent := (lifetime.moment (.compiled compiled)).coherent
  have order := lifetime.inOrder_collected compiled sorted
  obtain ⟨found, after, run, rfl⟩ := coherent.ensures_nextMatch order.collects.pairwise ahead p
    ⟨coherent, .refl _⟩
  exact ⟨⟨_, after, run, leftmost_argmin _ _⟩, order⟩

/-- A grammar with injections of all priorities, and with one that holds nowhere in it. They are not
written in the order of their selectors. -/
def injecting : String :=
  "\x7b\"scopeName\": \"Main\", \"patterns\": [\x7b\"match\": \"ab\"\x7d], \"injections\": \x7b" ++
    "\"R:Main\": \x7b\"match\": \"a\"\x7d, \"Main\": \x7b\"match\": \"a\"\x7d, " ++
    "\"L:Main\": \x7b\"match\": \"b\"\x7d, \"L:Elsewhere\": \x7b\"match\": \"a\"\x7d\x7d\x7d"

/-- Two grammars are injected into it. The one that is added first has asked for it last. -/
def registering : List Change :=
  let asking (scope pattern : String) : GrammarDef :=
    { scopeName := scope
      patterns := [{ matchPattern := some pattern }]
      injectTo := ["Main"]
      injectionSelector := some "R:Main" }
  [.inject "Main" "Second", .add (asking "First" "b"), .add (asking "Second" "ab")]

/-- A cursor behind the first character of a line. -/
def behindFirst (tokenizer : Tokenizer engine) : Cursor :=
  { position := 1, firstLine := true, nesting := tokenizer.initial }

/-- The tokenizer with its injections in the order in which they were found. -/
def collectedAsFound (tokenizer : Tokenizer engine) (library : Library) : Tokenizer engine :=
  let collection := Collection.ofCompilation tokenizer.compilation library
  { tokenizer with
    compilation := collection.compilation
    injections := some collection.injections }

/-- Whether injections are in the order of their priorities. -/
def InPriority (injections : List Injection) : Prop :=
  injections.Pairwise fun first second => first.priority.rank ≤ second.priority.rank

instance (injections : List Injection) : Decidable (InPriority injections) :=
  inferInstanceAs (Decidable (injections.Pairwise _))

/-- Sorting changes nothing if injections are found in the order of their priorities. -/
theorem collected_eq_asFound (fresh : tokenizer.injections = none)
    (order : InPriority (Collection.ofCompilation tokenizer.compilation library).injections) :
    (tokenizer.collected library).2.1 = tokenizer.collectedAsFound library := by
  have sorted : (Collection.ofCompilation tokenizer.compilation library).sorted =
      (Collection.ofCompilation tokenizer.compilation library).injections :=
    List.mergeSort_of_pairwise (by simpa [InPriority] using order)
  simp only [Tokenizer.collected, fresh, sorted, collectedAsFound]

theorem nextMatch_leftmost_injecting :
    ∃ (grammar : GrammarDef) (origin tokenizer : Tokenizer Engine.literal)
      (found : Option (SetMatch Target)) (after : Progress Engine.literal),
      GrammarDef.ofJson injecting = .ok grammar ∧ ofTexts grammar = .ok origin ∧ grammar.Sorted ∧
      origin.Lifetime (({} : Library).applyAll registering)
        (some (({} : Library).applyAll registering)) tokenizer ∧
      (tokenizer.candidates (terminated "xab") tokenizer.behindFirst
        (({} : Library).applyAll registering)).map SetMatch.start = [2, 1, 1, 1, 1, 2] ∧
      nextMatch (terminated "xab") tokenizer.behindFirst (({} : Library).applyAll registering)
        { tokenizer, tokens := { styled := false } } = some (found, after) ∧
      Leftmost SetMatch.start (tokenizer.candidates (terminated "xab") tokenizer.behindFirst
        (({} : Library).applyAll registering)) found ∧
      Collection.InOrder (({} : Library).applyAll registering) origin.compilation
        (tokenizer.collected (({} : Library).applyAll registering)).1 := by
  generalize is : ({} : Library).applyAll registering = library
  let check (origin : Tokenizer Engine.literal) : Option (Tokenizer Engine.literal) :=
    let tokenizer := origin.collectedAsFound library
    if origin.injections.isNone = true ∧
      InPriority (Collection.ofCompilation origin.compilation library).injections ∧
      (tokenizer.candidates (terminated "xab") tokenizer.behindFirst library).map SetMatch.start =
        [2, 1, 1, 1, 1, 2]
    then some tokenizer else none
  have answers : ((GrammarDef.ofJson injecting).toOption.bind fun grammar =>
      (ofTexts grammar).toOption.bind check).isSome := by
    subst is
    decide +kernel
  obtain ⟨grammar, _, read, asked⟩ := exists_ok_of_isSome answers
  obtain ⟨origin, tokenizer, compiled, asked⟩ :=
    exists_ok_of_isSome (Option.isSome_iff_exists.mpr ⟨_, asked⟩)
  obtain ⟨⟨fresh, order, starts⟩, asked⟩ := Option.ite_none_right_eq_some.mp asked
  cases asked
  rw [← collected_eq_asFound (Option.isNone_iff_eq_none.mp fresh) order] at starts
  have sorted := GrammarDef.sorted_of_ofJson read
  have lifetime : origin.Lifetime library (some library) (origin.collected library).2.1 :=
    (Lifetime.compiled library).collected
  generalize (origin.collected library).2.1 = tokenizer at starts lifetime
  have ahead (found : SetMatch Target)
      (mem : found ∈ tokenizer.candidates (terminated "xab") tokenizer.behindFirst library) :
      tokenizer.behindFirst.position ≤ found.start := by
    have listed : found.start ∈ [2, 1, 1, 1, 1, 2] := starts ▸ List.mem_map.mpr ⟨found, mem, rfl⟩
    change 1 ≤ found.start
    generalize found.start = start at listed
    revert start
    decide
  obtain ⟨⟨found, after, run, leftmost⟩, order⟩ :=
    nextMatch_leftmost (p := { tokenizer, tokens := { styled := false } }) compiled sorted
      lifetime (terminated "xab") tokenizer.behindFirst ahead
  exact ⟨grammar, origin, tokenizer, found, after, read, compiled, sorted, lifetime, starts, run,
    leftmost, order⟩

end Tokenizer

end ScopeTokenizer
