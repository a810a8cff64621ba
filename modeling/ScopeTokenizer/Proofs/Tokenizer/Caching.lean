import ScopeTokenizer.Proofs.Grammar.Compiling
import ScopeTokenizer.Tokenizer.Basic

/-!
# What a tokenizer keeps

Injections, scanners and styles are made when they are first needed, and kept. What is kept is
what would be made at any later time. So a tokenizer gives the same answers whatever was read with
it before.
-/

namespace ScopeTokenizer

open Grammar Pattern Style

variable {engine : Engine}

/-! ## Built scanners -/

namespace Pattern.PatternSet

variable {α : Type}

theorem exists_of_mem_compileAll {patterns : List ((α × String) × Nat)}
    {members : List (Member engine α)} (run : compileAll? patterns = some members)
    {member : Member engine α} (mem : member ∈ members) :
    ∃ entry ∈ patterns, entry.1.1 = member.label ∧
      engine.compile? true entry.1.2 = some member.pattern := by
  simp only [compileAll?] at run
  induction patterns generalizing members with
  | nil =>
    cases run
    cases mem
  | cons entry patterns ih =>
    rw [List.mapM_cons] at run
    obtain ⟨first, compiled, run⟩ := Option.bind_eq_some_iff.mp run
    obtain ⟨others, rest, run⟩ := Option.bind_eq_some_iff.mp run
    obtain ⟨pattern, is, rfl⟩ := Option.map_eq_some_iff.mp compiled
    cases run
    rcases List.mem_cons.mp mem with rfl | mem
    · exact ⟨entry, List.mem_cons_self, rfl, is⟩
    · obtain ⟨other, mem, facts⟩ := ih rest mem
      exact ⟨other, List.mem_cons_of_mem _ mem, facts⟩

/-- The members of a set are compiled from patterns that it was built from, with their labels. -/
theorem exists_of_mem_ofList {patterns : List (α × String)} {member : Member engine α}
    (mem : member ∈ (ofList patterns).1.members) :
    ∃ entry ∈ patterns, entry.1 = member.label ∧
      engine.compile? true entry.2 = some member.pattern := by
  have indexed {members : List (Member engine α)} {chosen : List ((α × String) × Nat)}
      (subset : chosen ⊆ patterns.zipIdx) (run : compileAll? chosen = some members)
      (mem : member ∈ members) : ∃ entry ∈ patterns, entry.1 = member.label ∧
        engine.compile? true entry.2 = some member.pattern := by
    obtain ⟨entry, inside, facts⟩ := exists_of_mem_compileAll run mem
    exact ⟨entry.1, List.fst_mem_of_mem_zipIdx (subset inside), facts⟩
  simp only [ofList] at mem
  split at mem
  · next members run => exact indexed (List.Subset.refl _) run mem
  · split at mem
    · next members run => exact indexed (List.filter_subset_self _) run mem
    · cases mem

end Pattern.PatternSet

namespace Tokenizer

/-! ## Injections -/

/-- Injections of a closed compilation that has grown from another one. -/
structure Collection.From (start : Compilation) (collection : Collection) : Prop where
  closed : collection.compilation.Closed
  grows : start.Grows collection.compilation
  known : ∀ injection ∈ collection.injections,
    injection.rule ≤ collection.compilation.table.size

namespace Collection.From

variable {start : Compilation} {collection : Collection}

theorem warn (given : Collection.From start collection) (warning : Warning) :
    Collection.From start (collection.warn warning) :=
  ⟨given.closed, given.grows, given.known⟩

/-- The compilation may go on. -/
theorem goOn (given : Collection.From start collection) {after : Compilation}
    (closed : after.Closed) (grows : collection.compilation.Grows after) :
    Collection.From start { collection with compilation := after } where
  closed := closed
  grows := given.grows.trans grows
  known injection mem := Nat.le_trans (given.known injection mem) grows.table.size_le

theorem add (given : Collection.From start collection) (library : Library)
    (grammar : LinkedGrammar) (selector : String) (node : Node) :
    Collection.From start (collection.add library grammar selector node) := by
  simp only [Collection.add]
  split
  · exact given.warn _
  · exact given
  · next parts _ =>
    obtain ⟨closed, grows, numbered⟩ :=
      given.closed.compileRule library grammar.surroundings node
    split
    · next error after run =>
      rw [run] at closed grows
      exact (given.goOn closed grows).warn _
    · next rule after run =>
      rw [run] at closed grows numbered
      refine { given.goOn closed grows with known := fun injection mem => ?_ }
      rcases List.mem_append.mp mem with mem | mem
      · exact (given.goOn closed grows).known injection mem
      · obtain ⟨part, -, rfl⟩ := List.mem_map.mp mem
        exact numbered rule rfl

theorem addInjector (given : Collection.From start collection) (library : Library)
    (injector : String) : Collection.From start (collection.addInjector library injector) := by
  have sound : Compile.Sound library 0
      (Compile.grammar? injector collection.compilation.host.base?) fun _ _ => True :=
    Compile.sound_grammar? _ _
  obtain ⟨closed, grows, -⟩ := sound collection.compilation given.closed (Nat.zero_le _)
  simp only [Collection.addInjector]
  split
  · next grammar after run =>
    rw [run] at closed grows
    split
    · exact (given.goOn closed grows).add library _ _ _
    · exact given.goOn closed grows
  · next answer after _ run =>
    rw [run] at closed grows
    exact (given.goOn closed grows).warn _

end Collection.From

theorem Collection.from_ofCompilation {compilation : Compilation} (closed : compilation.Closed)
    (library : Library) : Collection.From compilation (.ofCompilation compilation library) := by
  simp only [Collection.ofCompilation]
  refine List.foldlRecOn _ _ (motive := Collection.From compilation) ?_
    fun _ given injector _ => given.addInjector library injector
  refine List.foldlRecOn _ _ (motive := Collection.From compilation) ?_
    fun _ given entry _ => given.add library _ _ _
  exact ⟨closed, .refl _, nofun⟩

variable {tokenizer : Tokenizer engine} {library : Library}

/-! ## Coherence -/

/-- The patterns that a scanner is built from, if there is a rule for it. -/
def patternsFor? (table : RuleTable) (key : ScannerKey) (filled : Option String) :
    Option (List (Target × String)) :=
  (table.rule? key.rule).bind fun rule =>
    if key.condition then
      match rule.kind with
      | .lines _ _ condition _ => some (conditionPatterns condition.pattern filled key.anchors)
      | _ => none
    else some (patternsOf table rule filled key.anchors)

theorem patternsOf_eq {before after : RuleTable} (grows : before.Grows after)
    (closed : before.Closed) {rule : Rule} (le : rule.id ≤ before.size)
    (filled : Option String) (anchors : Anchors) :
    patternsOf after rule filled anchors = patternsOf before rule filled anchors := by
  simp only [patternsOf, innerPatterns]
  rw [grows.candidates_eq closed le]

/-- The patterns of a scanner stay the same when a table grows. -/
theorem patternsFor?_eq {before after : RuleTable} (grows : before.Grows after)
    (closed : before.Closed) {key : ScannerKey} {filled : Option String}
    {patterns : List (Target × String)} (given : patternsFor? before key filled = some patterns) :
    patternsFor? after key filled = some patterns := by
  obtain ⟨rule, found, made⟩ := Option.bind_eq_some_iff.mp given
  have le := RuleTable.le_size_of_rule? found
  refine Option.bind_eq_some_iff.mpr ⟨rule, (grows.kept _ le).trans found, ?_⟩
  rw [patternsOf_eq grows closed (by rwa [closed.id_eq _ rule found])]
  exact made

/-- A tokenizer in which everything that it keeps is what would be made now. -/
structure Coherent (tokenizer : Tokenizer engine) : Prop where
  closed : tokenizer.compilation.Closed
  root : ∃ rule, tokenizer.rule? tokenizer.root = some rule ∧ Compile.IsContainer rule.kind
  injections : ∀ kept, tokenizer.injections = some kept →
    ∀ injection ∈ kept, injection.rule ≤ tokenizer.compilation.table.size
  scanners : ∀ key filled scanner, tokenizer.known? key filled = some scanner →
    ∃ patterns, patternsFor? tokenizer.compilation.table key filled = some patterns ∧
      scanner = (build engine patterns).1
  styles : ∀ scope style, tokenizer.styles.lookup scope = some style →
    style = tokenizer.styler.styleOf scope

/-- A grammar with a scope name whose rules compile makes a tokenizer, and no other one does. -/
theorem ofGrammar_eq_ok_iff {grammar : GrammarDef} {languages : Languages} {theme : Theme} :
    ofGrammar engine grammar library languages theme = .ok tokenizer ↔
      grammar.scopeName ≠ "" ∧ ∃ root compilation,
        (Compilation.start grammar).compileRoot library = (.ok root, compilation) ∧
          tokenizer = { root, compilation, styler := ⟨languages, theme⟩ } := by
  unfold ofGrammar
  split
  · next empty => exact ⟨nofun, fun ⟨named, _⟩ => absurd (String.isEmpty_iff.mp empty) named⟩
  · next named =>
    rw [String.isEmpty_iff] at named
    constructor
    · intro run
      split at run
      · cases run
      · next root compilation compiled =>
        cases run
        exact ⟨named, root, compilation, compiled, rfl⟩
    · rintro ⟨-, root, compilation, compiled, rfl⟩
      rw [compiled]

theorem coherent_ofGrammar {grammar : GrammarDef} {languages : Languages} {theme : Theme}
    (run : ofGrammar engine grammar library languages theme = .ok tokenizer) :
    tokenizer.Coherent := by
  obtain ⟨-, root, compilation, compiled, rfl⟩ := ofGrammar_eq_ok_iff.mp run
  obtain ⟨closed, -, rule, found, container⟩ := Compilation.compileRoot_spec compiled
  refine ⟨closed, ⟨rule, found, container⟩, nofun, fun key filled scanner known => ?_, nofun⟩
  cases filled with
  | none => cases known
  | some text => cases known

theorem Coherent.withTheme (coherent : tokenizer.Coherent) (theme : Theme) :
    (tokenizer.withTheme theme).Coherent :=
  ⟨coherent.closed, coherent.root, coherent.injections, coherent.scanners, nofun⟩

/-- Tokenizers that differ at most in the scanners and the styles that they keep. -/
structure SameRules (first second : Tokenizer engine) : Prop where
  root : second.root = first.root
  styler : second.styler = first.styler
  compilation : second.compilation = first.compilation
  injections : second.injections = first.injections

namespace SameRules

variable {first second third : Tokenizer engine}

theorem refl (tokenizer : Tokenizer engine) : tokenizer.SameRules tokenizer :=
  ⟨rfl, rfl, rfl, rfl⟩

theorem trans (same : first.SameRules second) (other : second.SameRules third) :
    first.SameRules third :=
  ⟨other.root.trans same.root, other.styler.trans same.styler,
    other.compilation.trans same.compilation, other.injections.trans same.injections⟩

end SameRules

theorem sameRules_keep (tokenizer : Tokenizer engine) (key : ScannerKey)
    (filled : Option String) (scanner : Scanner engine) :
    tokenizer.SameRules (tokenizer.keep key filled scanner) := by
  cases filled with
  | none => exact ⟨rfl, rfl, rfl, rfl⟩
  | some text => exact ⟨rfl, rfl, rfl, rfl⟩

theorem styles_keep (tokenizer : Tokenizer engine) (key : ScannerKey)
    (filled : Option String) (scanner : Scanner engine) :
    (tokenizer.keep key filled scanner).styles = tokenizer.styles := by
  cases filled with
  | none => rfl
  | some text => rfl

theorem lookup_of_filter {α β : Type} [DecidableEq α] {entries : List (α × β)} {key other : α}
    {value : β} (found : (entries.filter fun entry => entry.1 ≠ key).lookup other = some value)
    (apart : other ≠ key) : entries.lookup other = some value := by
  induction entries with
  | nil => cases found
  | cons entry entries ih =>
    rw [List.lookup_cons]
    by_cases dropped : entry.1 = key
    · rw [List.filter_cons_of_neg (by simpa using dropped)] at found
      have different : (other == entry.1) = false := by simpa [dropped] using apart
      rw [different]
      exact ih found
    · rw [List.filter_cons_of_pos (by simpa using dropped), List.lookup_cons] at found
      split at found
      · exact found
      · exact ih found

/-- A scanner that is kept replaces only those with the same key. -/
theorem known?_keep {key other : ScannerKey} {filled text : Option String}
    {scanner found : Scanner engine}
    (known : (tokenizer.keep key filled scanner).known? other text = some found) :
    (other = key ∧ text = filled ∧ found = scanner) ∨
      tokenizer.known? other text = some found := by
  by_cases same : other = key
  · subst same
    cases filled with
    | none =>
      cases text with
      | none =>
        simp only [known?, keep, List.lookup_cons_self, Option.some.injEq] at known
        exact .inl ⟨rfl, rfl, known.symm⟩
      | some text => exact .inr known
    | some pattern =>
      cases text with
      | none => exact .inr known
      | some text =>
        simp only [known?, keep, List.lookup_cons_self, Option.ite_none_right_eq_some,
          Option.some.injEq] at known
        obtain ⟨rfl, rfl⟩ := known
        exact .inl ⟨rfl, rfl, rfl⟩
  · have different : (other == key) = false := by simpa using same
    refine .inr ?_
    cases filled with
    | none =>
      cases text with
      | none =>
        simp only [known?, keep, List.lookup_cons, different] at known
        exact known
      | some text => exact known
    | some pattern =>
      cases text with
      | none => exact known
      | some text =>
        simp only [known?, keep, List.lookup_cons, different] at known
        simp only [known?]
        split at known
        · next pattern scanner found =>
          rw [lookup_of_filter found same]
          exact known
        · cases known

theorem SameRules.coherent {first second : Tokenizer engine} (same : first.SameRules second)
    (coherent : first.Coherent)
    (scanners : ∀ key filled scanner, second.known? key filled = some scanner →
      ∃ patterns, patternsFor? first.compilation.table key filled = some patterns ∧
        scanner = (build engine patterns).1)
    (styles : ∀ scope style, second.styles.lookup scope = some style →
      style = first.styler.styleOf scope) : second.Coherent := by
  constructor
  · rw [same.compilation]
    exact coherent.closed
  · rw [rule?, same.root, same.compilation]
    exact coherent.root
  · rw [same.injections, same.compilation]
    exact coherent.injections
  · rw [same.compilation]
    exact scanners
  · rw [same.styler]
    exact styles

/-! ## Answers -/

/-- A scanner that is asked for is the one that would be built now. -/
theorem Coherent.scanner (coherent : tokenizer.Coherent) {key : ScannerKey}
    {filled : Option String} {patterns : Unit → List (Target × String)}
    (made : patternsFor? tokenizer.compilation.table key filled = some (patterns ())) :
    (tokenizer.scanner key filled patterns).1 = (build engine (patterns ())).1 ∧
      (tokenizer.scanner key filled patterns).2.1.Coherent ∧
      tokenizer.SameRules (tokenizer.scanner key filled patterns).2.1 := by
  simp only [Tokenizer.scanner]
  cases known : tokenizer.known? key filled with
  | some scanner =>
    obtain ⟨given, from_key, built⟩ := coherent.scanners key filled scanner known
    rw [from_key, Option.some.injEq] at made
    rw [made] at built
    exact ⟨built, coherent, .refl _⟩
  | none =>
    have same := tokenizer.sameRules_keep key filled (build engine (patterns ())).1
    refine ⟨rfl, same.coherent coherent (fun other text found known => ?_) ?_, same⟩
    · rcases known?_keep known with ⟨rfl, rfl, rfl⟩ | known
      · exact ⟨patterns (), made, rfl⟩
      · exact coherent.scanners other text found known
    · rw [styles_keep]
      exact coherent.styles

theorem Coherent.ruleScanner (coherent : tokenizer.Coherent) {id : RuleId} {rule : Rule}
    (found : tokenizer.rule? id = some rule) (filled : Option String) (anchors : Anchors) :
    (tokenizer.ruleScanner rule filled anchors).1 =
        (build engine (patternsOf tokenizer.compilation.table rule (fillable rule filled)
          anchors)).1 ∧
      (tokenizer.ruleScanner rule filled anchors).2.1.Coherent ∧
      tokenizer.SameRules (tokenizer.ruleScanner rule filled anchors).2.1 := by
  have own : tokenizer.rule? rule.id = some rule := by
    rwa [coherent.closed.table.id_eq id rule found]
  exact coherent.scanner (Option.bind_eq_some_iff.mpr ⟨rule, own, rfl⟩)

theorem Coherent.conditionScanner (coherent : tokenizer.Coherent) {id number : RuleId}
    {name contentName : Option Scope.Template} {opening condition : Matching} {inner : Inner}
    (found : tokenizer.rule? id =
      some ⟨number, name, .lines contentName opening condition inner⟩)
    (filled : Option String) (anchors : Anchors) :
    (tokenizer.conditionScanner number condition.pattern filled anchors).1 =
        (build engine (conditionPatterns condition.pattern filled anchors)).1 ∧
      (tokenizer.conditionScanner number condition.pattern filled anchors).2.1.Coherent ∧
      tokenizer.SameRules
        (tokenizer.conditionScanner number condition.pattern filled anchors).2.1 := by
  have own := found
  rw [← coherent.closed.table.id_eq id _ found] at own
  exact coherent.scanner (Option.bind_eq_some_iff.mpr ⟨_, own, rfl⟩)

/-- A style that is asked for is what the theme says now. -/
theorem Coherent.styleOf (coherent : tokenizer.Coherent) (scope : String) :
    (tokenizer.styleOf scope).1 = tokenizer.styler.styleOf scope ∧
      (tokenizer.styleOf scope).2.Coherent ∧
      tokenizer.SameRules (tokenizer.styleOf scope).2 := by
  simp only [Tokenizer.styleOf]
  cases known : tokenizer.styles.lookup scope with
  | some style => exact ⟨coherent.styles scope style known, coherent, .refl _⟩
  | none =>
    have same : tokenizer.SameRules
        { tokenizer with
          styles := (scope, tokenizer.styler.styleOf scope) :: tokenizer.styles } :=
      ⟨rfl, rfl, rfl, rfl⟩
    refine ⟨rfl, same.coherent coherent coherent.scanners fun other style known => ?_, same⟩
    rw [List.lookup_cons] at known
    split at known
    · next is =>
      obtain rfl := beq_iff_eq.mp is
      exact (Option.some.inj known).symm
    · exact coherent.styles other style known

/-- So scopes are entered as they are with the theme alone. -/
theorem Coherent.enter_eq (coherent : tokenizer.Coherent) (path : ScopePath) (scope : String) :
    (tokenizer.enter path scope).1 = path.enter tokenizer.styler scope := by
  simp only [Tokenizer.enter, ScopePath.enter]
  rw [(coherent.styleOf scope).1]

theorem Coherent.enterEach (coherent : tokenizer.Coherent) (path : ScopePath)
    (scopes : List String) :
    (tokenizer.enterEach path scopes).1 = path.enterEach tokenizer.styler scopes ∧
      (tokenizer.enterEach path scopes).2.Coherent ∧
      tokenizer.SameRules (tokenizer.enterEach path scopes).2 := by
  induction scopes generalizing tokenizer path with
  | nil => exact ⟨rfl, coherent, .refl _⟩
  | cons scope scopes ih =>
    obtain ⟨-, coherent', same⟩ := coherent.styleOf scope
    obtain ⟨entered, after, same'⟩ := ih coherent' (tokenizer.enter path scope).1
    refine ⟨entered.trans ?_, after, same.trans same'⟩
    rw [same.styler, coherent.enter_eq]
    rfl

theorem Coherent.enterAll (coherent : tokenizer.Coherent) (path : ScopePath)
    (scopes : Option String) :
    (tokenizer.enterAll path scopes).1 = path.enterAll tokenizer.styler scopes ∧
      (tokenizer.enterAll path scopes).2.1.Coherent ∧
      tokenizer.SameRules (tokenizer.enterAll path scopes).2.1 := by
  cases scopes with
  | none => exact ⟨rfl, coherent, .refl _⟩
  | some text => exact coherent.enterEach path _

/-- The nesting at the start of a text lies in the scopes of the grammar. -/
theorem Coherent.initial_eq (coherent : tokenizer.Coherent) :
    tokenizer.initial = .root
      { rule := tokenizer.root
        nameScopes := tokenizer.styler.rootPath tokenizer.scopeName
        contentScopes := tokenizer.styler.rootPath tokenizer.scopeName } := by
  simp only [initial, Styler.rootPath]
  rw [(coherent.styleOf _).1]

/-- The rules that a scanner looks for are rules of the table. -/
theorem le_of_mem_patternsOf {table : RuleTable} {rule : Rule} {filled : Option String}
    {anchors : Anchors} {ref : RuleId} {text : String}
    (mem : (Target.rule ref, text) ∈ patternsOf table rule filled anchors) : ref ≤ table.size := by
  have inner (mem : (Target.rule ref, text) ∈ innerPatterns table rule anchors) :
      ref ≤ table.size := by
    obtain ⟨entry, inside, is⟩ := List.mem_map.mp mem
    obtain ⟨⟨⟩, -⟩ := Prod.mk.inj is
    exact RuleTable.le_of_mem_candidates inside
  simp only [patternsOf] at mem
  split at mem
  · split at mem
    · rcases List.mem_append.mp mem with mem | mem
      · exact inner mem
      · cases (Prod.mk.inj (List.mem_singleton.mp mem)).1
    · rcases List.mem_cons.mp mem with is | mem
      · cases (Prod.mk.inj is).1
      · exact inner mem
  · exact inner mem

/-- Collecting the injections adds rules, and changes nothing else. -/
theorem Coherent.collected (coherent : tokenizer.Coherent) (library : Library) :
    (tokenizer.collected library).2.1.Coherent ∧
      tokenizer.compilation.Grows (tokenizer.collected library).2.1.compilation ∧
      (tokenizer.collected library).2.1.injections = some (tokenizer.collected library).1 := by
  simp only [Tokenizer.collected]
  cases kept : tokenizer.injections with
  | some injections => exact ⟨coherent, .refl _, kept⟩
  | none =>
    obtain ⟨closed, grows, known⟩ := Collection.from_ofCompilation coherent.closed library
    refine ⟨⟨closed, ?_, ?_, ?_, coherent.styles⟩, grows, rfl⟩
    · obtain ⟨rule, found, container⟩ := coherent.root
      have le := RuleTable.le_size_of_rule? found
      exact ⟨rule, (grows.table.kept _ le).trans found, container⟩
    · rintro _ ⟨⟩ injection mem
      exact known injection ((List.mergeSort_perm _ _).mem_iff.mp mem)
    · intro key filled scanner known
      obtain ⟨patterns, made, built⟩ := coherent.scanners key filled scanner known
      exact ⟨patterns, patternsFor?_eq grows.table coherent.closed.table made, built⟩

end Tokenizer

end ScopeTokenizer
