import ScopeTokenizer.Proofs.Reading.Turning
import ScopeTokenizer.Proofs.Tokenizer.Moments

/-!
# Where the patterns of rules come from

Every pattern that a compiled rule is searched by or waits for was read from a text, also if the
rule was compiled for an injection, and if compiling came to an error later on. So what is known of
a pattern besides its text is what the text says.
-/

namespace ScopeTokenizer

open Grammar Pattern Style

namespace Grammar

variable {α β : Type}

/-- The patterns that a rule is searched by or waits for were read from texts. -/
def Rule.Written (rule : Rule) : Prop :=
  ∀ source, rule.leading? = some source ∨ rule.kind.awaited? = some source →
    ∃ text, source = .ofText text

/-- Whether a written rule begins a region and does not say where that ends. -/
def RuleDef.lacksEnd (rule : RuleDef) : Bool :=
  rule.matchPattern.isNone && rule.beginPattern.isSome && rule.whilePattern.isNone &&
    rule.endPattern.isNone

/-- Whether a region is closed by the pattern that stands for a missing one. -/
def RuleKind.isEndless : RuleKind → Bool
  | .region _ _ closing _ _ => closing.pattern == .ofText Compile.noEnd
  | .single _ | .container _ _ | .lines _ _ _ _ | .capture _ _ => false

/-- All rules of a table were written like that. -/
def RuleTable.Written (table : RuleTable) : Prop :=
  ∀ rule, some rule ∈ table.slots.toList → rule.Written

/-- A table may have become another one by adding rules whose patterns were read from texts. -/
structure RuleTable.Adds (before after : RuleTable) : Prop where
  size_le : before.size ≤ after.size
  written : before.Written → after.Written

namespace RuleTable

variable {table before middle after : RuleTable}

theorem Written.rule? (written : table.Written) {id : RuleId} {rule : Rule}
    (found : table.rule? id = some rule) : rule.Written := by
  cases id with
  | zero => cases found
  | succ index =>
    have slot : table.slots[index]? = some (some rule) := Option.join_eq_some_iff.mp found
    exact written rule (Array.mem_toList_iff.mpr (Array.mem_of_getElem? slot))

namespace Adds

theorem refl (table : RuleTable) : table.Adds table := ⟨Nat.le_refl _, id⟩

theorem trans (first : before.Adds middle) (second : middle.Adds after) : before.Adds after :=
  ⟨Nat.le_trans first.size_le second.size_le, second.written ∘ first.written⟩

theorem reserve (table : RuleTable) : table.Adds table.reserve.2 := by
  refine ⟨by rw [size_reserve]; exact Nat.le_succ _, fun written rule mem => ?_⟩
  rw [RuleTable.reserve, Array.toList_push] at mem
  rcases List.mem_append.mp mem with mem | mem
  · exact written rule mem
  · cases List.mem_singleton.mp mem

theorem put (table : RuleTable) {rule : Rule} (given : rule.Written) :
    table.Adds (table.put rule) := by
  refine ⟨Nat.le_of_eq (size_put _ _).symm, fun written other mem => ?_⟩
  rw [RuleTable.put, Array.toList_setIfInBounds] at mem
  rcases List.mem_or_eq_of_mem_set mem with mem | is
  · exact written other mem
  · cases is
    exact given

end Adds

end RuleTable

/-! ## Compiling -/

namespace Compile

/-- Compiling adds only rules whose patterns were read from texts, also when it ends in an error. If
there is an answer, `post` holds of it. -/
def Writes (compile : Compile α) (post : α → Prop) : Prop :=
  ∀ (library : Library) (before : Compilation),
    before.table.Adds (before.run library compile).2.table ∧
      ∀ a, (before.run library compile).1 = .ok a → post a

namespace Writes

variable {post : α → Prop}

theorem pure {a : α} (given : post a) : Writes (Pure.pure a) post := by
  refine fun library before => ⟨.refl _, ?_⟩
  rintro _ ⟨⟩
  exact given

theorem throw (error : GrammarError) : Writes (throw error : Compile α) post :=
  fun _ _ => ⟨.refl _, nofun⟩

theorem bind {first : Compile α} {next : α → Compile β} {last : β → Prop}
    (start : Writes first post) (rest : ∀ a, post a → Writes (next a) last) :
    Writes (first >>= next) last := by
  intro library before
  obtain ⟨adds, given⟩ := start library before
  rw [Compilation.run_bind]
  generalize before.run library first = run at adds given
  obtain ⟨answer, after⟩ := run
  cases answer with
  | error error => exact ⟨adds, nofun⟩
  | ok a => exact (rest a (given a rfl) library after).imp_left adds.trans

/-- Nothing may be known of the first answer. -/
theorem andThen {first : Compile α} {next : α → Compile β} {last : β → Prop}
    (start : Writes first fun _ => True) (rest : ∀ a, Writes (next a) last) :
    Writes (first >>= next) last :=
  start.bind fun a _ => rest a

theorem get : Writes get fun _ => True := fun _ _ => ⟨.refl _, fun _ _ => trivial⟩

theorem read : Writes read fun _ => True := fun _ _ => ⟨.refl _, fun _ _ => trivial⟩

theorem modify (change : Compilation → Compilation)
    (kept : ∀ compilation, (change compilation).table = compilation.table) :
    Writes (modify change) fun _ => True := by
  refine fun library before => ⟨?_, fun _ _ => trivial⟩
  rw [Compilation.run_modify, kept]
  exact .refl _

theorem number? (site : Site) : Writes (Compile.number? site) fun _ => True :=
  get.andThen fun _ => .pure trivial

theorem rule? (id : RuleId) : Writes (Compile.rule? id) fun _ => True :=
  get.andThen fun _ => .pure trivial

theorem register {make : RuleId → Compile Rule} (writes : ∀ id, Writes (make id) Rule.Written) :
    Writes (Compile.register make) fun _ => True := by
  intro library before
  rw [Compilation.run_register]
  obtain ⟨adds, given⟩ := writes (before.table.size + 1) library
    { before with table := before.table.reserve.2 }
  generalize Compilation.run { before with table := before.table.reserve.2 } library
    (make (before.table.size + 1)) = made at adds given
  obtain ⟨answer, after⟩ := made
  have adds := (RuleTable.Adds.reserve before.table).trans adds
  cases answer with
  | error error => exact ⟨adds, nofun⟩
  | ok rule => exact ⟨adds.trans (.put _ (given rule rfl)), fun _ _ => trivial⟩

theorem registerAt (site : Site) {make : RuleId → Compile Rule}
    (writes : ∀ id, Writes (make id) Rule.Written) :
    Writes (Compile.registerAt site make) fun _ => True := by
  refine (number? site).andThen fun answer => ?_
  cases answer with
  | some id => exact .pure trivial
  | none =>
    refine .register fun id => andThen (modify _ ?_) fun _ => writes id
    exact fun _ => rfl

theorem grammar? (scope : String) (base : Option Node) :
    Writes (Compile.grammar? scope base) fun _ => True := by
  refine get.andThen fun state => ?_
  split
  · exact .pure trivial
  · split
    · exact .pure trivial
    · refine read.andThen fun library => ?_
      split
      · exact .pure trivial
      · exact (modify _ fun _ => rfl).andThen fun _ => .pure trivial

theorem filterMapM {f : α → Compile (Option β)} (writes : ∀ a, Writes (f a) fun _ => True)
    (list : List α) : Writes (list.filterMapM f) fun _ => True := by
  induction list with
  | nil => exact .pure trivial
  | cons a list ih =>
    rw [List.filterMapM_cons]
    refine (writes a).andThen fun answer => ?_
    cases answer with
    | none => exact ih
    | some b => exact ih.andThen fun _ => .pure trivial

theorem foldlM {step : β → α → Compile β} (writes : ∀ b a, Writes (step b a) fun _ => True)
    (list : List α) (b : β) : Writes (list.foldlM step b) fun _ => True := by
  induction list generalizing b with
  | nil => exact .pure trivial
  | cons a list ih =>
    rw [List.foldlM_cons]
    exact (writes b a).andThen ih

theorem numbered (around : Surroundings) (entries : List (String × Node)) :
    Writes (Compile.numbered around entries) fun _ => True := by
  unfold Compile.numbered
  induction entries.filter fun entry => Compile.isNumber entry.1 with
  | nil => exact .pure trivial
  | cons entry entries ih =>
    rw [List.mapM_cons]
    refine andThen ?_ fun _ => ih.andThen fun _ => .pure trivial
    dsimp only
    split
    · exact .pure trivial
    · exact .throw _

/-! ### Rules -/

section Rules

variable {compile : Surroundings → Node → Compile RuleId}
  (compiles : ∀ around node, Writes (compile around node) fun _ => True) (around : Surroundings)

include compiles

/-- The rule of a capture has no patterns. -/
theorem capture (node : Node) : Writes (Compile.capture compile around node) fun _ => True := by
  have made (inner : Option RuleId) : Writes (Compile.register fun id => return {
      id
      name := node.rule.name.map .ofText
      kind := .capture (node.rule.contentName.map .ofText) inner }) fun _ => True :=
    .register fun id => .pure fun source is => by rcases is with is | is <;> cases is
  unfold Compile.capture
  split
  · refine andThen ?_ made
    rw [map_eq_pure_bind]
    exact (compiles around node).andThen fun _ => .pure trivial
  · exact made none

theorem captures (entries : List (String × Node)) :
    Writes (Compile.captures compile around entries) fun _ => True := by
  refine (numbered around entries).andThen fun nodes => foldlM (fun rules entry => ?_) nodes _
  exact (capture compiles around entry.2).andThen fun _ => .pure trivial

theorem matching (pattern : String) (entries : List (String × Node)) :
    Writes (Compile.matching compile around pattern entries)
      fun made => made.pattern = .ofText pattern :=
  (captures compiles around entries).andThen fun _ => .pure rfl

theorem entry (text : String) (surroundings : Surroundings) (name : String) :
    Writes (Compile.entry compile around text surroundings name) fun _ => True := by
  unfold Compile.entry
  split
  · exact compiles _ _
  · exact .throw _

theorem entryOf (text scope name : String) :
    Writes (Compile.entryOf compile around text scope name) fun _ => True := by
  refine (grammar? scope _).andThen fun answer => ?_
  split
  · exact entry compiles around text _ name
  · exact .throw _

theorem resolve (text : String) :
    Writes (Compile.resolve compile around text) fun _ => True := by
  unfold Compile.resolve
  split
  iterate 3 exact entry compiles around text _ _
  iterate 2 exact entryOf compiles around text _ _

theorem inner (nodes : List Node) :
    Writes (Compile.inner compile around nodes) fun _ => True := by
  have unlessHollow (id : RuleId) : Writes (do
      if (← Compile.rule? id).any Rule.isHollow then return none else return some id)
      fun _ => True := by
    refine (rule? id).andThen fun rule => ?_
    split
    · exact .pure trivial
    · exact .pure trivial
  refine (filterMapM (fun node => ?_) nodes).andThen fun _ => .pure trivial
  split
  · exact (resolve compiles around _).andThen unlessHollow
  · exact (compiles around node).andThen unlessHollow

theorem containerInner (node : Node) :
    Writes (Compile.containerInner compile around node) fun _ => True := by
  unfold Compile.containerInner
  dsimp only
  split
  · split
    · exact inner compiles _ _
    · exact inner compiles _ _
  · exact inner compiles _ _

/-- The kind of a rule has the patterns that its node says. A region whose end is missing is
endless. -/
theorem kind (node : Node) : Writes (Compile.kind compile around node) fun kind =>
    (∀ id name, Rule.Written ⟨id, name, kind⟩) ∧
      (node.rule.lacksEnd = true → kind.isEndless = true) := by
  unfold Compile.kind RuleDef.lacksEnd
  dsimp only
  split
  · next pattern matched =>
    refine (matching compiles around _ _).bind fun made is => .pure ⟨?_, by simp [matched]⟩
    rintro id name source (⟨⟨⟩⟩ | ⟨⟨⟩⟩)
    exact ⟨_, is⟩
  · next begins =>
    refine (containerInner compiles around node).andThen fun inner =>
      .pure ⟨?_, by simp [begins]⟩
    rintro id name source (⟨⟨⟩⟩ | ⟨⟨⟩⟩)
  · refine (matching compiles around _ _).bind fun opening is => ?_
    split
    · next condition continues =>
      refine (matching compiles around _ _).bind fun condition is' => ?_
      refine (inner compiles around _).andThen fun inside => .pure ⟨?_, by simp [continues]⟩
      rintro id name source (⟨⟨⟩⟩ | ⟨⟨⟩⟩)
      · exact ⟨_, is⟩
      · exact ⟨_, is'⟩
    · refine (matching compiles around _ _).bind fun closing is' => ?_
      refine (inner compiles around _).andThen fun inside => .pure ⟨?_, fun lacks => ?_⟩
      · rintro id name source (⟨⟨⟩⟩ | ⟨⟨⟩⟩)
        · exact ⟨_, is⟩
        · exact ⟨_, is'⟩
      · have missing : node.rule.endPattern = none := by
          simpa using (Bool.and_eq_true_iff.mp lacks).2
        rw [missing] at is'
        exact beq_iff_eq.mpr is'

end Rules

theorem rule (depth : Nat) (around : Surroundings) (node : Node) :
    Writes (Compile.rule depth around node) fun _ => True := by
  induction depth generalizing around node with
  | zero => exact .registerAt _ fun _ => .throw _
  | succ depth ih =>
    exact .registerAt _ fun id => (kind ih around node).bind fun made given =>
      .pure (given.1 id _)

theorem root (depth : Nat) : Writes (Compile.root depth) fun _ => True := by
  refine get.andThen fun state => ?_
  dsimp only
  split
  · exact rule depth _ _
  · exact .throw _

end Writes

end Compile

namespace Compilation

variable {before after : Compilation} {library : Library} {node : Node}

theorem run_registerAt_of_new (fresh : before.numbers.lookup node.site = none)
    (make : RuleId → Compile Rule) :
    before.run library (Compile.registerAt node.site make) =
      before.run library (Compile.register fun id => do
        modify fun state => { state with numbers := (node.site, id) :: state.numbers }
        make id) := by
  unfold Compile.registerAt Compile.number?
  simp only [run_bind, run_get, run_pure, fresh]

/-- A rule whose end is missing is compiled to an endless one, unless its place had a number
before. -/
theorem exists_endless {depth : Nat} {around : Surroundings} {id : RuleId}
    (lacks : node.rule.lacksEnd = true) (fresh : before.numbers.lookup node.site = none)
    (run : before.run library (Compile.rule depth around node) = (.ok id, after)) :
    ∃ rule, after.table.rule? id = some rule ∧ rule.kind.isEndless = true := by
  have reached {make : RuleId → Compile Rule}
      (writes : ∀ id, Compile.Writes (make id) fun rule =>
        rule.id = id ∧ rule.kind.isEndless = true)
      (run : before.run library (Compile.registerAt node.site make) = (.ok id, after)) :
      ∃ rule, after.table.rule? id = some rule ∧ rule.kind.isEndless = true := by
    rw [run_registerAt_of_new fresh, run_register] at run
    have noted (id : RuleId) : Compile.Writes (do
        modify fun state : Compilation =>
          { state with numbers := (node.site, id) :: state.numbers }
        make id) fun rule => rule.id = id ∧ rule.kind.isEndless = true :=
      .andThen (.modify _ fun _ => rfl) fun _ => writes id
    obtain ⟨adds, given⟩ := noted (before.table.size + 1) library
      { before with table := before.table.reserve.2 }
    generalize Compilation.run { before with table := before.table.reserve.2 } library _ = made
      at run adds given
    obtain ⟨answer, middle⟩ := made
    cases answer with
    | error error => cases run
    | ok rule =>
      obtain ⟨same, endless⟩ := given rule rfl
      cases run
      rw [← same]
      refine ⟨rule, RuleTable.rule?_put_self _ ?_ ?_, endless⟩
      · rw [same]
        exact Nat.succ_pos _
      · rw [same, ← RuleTable.size_reserve]
        exact adds.size_le
  cases depth with
  | zero => exact reached (fun _ => .throw _) run
  | succ depth =>
    exact reached (fun id => (Compile.Writes.kind (.rule depth) around node).bind fun kind given =>
      .pure ⟨rfl, given.2 lacks⟩) run

end Compilation

end Grammar

/-! ## Tokenizers -/

namespace Tokenizer

variable {engine : Engine} {library : Library}

namespace Collection

variable {collection : Collection}

theorem written_add (written : collection.compilation.table.Written) (library : Library)
    (grammar : LinkedGrammar) (selector : String) (node : Node) :
    (collection.add library grammar selector node).compilation.table.Written := by
  have written' := (Compile.Writes.rule (collection.compilation.depth library)
    grammar.surroundings node library collection.compilation).1.written written
  simp only [add]
  split
  · exact written
  · exact written
  · split
    · next error after run => exact (congrArg (·.2.table.Written) run).mp written'
    · next rule after run => exact (congrArg (·.2.table.Written) run).mp written'

theorem written_addInjector (written : collection.compilation.table.Written) (library : Library)
    (injector : String) : (collection.addInjector library injector).compilation.table.Written := by
  have written' := (Compile.Writes.grammar? injector collection.compilation.host.base?
    library collection.compilation).1.written written
  simp only [addInjector]
  split
  · next grammar after run =>
    rw [run] at written'
    split
    · exact written_add written' library _ _ _
    · exact written'
  · next answer after _ run => exact (congrArg (·.2.table.Written) run).mp written'

/-- Collecting injections goes on compiling. -/
theorem written_ofCompilation {compilation : Compilation} (written : compilation.table.Written)
    (library : Library) : (ofCompilation compilation library).compilation.table.Written := by
  simp only [ofCompilation]
  let Written (collection : Collection) := collection.compilation.table.Written
  refine List.foldlRecOn _ _ (motive := Written) ?_
    fun _ written injector _ => written_addInjector written library injector
  exact List.foldlRecOn _ _ (motive := Written) written
    fun _ written entry _ => written_add written library _ _ _

end Collection

variable {tokenizer : Tokenizer engine}

theorem written_collected (written : tokenizer.compilation.table.Written) (library : Library) :
    (tokenizer.collected library).2.1.compilation.table.Written := by
  simp only [collected]
  split
  · exact written
  · exact Collection.written_ofCompilation written library

theorem written_ofGrammar {grammar : GrammarDef} {languages : Languages} {theme : Theme}
    (run : ofGrammar engine grammar library languages theme = .ok tokenizer) :
    tokenizer.compilation.table.Written := by
  have written := (Compile.Writes.root ((Compilation.start grammar).depth library) library
    (Compilation.start grammar)).1.written (by rintro rule ⟨⟩)
  unfold ofGrammar at run
  split at run
  · cases run
  · split at run
    · cases run
    · next root compilation compiled =>
      cases run
      exact (congrArg (·.2.table.Written) compiled).mp written

end Tokenizer

/-- At any moment, the patterns of all rules were read from texts. -/
theorem Moment.written {engine : Engine} {tokenizer : Tokenizer engine}
    (moment : Moment tokenizer) : tokenizer.compilation.table.Written := by
  induction moment with
  | compiled run => exact Tokenizer.written_ofGrammar run
  | restyled theme _ ih => exact ih
  | asked library moment asked ih =>
    rcases (asked.sound moment.coherent).2 with rfl | same
    · exact Tokenizer.written_collected ih library
    · rw [same.compilation]
      exact ih

end ScopeTokenizer
