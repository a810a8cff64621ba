import ScopeTokenizer.Grammar.Compile
import ScopeTokenizer.Proofs.Grammar.Growth

/-!
# Compiling keeps a table closed

Whatever is compiled, and even if it ends in an error, the table of rules only grows, and its
rules refer to one another by numbers that are taken. One rule for each operation of compiling
says so, and what is known of its answer.
-/

namespace ScopeTokenizer.Grammar

open Pattern Scope Text

/-- A compilation whose rules and places have numbers of its table. -/
structure Compilation.Closed (compilation : Compilation) : Prop where
  table : compilation.table.Closed
  numbers : ∀ entry ∈ compilation.numbers, entry.2 ≤ compilation.table.size

/-- What compiling leaves as it was. -/
structure Compilation.Grows (before after : Compilation) : Prop where
  host : after.host = before.host
  table : before.table.Grows after.table

namespace Compilation

variable {α β : Type} {before after last : Compilation}

theorem Grows.refl (compilation : Compilation) : compilation.Grows compilation :=
  ⟨rfl, .refl _⟩

theorem Grows.trans (first : before.Grows after) (second : after.Grows last) :
    before.Grows last :=
  ⟨second.host.trans first.host, first.table.trans second.table⟩

/-! ## Runs -/

variable (compilation : Compilation) (library : Library)

theorem run_pure (a : α) : compilation.run library (pure a) = (.ok a, compilation) := rfl

theorem run_get : compilation.run library get = (.ok compilation, compilation) := rfl

theorem run_read : compilation.run library read = (.ok library, compilation) := rfl

theorem run_modify (change : Compilation → Compilation) :
    compilation.run library (modify change) = (.ok (), change compilation) := rfl

theorem run_bind (first : Compile α) (next : α → Compile β) :
    compilation.run library (first >>= next) =
      match compilation.run library first with
      | (.ok a, after) => after.run library (next a)
      | (.error error, after) => (.error error, after) := by
  simp only [run, ReaderT.run_bind, ExceptT.run_bind, StateT.run_bind]
  obtain ⟨answer, after⟩ := (first.run library).run.run compilation
  cases answer with
  | ok a => rfl
  | error error => rfl

theorem run_register (make : RuleId → Compile Rule) :
    compilation.run library (Compile.register make) =
      match run { compilation with table := compilation.table.reserve.2 } library
          (make (compilation.table.size + 1)) with
      | (.ok rule, after) =>
        (.ok (compilation.table.size + 1), { after with table := after.table.put rule })
      | (.error error, after) => (.error error, after) := by
  unfold Compile.register
  simp only [run_bind, run_get, run_modify, run_pure, RuleTable.reserve_fst]
  generalize run { compilation with table := compilation.table.reserve.2 } library
    (make (compilation.table.size + 1)) = made
  obtain ⟨answer, after⟩ := made
  cases answer with
  | ok rule => rfl
  | error error => rfl

/-- As long as no place has a number, the rule of any place is made. -/
theorem run_registerAt (fresh : compilation.numbers = []) (site : Site)
    (make : RuleId → Compile Rule) :
    compilation.run library (Compile.registerAt site make) =
      compilation.run library (Compile.register fun id => do
        modify fun state => { state with numbers := (site, id) :: state.numbers }
        make id) := by
  unfold Compile.registerAt Compile.number?
  simp only [run_bind, run_get, run_pure, fresh, List.lookup_nil]

end Compilation

namespace Compile

variable {α β : Type} {library : Library} {size : Nat}

/-- From any closed compilation of at least so many rules, compiling leads to one that is
closed again and has grown. The answer, if there is one, satisfies `post`. -/
def Sound (library : Library) (size : Nat) (compile : Compile α)
    (post : α → Compilation → Prop) : Prop :=
  ∀ compilation : Compilation, compilation.Closed → size ≤ compilation.table.size →
    (compilation.run library compile).2.Closed ∧
      compilation.Grows (compilation.run library compile).2 ∧
      ∀ answer, (compilation.run library compile).1 = .ok answer →
        post answer (compilation.run library compile).2

namespace Sound

variable {post : α → Compilation → Prop}

theorem pure {a : α} (given : ∀ compilation, size ≤ compilation.table.size → post a compilation) :
    Sound library size (Pure.pure a) post := by
  intro compilation closed le
  refine ⟨closed, .refl _, ?_⟩
  rintro _ ⟨⟩
  exact given compilation le

theorem throw (error : GrammarError) : Sound library size (throw error : Compile α) post := by
  intro compilation closed _
  exact ⟨closed, .refl _, nofun⟩

theorem bind {first : Compile α} {next : α → Compile β} {last : β → Compilation → Prop}
    (start : Sound library size first post)
    (rest : ∀ a after, size ≤ after.table.size → post a after →
      Sound library after.table.size (next a) last) :
    Sound library size (first >>= next) last := by
  intro compilation closed le
  obtain ⟨closed', grows, answers⟩ := start compilation closed le
  rw [Compilation.run_bind]
  generalize compilation.run library first = run at closed' grows answers
  obtain ⟨answer, after⟩ := run
  cases answer with
  | error error => exact ⟨closed', grows, nofun⟩
  | ok a =>
    have above := Nat.le_trans le grows.table.size_le
    obtain ⟨closed'', grows', answers'⟩ :=
      rest a after above (answers a rfl) after closed' (Nat.le_refl _)
    exact ⟨closed'', grows.trans grows', answers'⟩

/-- Nothing may be known of the first answer. -/
theorem andThen {first : Compile α} {next : α → Compile β} {last : β → Compilation → Prop}
    (start : Sound library size first fun _ _ => True)
    (rest : ∀ a more, size ≤ more → Sound library more (next a) last) :
    Sound library size (first >>= next) last :=
  start.bind fun a after le _ => rest a after.table.size le

theorem weaken {fewer : Nat} {wanted : α → Compilation → Prop} {compile : Compile α}
    (sound : Sound library fewer compile post) (le : fewer ≤ size)
    (post : ∀ a compilation, post a compilation → wanted a compilation) :
    Sound library size compile wanted := by
  intro compilation closed above
  obtain ⟨closed', grows, answers⟩ := sound compilation closed (Nat.le_trans le above)
  exact ⟨closed', grows, fun answer run => post answer _ (answers answer run)⟩

theorem mono {fewer : Nat} {compile : Compile α} (sound : Sound library fewer compile post)
    (le : fewer ≤ size) : Sound library size compile post :=
  sound.weaken le fun _ _ given => given

theorem get : Sound library size get fun a compilation => a = compilation ∧ a.Closed := by
  intro compilation closed _
  refine ⟨closed, .refl _, ?_⟩
  rintro _ ⟨⟩
  exact ⟨rfl, closed⟩

theorem modify {change : Compilation → Compilation}
    (closed : ∀ compilation : Compilation, size ≤ compilation.table.size →
      compilation.Closed → (change compilation).Closed)
    (grows : ∀ compilation : Compilation, compilation.Grows (change compilation)) :
    Sound library size (modify change) fun _ _ => True := by
  intro compilation given le
  exact ⟨closed compilation le given, grows compilation, fun _ _ => trivial⟩

end Sound

/-! ## Numbers -/

/-- A number of a table. -/
def Numbered (id : RuleId) (compilation : Compilation) : Prop := id ≤ compilation.table.size

/-- The answer is a number that is taken, if there is one. -/
def Perhaps (answer : Option RuleId) (compilation : Compilation) : Prop :=
  ∀ id, answer = some id → Numbered id compilation

theorem sound_number? (site : Site) : Sound library size (number? site) Perhaps := by
  apply Sound.bind Sound.get
  rintro state after _ ⟨rfl, closed⟩
  apply Sound.pure
  intro compilation le id found
  obtain ⟨before, behind, numbers, -⟩ := List.lookup_eq_some_iff.mp found
  have mem : (site, id) ∈ state.numbers := by
    rw [numbers]
    exact List.mem_append_right _ List.mem_cons_self
  exact Nat.le_trans (closed.numbers _ mem) le

theorem sound_rule? (id : RuleId) : Sound library size (rule? id) fun _ _ => True :=
  Sound.get.bind fun _ _ _ _ => Sound.pure fun _ _ => trivial

/-- What is made for a number has that number, and refers to numbers that are taken. -/
structure Made (P : Rule → Prop) (id : RuleId) (rule : Rule) (compilation : Compilation) :
    Prop where
  id_eq : rule.id = id
  references : ∀ ref ∈ rule.references, Numbered ref compilation
  property : P rule

/-- A rule of the table. -/
def Kept (P : Rule → Prop) (id : RuleId) (compilation : Compilation) : Prop :=
  Numbered id compilation ∧ ∃ rule, compilation.table.rule? id = some rule ∧ P rule

theorem sound_register {P : Rule → Prop} {make : RuleId → Compile Rule}
    (sound : ∀ id, size < id → Sound library id (make id) (Made P id)) :
    Sound library size (register make) (Kept P) := by
  intro compilation closed le
  have reserved : Compilation.Closed { compilation with table := compilation.table.reserve.2 } := by
    constructor
    · exact closed.table.reserve
    · intro entry mem
      rw [RuleTable.size_reserve]
      exact Nat.le_succ_of_le (closed.numbers entry mem)
  have start : compilation.Grows { compilation with table := compilation.table.reserve.2 } :=
    ⟨rfl, compilation.table.grows_reserve⟩
  obtain ⟨closed', grows, answers⟩ := sound (compilation.table.size + 1) (Nat.lt_succ_of_le le) _
    reserved (Nat.le_of_eq (RuleTable.size_reserve _).symm)
  rw [Compilation.run_register]
  generalize Compilation.run { compilation with table := compilation.table.reserve.2 } library
    (make (compilation.table.size + 1)) = made at closed' grows answers
  obtain ⟨answer, after⟩ := made
  cases answer with
  | error error => exact ⟨closed', start.trans grows, nofun⟩
  | ok rule =>
    obtain ⟨id_eq, references, property⟩ := answers rule rfl
    have taken : rule.id ≤ after.table.size := by
      rw [id_eq]
      exact Nat.le_trans (Nat.le_of_eq (RuleTable.size_reserve _).symm) grows.table.size_le
    have positive : 0 < rule.id := by
      rw [id_eq]
      exact Nat.succ_pos _
    refine ⟨⟨closed'.table.put positive taken references, ?_⟩, ⟨(start.trans grows).host, ?_⟩, ?_⟩
    · intro entry mem
      rw [RuleTable.size_put]
      exact closed'.numbers entry mem
    · refine (start.trans grows).table.put ?_
      rw [id_eq]
      exact Nat.lt_succ_self _
    · rintro _ ⟨⟩
      rw [← id_eq]
      refine ⟨?_, rule, after.table.rule?_put_self positive taken, property⟩
      rw [Numbered, RuleTable.size_put]
      exact taken

/-- A place gets a number together with its rule. -/
theorem sound_registerNew {P : Rule → Prop} (site : Site) {make : RuleId → Compile Rule}
    (sound : ∀ id, size < id → Sound library id (make id) (Made P id)) :
    Sound library size (register fun id => do
      modify fun state => { state with numbers := (site, id) :: state.numbers }
      make id) (Kept P) := by
  refine sound_register fun id above => ?_
  have noted : Sound library id (modify fun state : Compilation =>
      { state with numbers := (site, id) :: state.numbers }) fun _ _ => True := by
    refine Sound.modify (fun compilation le closed => ?_) fun compilation => ⟨rfl, .refl _⟩
    refine ⟨closed.table, fun entry mem => ?_⟩
    rcases List.mem_cons.mp mem with rfl | mem
    · exact le
    · exact closed.numbers entry mem
  exact noted.andThen fun _ more le => (sound id above).mono le

theorem sound_registerAt {P : Rule → Prop} (site : Site) {make : RuleId → Compile Rule}
    (sound : ∀ id, size < id → Sound library id (make id) (Made P id)) :
    Sound library size (registerAt site make) Numbered := by
  apply Sound.bind (sound_number? site)
  intro answer after le known
  cases answer with
  | some id => exact Sound.pure fun compilation above => Nat.le_trans (known id rfl) above
  | none =>
    exact (sound_registerNew site fun id above =>
      sound id (Nat.lt_of_le_of_lt le above)).weaken (Nat.le_refl _) fun _ _ kept => kept.1

/-- Looking up a grammar touches no rules. -/
theorem sound_grammar? (scope : String) (base : Option Node) :
    Sound library size (grammar? scope base) fun _ _ => True := by
  apply Sound.bind Sound.get
  intro state after _ _
  split
  · exact Sound.pure fun _ _ => trivial
  · split
    · exact Sound.pure fun _ _ => trivial
    · have read : Sound library after.table.size read fun _ _ => True :=
        fun compilation closed _ => ⟨closed, .refl _, fun _ _ => trivial⟩
      apply Sound.andThen read
      intro library more _
      split
      · exact Sound.pure fun _ _ => trivial
      · refine Sound.andThen (Sound.modify ?_ ?_) fun _ _ _ => Sound.pure fun _ _ => trivial
        · exact fun compilation _ closed => ⟨closed.table, closed.numbers⟩
        · exact fun compilation => ⟨rfl, .refl _⟩

theorem sound_filterMapM {f : α → Compile (Option RuleId)}
    (each : ∀ a size, Sound library size (f a) Perhaps) (list : List α) :
    Sound library size (list.filterMapM f) fun ids compilation =>
      ∀ id ∈ ids, Numbered id compilation := by
  induction list generalizing size with
  | nil => exact Sound.pure nofun
  | cons a list ih =>
    rw [List.filterMapM_cons]
    apply Sound.bind (each a size)
    intro answer after _ known
    cases answer with
    | none => exact ih
    | some id =>
      refine ih.bind fun ids more le others => Sound.pure fun compilation above ref mem => ?_
      rcases List.mem_cons.mp mem with rfl | mem
      · exact Nat.le_trans (known ref rfl) (Nat.le_trans le above)
      · exact Nat.le_trans (others ref mem) above

/-- What is known of the first value, and stays known while rules are added, is known of the
last one if every step keeps it. -/
theorem sound_foldlM {step : β → α → Compile β} {P : β → Nat → Prop}
    (stays : ∀ b n m, n ≤ m → P b n → P b m)
    (each : ∀ b a size, P b size → Sound library size (step b a) fun c compilation =>
      P c compilation.table.size)
    (list : List α) {b : β} (known : P b size) :
    Sound library size (list.foldlM step b) fun c compilation =>
      P c compilation.table.size := by
  induction list generalizing b size with
  | nil => exact Sound.pure fun compilation le => stays b _ _ le known
  | cons a list ih =>
    rw [List.foldlM_cons]
    exact (each b a size known).bind fun c after _ known => ih known

/-! ## Parts of rules -/

section Rules

variable {compile : Surroundings → Node → Compile RuleId}
  (compiles : ∀ size around node, Sound library size (compile around node) Numbered)
  (around : Surroundings)

theorem sound_numbered (entries : List (String × Node)) :
    Sound library size (numbered around entries) fun _ _ => True := by
  unfold numbered
  induction entries.filter fun entry => isNumber entry.1 generalizing size with
  | nil => exact Sound.pure fun _ _ => trivial
  | cons entry entries ih =>
    have inRange : Sound library size (do
        let group := Source.groupNumber entry.1.toList
        if group ≤ maxGroup then return (group, entry.2)
        else throw (.captureOutOfRange entry.1 around.grammar)) fun _ _ => True := by
      dsimp only
      split
      · exact Sound.pure fun _ _ => trivial
      · exact Sound.throw _
    rw [List.mapM_cons]
    exact inRange.andThen fun _ _ _ => ih.andThen fun _ _ _ => Sound.pure fun _ _ => trivial

include compiles

theorem sound_capture (node : Node) :
    Sound library size (capture compile around node) Numbered := by
  have made (inner : Option RuleId) (size : Nat) (known : ∀ id, inner = some id → id ≤ size) :
      Sound library size (register fun id => return {
        id
        name := node.rule.name.map .ofText
        kind := .capture (node.rule.contentName.map .ofText) inner }) Numbered := by
    have references (after : Compilation) (le : size ≤ after.table.size) :
        ∀ ref ∈ inner.toList, ref ≤ after.table.size := by
      intro ref mem
      have is : inner = some ref := Option.mem_toList.mp mem
      exact Nat.le_trans (known ref is) le
    refine Sound.weaken (sound_register (P := fun _ => True) fun id above => ?_)
      (Nat.le_refl _) fun _ _ kept => kept.1
    apply Sound.pure
    intro after more
    exact ⟨rfl, references after (Nat.le_trans (Nat.le_of_lt above) more), trivial⟩
  unfold capture
  split
  · have inner : Sound library size (some <$> compile around node) Perhaps := by
      rw [map_eq_pure_bind]
      apply Sound.bind (compiles size around node)
      intro id after _ known
      apply Sound.pure
      rintro compilation above _ ⟨⟩
      exact Nat.le_trans known above
    exact inner.bind fun answer after _ known => made answer _ known
  · exact made none size nofun

theorem sound_captures (entries : List (String × Node)) :
    Sound library size (captures compile around entries) fun rules compilation =>
      ∀ ref, some ref ∈ rules → Numbered ref compilation := by
  apply Sound.andThen (sound_numbered around entries)
  intro nodes more _
  refine sound_foldlM (P := fun rules size => ∀ ref, some ref ∈ rules → ref ≤ size)
    (fun rules n m le known ref mem => Nat.le_trans (known ref mem) le)
    (fun rules entry size known => ?_) nodes fun ref mem => ?_
  · apply Sound.bind (sound_capture compiles around entry.2)
    intro id after le named
    apply Sound.pure
    intro compilation above ref mem
    rcases List.mem_or_eq_of_mem_set mem with mem | is
    · exact Nat.le_trans (known ref mem) (Nat.le_trans le above)
    · rw [Option.some.inj is]
      exact Nat.le_trans named above
  · cases (List.mem_replicate.mp mem).2

theorem sound_matching (pattern : String) (entries : List (String × Node)) :
    Sound library size (matching compile around pattern entries) fun made compilation =>
      ∀ ref ∈ made.references, Numbered ref compilation := by
  apply Sound.bind (sound_captures compiles around entries)
  intro rules after _ known
  apply Sound.pure
  intro compilation above ref mem
  rw [Matching.references, List.reduceOption_mem_iff] at mem
  exact Nat.le_trans (known ref mem) above

theorem sound_entry (text : String) (surroundings : Surroundings) (name : String) :
    Sound library size (entry compile around text surroundings name) Numbered := by
  unfold entry
  split
  · exact compiles size _ _
  · exact Sound.throw _

theorem sound_entryOf (text scope name : String) :
    Sound library size (entryOf compile around text scope name) Numbered := by
  apply Sound.andThen (sound_grammar? scope _)
  intro answer more _
  split
  · exact sound_entry compiles around text _ name
  · exact Sound.throw _

theorem sound_resolve (text : String) :
    Sound library size (resolve compile around text) Numbered := by
  unfold resolve
  split
  · exact sound_entry compiles around text _ _
  · exact sound_entry compiles around text _ _
  · exact sound_entry compiles around text _ _
  · exact sound_entryOf compiles around text _ _
  · exact sound_entryOf compiles around text _ _

theorem sound_inner (nodes : List Node) :
    Sound library size (inner compile around nodes) fun made compilation =>
      ∀ ref ∈ made.patterns, Numbered ref compilation := by
  have unlessHollow (id : RuleId) (size : Nat) (known : id ≤ size) : Sound library size (do
      if (← rule? id).any Rule.isHollow then return none else return some id) Perhaps := by
    apply Sound.andThen (sound_rule? id)
    intro rule more le
    split
    · exact Sound.pure nofun
    · apply Sound.pure
      rintro compilation above _ ⟨⟩
      exact Nat.le_trans known (Nat.le_trans le above)
  refine Sound.bind (sound_filterMapM (fun node size => ?_) nodes)
    fun ids after _ known => Sound.pure fun compilation above ref mem =>
      Nat.le_trans (known ref mem) above
  split
  · exact (sound_resolve compiles around _).bind fun id _ _ known => unlessHollow id _ known
  · exact (compiles size around node).bind fun id _ _ known => unlessHollow id _ known

theorem sound_containerInner (node : Node) :
    Sound library size (containerInner compile around node) fun made compilation =>
      ∀ ref ∈ made.patterns, Numbered ref compilation := by
  unfold containerInner
  dsimp only
  split
  · split
    · exact sound_inner compiles _ _
    · exact sound_inner compiles _ _
  · exact sound_inner compiles _ _

/-- After the patterns of a region, only its inside is left to be compiled. -/
theorem sound_opened {opening other : Matching} {make : Inner → RuleKind}
    (references : ∀ inner,
      (make inner).references = opening.references ++ other.references ++ inner.patterns)
    (opened : ∀ ref ∈ opening.references, ref ≤ size)
    (others : ∀ ref ∈ other.references, ref ≤ size) (nodes : List Node) :
    Sound library size (do return make (← inner compile around nodes)) fun made compilation =>
      ∀ ref ∈ made.references, Numbered ref compilation := by
  apply Sound.bind (sound_inner compiles around nodes)
  intro inner after le known
  apply Sound.pure
  intro compilation above ref mem
  rw [references, List.mem_append, List.mem_append] at mem
  rcases mem with (mem | mem) | mem
  · exact Nat.le_trans (opened ref mem) (Nat.le_trans le above)
  · exact Nat.le_trans (others ref mem) (Nat.le_trans le above)
  · exact Nat.le_trans (known ref mem) above

/-- What a rule does is no more than to group others. -/
def IsContainer (kind : RuleKind) : Prop := ∃ contentName inner, kind = .container contentName inner

theorem sound_kind (node : Node) :
    Sound library size (kind compile around node) fun made compilation =>
      (∀ ref ∈ made.references, Numbered ref compilation) ∧
        (node.rule.matchPattern = none → node.rule.beginPattern = none → IsContainer made) := by
  unfold kind
  dsimp only
  split
  · next pattern matched =>
    apply Sound.bind (sound_matching compiles around pattern _)
    intro made after _ known
    apply Sound.pure
    intro compilation above
    constructor
    · intro ref mem
      exact Nat.le_trans (known ref mem) above
    · intro none
      cases none.symm.trans matched
  · apply Sound.bind (sound_containerInner compiles around node)
    intro made after _ known
    apply Sound.pure
    intro compilation above
    constructor
    · intro ref mem
      exact Nat.le_trans (known ref mem) above
    · intro _ _
      exact ⟨_, _, rfl⟩
  · next pattern _ begins =>
    have noContainer (made : RuleKind) :
        node.rule.matchPattern = none → node.rule.beginPattern = none → IsContainer made :=
      fun _ none => absurd (none.symm.trans begins) nofun
    apply Sound.bind (sound_matching compiles around pattern _)
    intro opening before _ opened
    split
    · apply Sound.bind (sound_matching compiles around _ _)
      intro condition after le held
      have still := fun ref mem => Nat.le_trans (opened ref mem) le
      exact (sound_opened compiles around (fun _ => rfl) still held node.patterns).weaken
        (Nat.le_refl _) fun made compilation known => ⟨known, noContainer made⟩
    · apply Sound.bind (sound_matching compiles around _ _)
      intro closing after le closed
      have still := fun ref mem => Nat.le_trans (opened ref mem) le
      exact (sound_opened compiles around (fun _ => rfl) still closed node.patterns).weaken
        (Nat.le_refl _) fun made compilation known => ⟨known, noContainer made⟩

end Rules

/-! ## Rules -/

/-- What is known of a rule that is written without a pattern. -/
def GroupsIf (node : Node) (rule : Rule) : Prop :=
  node.rule.matchPattern = none → node.rule.beginPattern = none → IsContainer rule.kind

theorem sound_made {compile : Surroundings → Node → Compile RuleId}
    (compiles : ∀ size around node, Sound library size (compile around node) Numbered)
    (around : Surroundings) (node : Node) (id : RuleId) :
    Sound library size (do
      return { id, name := node.rule.name.map .ofText, kind := ← kind compile around node })
      (Made (GroupsIf node) id) := by
  apply Sound.bind (sound_kind compiles around node)
  intro kind after _ known
  apply Sound.pure
  intro compilation le
  have references (ref : RuleId) (mem : ref ∈ kind.references) : Numbered ref compilation :=
    Nat.le_trans (known.1 ref mem) le
  exact ⟨rfl, references, known.2⟩

theorem sound_rule (depth : Nat) (size : Nat) (around : Surroundings) (node : Node) :
    Sound library size (rule depth around node) Numbered := by
  induction depth generalizing size around node with
  | zero => exact sound_registerAt (P := fun _ => True) node.site fun id _ => Sound.throw _
  | succ depth ih => exact sound_registerAt node.site fun id _ => sound_made ih around node id

end Compile

namespace Compilation

open Compile

/-- Compiling a rule keeps a compilation closed, and the rules that it has. -/
theorem Closed.compileRule {compilation : Compilation} (closed : compilation.Closed)
    (library : Library) (around : Surroundings) (node : Node) :
    (compilation.compileRule library around node).2.Closed ∧
      compilation.Grows (compilation.compileRule library around node).2 ∧
      ∀ id, (compilation.compileRule library around node).1 = .ok id →
        id ≤ (compilation.compileRule library around node).2.table.size :=
  sound_rule _ 0 around node compilation closed (Nat.zero_le _)

theorem closed_start (grammar : GrammarDef) : (start grammar).Closed := by
  have noRule (id : RuleId) : (start grammar).table.rule? id = none := by
    cases id with
    | zero => rfl
    | succ index => rfl
  refine ⟨⟨fun id rule found => ?_, fun id rule found => ?_⟩, nofun⟩
  · cases (noRule id).symm.trans found
  · cases (noRule id).symm.trans found

/-- The rule that stands for the host grammar groups others. -/
theorem compileRoot_spec {grammar : GrammarDef} {library : Library} {root : RuleId}
    {compilation : Compilation}
    (run : (start grammar).compileRoot library = (.ok root, compilation)) :
    compilation.Closed ∧ compilation.host = .ofDef grammar none ∧
      ∃ rule, compilation.table.rule? root = some rule ∧ IsContainer rule.kind := by
  have reached {make : RuleId → Compile Rule}
      (sound : Sound library 0 (register make) (Kept (GroupsIf (LinkedGrammar.selfNode grammar))))
      (run : (start grammar).run library (register make) = (.ok root, compilation)) :
      compilation.Closed ∧ compilation.host = .ofDef grammar none ∧
        ∃ rule, compilation.table.rule? root = some rule ∧ IsContainer rule.kind := by
    obtain ⟨closed, grows, kept⟩ := sound _ (closed_start grammar) (Nat.zero_le _)
    rw [run] at closed grows kept
    obtain ⟨-, rule, found, groups⟩ := kept root rfl
    exact ⟨closed, grows.host, rule, found, groups rfl rfl⟩
  have compiles : ∀ size around node, Sound library size
      (Compile.rule ((start grammar).extent + library.size) around node) Numbered := sound_rule _
  have host : (start grammar).host.self? = some (LinkedGrammar.selfNode grammar) :=
    LinkedGrammar.self?_ofDef grammar none
  unfold compileRoot Compile.root Compilation.depth at run
  rw [run_bind, run_get] at run
  simp only [host] at run
  rw [Compile.rule, run_registerAt _ _ rfl] at run
  exact reached (sound_registerNew _ fun id _ => sound_made compiles _ _ id) run

end Compilation

end ScopeTokenizer.Grammar
