import ScopeTokenizer.Proofs.Grammar.Compiling

/-!
# The depth of nested rules

Rules are compiled inside one another up to some depth, and going deeper is an error. This depth is
no more than a limit: what is compiled without that error is compiled in the same way under every
greater limit.
-/

namespace ScopeTokenizer.Grammar

open Compilation Pattern

namespace Compile

variable {α β : Type} {library : Library}

/-- Wherever the first way of compiling does not go too deep, the second one does the same. -/
def Below (library : Library) (first second : Compile α) : Prop :=
  ∀ compilation : Compilation, (compilation.run library first).1 = .error .endless ∨
    compilation.run library second = compilation.run library first

namespace Below

theorem refl (compile : Compile α) : Below library compile compile := fun _ => .inr rfl

theorem trans {first second third : Compile α} (early : Below library first second)
    (late : Below library second third) : Below library first third := by
  intro compilation
  rcases early compilation with endless | same
  · exact .inl endless
  · rcases late compilation with endless | same'
    · exact .inl (same ▸ endless)
    · exact .inr (same'.trans same)

theorem bind {first second : Compile α} {next later : α → Compile β}
    (start : Below library first second) (rest : ∀ a, Below library (next a) (later a)) :
    Below library (first >>= next) (second >>= later) := by
  intro compilation
  rw [run_bind, run_bind]
  rcases start compilation with endless | same
  · left
    split
    · next a after run =>
      rw [run] at endless
      cases endless
    · next error after run =>
      rw [run] at endless
      exact congrArg Except.error (Except.error.inj endless)
  · rw [same]
    split
    · next a after _ => exact rest a after
    · exact .inr rfl

theorem register {make making : RuleId → Compile Rule} (makes : ∀ id, Below library (make id) (making id)) :
    Below library (register make) (register making) := by
  unfold Compile.register
  exact (refl _).bind fun _ => (refl _).bind fun _ => (makes _).bind fun _ => refl _

theorem registerAt (site : Site) {make making : RuleId → Compile Rule}
    (makes : ∀ id, Below library (make id) (making id)) :
    Below library (registerAt site make) (registerAt site making) := by
  unfold Compile.registerAt
  refine (refl _).bind fun known => ?_
  cases known with
  | some id => exact refl _
  | none => exact register fun id => (refl _).bind fun _ => makes id

theorem filterMapM {γ : Type} {f g : α → Compile (Option γ)}
    (each : ∀ a, Below library (f a) (g a)) (list : List α) :
    Below library (list.filterMapM f) (list.filterMapM g) := by
  induction list with
  | nil => exact refl _
  | cons a list ih =>
    rw [List.filterMapM_cons, List.filterMapM_cons]
    refine (each a).bind fun answer => ?_
    cases answer with
    | none => exact ih
    | some c => exact ih.bind fun _ => refl _

theorem foldlM {f g : β → α → Compile β} (each : ∀ b a, Below library (f b a) (g b a))
    (list : List α) (b : β) : Below library (list.foldlM f b) (list.foldlM g b) := by
  induction list generalizing b with
  | nil => exact refl _
  | cons a list ih =>
    rw [List.foldlM_cons, List.foldlM_cons]
    exact (each b a).bind ih

end Below

/-! ## Parts of rules -/

section Rules

variable {compile compiling : Surroundings → Node → Compile RuleId}
  (below : ∀ around node, Below library (compile around node) (compiling around node))
  (around : Surroundings)

include below

theorem below_matching (pattern : String) (entries : List (String × Node)) :
    Below library (matching compile around pattern entries)
      (matching compiling around pattern entries) := by
  have capture (node : Node) :
      Below library (capture compile around node) (capture compiling around node) := by
    unfold Compile.capture
    split
    · rw [map_eq_pure_bind, map_eq_pure_bind]
      exact ((below around node).bind fun _ => .refl _).bind fun _ => .refl _
    · exact .refl _
  unfold matching captures
  refine .bind (.bind (.refl _) fun numbered => ?_) fun _ => .refl _
  exact .foldlM (fun _ (_, node) => (capture node).bind fun _ => .refl _) _ _

theorem below_resolve (text : String) :
    Below library (resolve compile around text) (resolve compiling around text) := by
  have entry (surroundings : Surroundings) (name : String) :
      Below library (entry compile around text surroundings name)
        (entry compiling around text surroundings name) := by
    unfold Compile.entry
    split
    · exact below _ _
    · exact .refl _
  have entryOf (scope name : String) :
      Below library (entryOf compile around text scope name)
        (entryOf compiling around text scope name) := by
    unfold Compile.entryOf
    refine .bind (.refl _) fun answer => ?_
    cases answer with
    | none => exact .refl _
    | some grammar => exact entry _ _
  unfold resolve
  split
  · exact entry _ _
  · exact entry _ _
  · exact entry _ _
  · exact entryOf _ _
  · exact entryOf _ _

theorem below_inner (nodes : List Node) :
    Below library (inner compile around nodes) (inner compiling around nodes) := by
  unfold inner
  refine .bind (.filterMapM (fun node => ?_) nodes) fun _ => .refl _
  split
  · exact (below_resolve below around _).bind fun _ => .refl _
  · exact (below _ _).bind fun _ => .refl _

theorem below_kind (node : Node) :
    Below library (kind compile around node) (kind compiling around node) := by
  have containerInner : Below library (containerInner compile around node)
      (containerInner compiling around node) := by
    unfold Compile.containerInner
    dsimp only
    split
    · split
      · exact below_inner below _ _
      · exact below_inner below _ _
    · exact below_inner below _ _
  unfold kind
  dsimp only
  split
  · exact (below_matching below around _ _).bind fun _ => .refl _
  · exact containerInner.bind fun _ => .refl _
  · refine (below_matching below around _ _).bind fun _ => ?_
    split
    · exact (below_matching below around _ _).bind fun _ =>
        (below_inner below around _).bind fun _ => .refl _
    · exact (below_matching below around _ _).bind fun _ =>
        (below_inner below around _).bind fun _ => .refl _

end Rules

/-! ## Rules -/

theorem below_rule_succ (depth : Nat) (around : Surroundings) (node : Node) :
    Below library (rule depth around node) (rule (depth + 1) around node) := by
  induction depth generalizing around node with
  | zero =>
    intro compilation
    unfold rule registerAt Compile.number?
    simp only [run_bind, run_get, run_pure]
    cases compilation.numbers.lookup node.site with
    | some id => exact .inr rfl
    | none => exact .inl rfl
  | succ depth ih =>
    rw [rule, rule]
    exact .registerAt node.site fun id => (below_kind ih around node).bind fun _ => .refl _

/-- A greater depth changes nothing, but that there is less to go too deep. -/
theorem below_rule {depth deeper : Nat} (le : depth ≤ deeper) (around : Surroundings) (node : Node) :
    Below library (rule depth around node) (rule deeper around node) := by
  induction le with
  | refl => exact .refl _
  | step _ ih => exact ih.trans (below_rule_succ _ around node)

theorem below_root {depth deeper : Nat} (le : depth ≤ deeper) :
    Below library (root depth) (root deeper) := by
  unfold root
  refine .bind (.refl _) fun state => ?_
  dsimp only
  split
  · exact below_rule le _ _
  · exact .refl _

end Compile

end ScopeTokenizer.Grammar
