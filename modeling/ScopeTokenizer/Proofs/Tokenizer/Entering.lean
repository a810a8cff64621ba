import ScopeTokenizer.Proofs.Pattern.Literal
import ScopeTokenizer.Proofs.Tokenizer.Moments

/-!
# Scopes that are entered

What text in a scope looks like depends on all scopes around it. Still a path says no more than the
names in it: while the theme stays the same, two paths that were entered from the same one are equal
if their names are, whatever was entered together, and whatever the tokenizer kept by then. So they
may be compared from the innermost scope outwards, without going on where both are the same one.
-/

namespace ScopeTokenizer

open Style Text Pattern

namespace ScopePath

/-! ## Comparison from the inside -/

/-- Compares two paths from the innermost scopes outwards, by their names and their metadata, up to
where both go on as the same one. -/
def agrees (shared : ScopePath → ScopePath → Bool) : ScopePath → ScopePath → Bool
  | .root name metadata, .root name' metadata' =>
    shared (.root name metadata) (.root name' metadata') || (name == name' && metadata == metadata')
  | .push outer name metadata, .push outer' name' metadata' =>
    shared (.push outer name metadata) (.push outer' name' metadata') ||
      (name == name' && metadata == metadata' && agrees shared outer outer')
  | first, second => shared first second

/-- If only equal paths are shared, this is equality. -/
theorem agrees_iff {shared : ScopePath → ScopePath → Bool}
    (sound : ∀ first second, shared first second = true → first = second)
    (first second : ScopePath) : first.agrees shared second = true ↔ first = second := by
  have either {first second : ScopePath} {alike : Bool}
      (exact : alike = true ↔ first = second) :
      (shared first second || alike) = true ↔ first = second := by
    rw [Bool.or_eq_true, exact]
    exact or_iff_right_of_imp (sound first second)
  induction first generalizing second with
  | root name metadata =>
    cases second with
    | root name' metadata' =>
      rw [agrees]
      exact either (by simp)
    | push => exact ⟨sound _ _, nofun⟩
  | push outer name metadata ih =>
    cases second with
    | root => exact ⟨sound _ _, nofun⟩
    | push outer' name' metadata' =>
      rw [agrees]
      refine either ?_
      simp only [Bool.and_eq_true, beq_iff_eq, ih, push.injEq]
      exact and_comm

/-! ## Paths under one theme -/

variable {styler : Styler}

theorem names_enterEach (path : ScopePath) (styler : Styler) (scopes : List String) :
    (path.enterEach styler scopes).names = path.names ++ scopes := by
  induction scopes generalizing path with
  | nil => exact (List.append_nil _).symm
  | cons scope scopes ih =>
    refine (ih (path.enter styler scope)).trans ?_
    rw [names_enter, List.append_assoc, List.singleton_append]

theorem enterEach_append (path : ScopePath) (styler : Styler) (front back : List String) :
    path.enterEach styler (front ++ back) = (path.enterEach styler front).enterEach styler back :=
  List.foldl_append

/-- Paths that tokenizers enter from a path, each at any moment at which its languages and its theme
are the given ones. -/
inductive Entered (engine : Engine) (styler : Styler) (root : ScopePath) : ScopePath → Prop where
  | root : Entered engine styler root root
  | enter {path : ScopePath} {tokenizer : Tokenizer engine} (scopes : Option String) :
      Entered engine styler root path → Moment tokenizer → tokenizer.styler = styler →
      Entered engine styler root (tokenizer.enterAll path scopes).1

variable {engine : Engine} {root path first second : ScopePath}

theorem Entered.exists_scopes (entered : Entered engine styler root path) :
    ∃ scopes, path = root.enterEach styler scopes := by
  induction entered with
  | root => exact ⟨[], rfl⟩
  | enter scopes _ moment present ih =>
    obtain ⟨before, rfl⟩ := ih
    rw [(moment.coherent.enterAll _ scopes).1, present]
    cases scopes with
    | none => exact ⟨before, rfl⟩
    | some text => exact ⟨before ++ scopesOf text, (enterEach_append root styler _ _).symm⟩

/-- The names of the scopes lead to the path again. -/
theorem Entered.eq_iff (one : Entered engine styler root first)
    (other : Entered engine styler root second) : first = second ↔ first.names = second.names := by
  refine ⟨congrArg names, fun same => ?_⟩
  obtain ⟨scopes, rfl⟩ := one.exists_scopes
  obtain ⟨others, rfl⟩ := other.exists_scopes
  rw [names_enterEach, names_enterEach] at same
  rw [List.append_cancel_left same]

/-! ## Scopes of a text -/

theorem scopesOf_append {blank : Char} (is : Unicode.isBlank blank = true) (front back : String) :
    scopesOf (front ++ String.singleton blank ++ back) = scopesOf front ++ scopesOf back := by
  have text : (front ++ String.singleton blank ++ back).toList =
      front.toList ++ blank :: back.toList := by
    simp
  rw [scopesOf, text, words_append is, List.map_append, scopesOf, scopesOf]

theorem scopesOf_of_blank {text : String} (all : ∀ c ∈ text.toList, Unicode.isBlank c = true) :
    scopesOf text = [] := by
  rw [scopesOf, words_of_separators all, List.map_nil]

theorem scopesOf_of_filled {text : String} (none : ∀ c ∈ text.toList, Unicode.isBlank c = false)
    (filled : text ≠ "") : scopesOf text = [text] := by
  have nonempty : text.toList ≠ [] := mt String.toList_eq_nil_iff.mp filled
  rw [scopesOf, words_of_uncut none nonempty, List.map_singleton, String.ofList_toList]

/-- Under one theme a path is determined by the names in it: of paths that were entered from the same
one, by any texts one after the other, those are equal that have equal names. A comparison from the
innermost scope outwards finds the same, wherever it stops at a path that both share. A text adds its
blank-separated scopes in their order. So two texts may be entered as one, with a blank between
them, and without a text, or with one of nothing but blanks, the path stays as it is. -/
theorem names_determine_paths (engine : Engine) (styler : Styler) (root : ScopePath) :
    (∀ first second, Entered engine styler root first → Entered engine styler root second →
      (first = second ↔ first.names = second.names) ∧
      ∀ shared : ScopePath → ScopePath → Bool,
        (∀ one other, shared one other = true → one = other) →
          (first.agrees shared second = true ↔ first.names = second.names)) ∧
    ∀ (tokenizer : Tokenizer engine) (path : ScopePath), Moment tokenizer →
      (∀ text, (tokenizer.enterAll path (some text)).1.names = path.names ++ scopesOf text) ∧
      (∀ text, text ≠ "" → (∀ c ∈ text.toList, Unicode.isBlank c = false) →
        (tokenizer.enterAll path (some text)).1 = path.enter tokenizer.styler text) ∧
      (∀ front blank back, Unicode.isBlank blank = true →
        let entered := tokenizer.enterAll path (some front)
        (entered.2.1.enterAll entered.1 (some back)).1 =
          (tokenizer.enterAll path (some (front ++ String.singleton blank ++ back))).1) ∧
      (tokenizer.enterAll path none).1 = path ∧
      ∀ text, (∀ c ∈ text.toList, Unicode.isBlank c = true) →
        (tokenizer.enterAll path (some text)).1 = path := by
  refine ⟨fun first second one other => ⟨one.eq_iff other, fun shared sound => ?_⟩,
    fun tokenizer path moment => ?_⟩
  · rw [agrees_iff sound, one.eq_iff other]
  · have entered_eq (scopes : Option String) := (moment.coherent.enterAll path scopes).1
    refine ⟨fun text => tokenizer.names_enterAll path (some text), fun text filled none => ?_,
      fun front blank back is => ?_, rfl, fun text all => ?_⟩
    · rw [entered_eq, enterAll, scopesOf_of_filled none filled]
      rfl
    · obtain ⟨-, coherent, same⟩ := moment.coherent.enterAll path (some front)
      dsimp only
      rw [(coherent.enterAll _ (some back)).1, same.styler, entered_eq, entered_eq, enterAll, enterAll,
        enterAll, scopesOf_append is, enterEach_append]
    · rw [entered_eq, enterAll, scopesOf_of_blank all]
      rfl

theorem names_determine_paths_bracketed :
    ∃ tokenizer, Tokenizer.ofTexts Grammar.bracketed = .ok tokenizer ∧
      ∀ root, ∃ once twice,
        once = (tokenizer.enterAll root (some "comment inside")).1 ∧
        twice = (tokenizer.enterAll (tokenizer.enterAll root (some "comment")).1 (some "inside")).1 ∧
        Entered .literal tokenizer.styler root once ∧ Entered .literal tokenizer.styler root twice ∧
        once = twice := by
  obtain ⟨tokenizer, -, compiled, -⟩ :=
    Tokenizer.exists_ofTexts Grammar.bracketed (fun _ => some ()) (by decide +kernel)
  have moment : Moment tokenizer := .compiled compiled
  refine ⟨tokenizer, compiled, fun root => ⟨_, _, rfl, rfl, .enter _ .root moment rfl,
    .enter _ (.enter _ .root moment rfl) moment rfl, ?_⟩⟩
  refine ((names_determine_paths .literal tokenizer.styler root).1 _ _
    (.enter _ .root moment rfl) (.enter _ (.enter _ .root moment rfl) moment rfl)).1.mpr ?_
  have words : scopesOf "comment inside" = scopesOf "comment" ++ scopesOf "inside" := by
    decide +kernel
  simp only [Tokenizer.names_enterAll, Option.map_some, Option.getD_some, words, List.append_assoc]

end ScopePath

end ScopeTokenizer
