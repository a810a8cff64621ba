import ScopeTokenizer.Tokenizer.Reading

/-!
# Readings that follow one another

Many properties of reading compare two runs: from equal nestings, with other caches, for the
other kind of tokens, or with more steps. A reading follows another one if it gives an answer
whenever the other one does, and keeps both related. The rules here take two readings apart
at their binds.
-/

namespace ScopeTokenizer.Reading

open Grammar Pattern Style

variable {engine : Engine} {α β γ δ : Type}

/-- A relation between what two readings have come to. -/
abbrev Between (engine : Engine) := Progress engine → Progress engine → Prop

/-- From progress related by `before`, whenever the first reading gives an answer, the second
one does, and `after` relates the answers and the progress. -/
def Follows (library : Library) (before : Between engine) (first : Reading engine α)
    (second : Reading engine β) (after : α → β → Between engine) : Prop :=
  ∀ p q, before p q → ∀ a p', first library p = some (a, p') →
    ∃ b q', second library q = some (b, q') ∧ after a b p' q'

theorem run_bind (first : Reading engine α) (next : α → Reading engine β) (library : Library)
    (p : Progress engine) :
    (first >>= next) library p = (first library p).bind fun r => next r.1 library r.2 := rfl

/-- A bind gives an answer only through an answer of its first part. -/
theorem run_bind_eq_some {first : Reading engine α} {next : α → Reading engine β}
    {library : Library} {p p' : Progress engine} {b : β} :
    (first >>= next) library p = some (b, p') ↔
      ∃ a m, first library p = some (a, m) ∧ next a library m = some (b, p') := by
  rw [run_bind, Option.bind_eq_some_iff]
  constructor
  · rintro ⟨⟨a, m⟩, run, rest⟩
    exact ⟨a, m, run, rest⟩
  · rintro ⟨a, m, run, rest⟩
    exact ⟨(a, m), run, rest⟩

namespace Follows

variable {library : Library} {before : Between engine} {first : Reading engine α}
  {second : Reading engine β} {after : α → β → Between engine}

theorem bind {next : α → Reading engine γ} {other : β → Reading engine δ}
    {last : γ → δ → Between engine} (start : Follows library before first second after)
    (rest : ∀ a b, Follows library (after a b) (next a) (other b) last) :
    Follows library before (first >>= next) (second >>= other) last := by
  intro p q related c p'' run
  obtain ⟨a, p', run₁, run₂⟩ := run_bind_eq_some.mp run
  obtain ⟨b, q', run₃, between⟩ := start p q related a p' run₁
  obtain ⟨d, q'', run₄, final⟩ := rest a b p' q' between c p'' run₂
  exact ⟨d, q'', run_bind_eq_some.mpr ⟨b, q', run₃, run₄⟩, final⟩

theorem pure {a : α} {b : β} (given : ∀ p q, before p q → after a b p q) :
    Follows library before (Pure.pure a : Reading engine α) (Pure.pure b) after := by
  intro p q related a' p' run
  cases run
  exact ⟨b, q, rfl, given p q related⟩

/-- The first reading may fail where the second one does not. -/
theorem failure : Follows library before (failure : Reading engine α) second after := by
  intro p q related a p' run
  cases run

theorem weaken {before' : Between engine} {after' : α → β → Between engine}
    (follows : Follows library before first second after)
    (given : ∀ p q, before' p q → before p q)
    (wanted : ∀ a b p q, after a b p q → after' a b p q) :
    Follows library before' first second after' := by
  intro p q related a p' run
  obtain ⟨b, q', run', between⟩ := follows p q (given p q related) a p' run
  exact ⟨b, q', run', wanted a b p' q' between⟩

theorem post {after' : α → β → Between engine}
    (follows : Follows library before first second after)
    (wanted : ∀ a b p q, after a b p q → after' a b p q) :
    Follows library before first second after' :=
  follows.weaken (fun _ _ related => related) wanted

/-- A fact that does not depend on the progress may be taken out of what is given. -/
theorem of_and {fact : Prop} (follows : fact → Follows library before first second after) :
    Follows library (fun p q => fact ∧ before p q) first second after := by
  intro p q related
  exact follows related.1 p q related.2

end Follows

/-- The better one of two matches is one of them. -/
theorem of_better {P : SetMatch Target → Prop} {regular : Option (SetMatch Target)}
    {injected : Option Injected} (left : ∀ found ∈ regular, P found)
    (right : ∀ found ∈ injected, P found.2) {found : SetMatch Target}
    (run : better regular injected = some found) : P found := by
  cases injected with
  | none => exact left found run
  | some candidate =>
    cases regular with
    | none =>
      cases run
      exact right candidate rfl
    | some other =>
      simp only [better] at run
      split at run
      · cases run
        exact right candidate rfl
      · cases run
        exact left found rfl

end ScopeTokenizer.Reading
