import ScopeTokenizer.Proofs.Reading.Following

/-!
# Readings that give an answer

A reading has no answer if its steps do not suffice. The rules here are for showing that a reading
does give one. Only the tokenizer is kept account of, since whether there is an answer depends on
neither the tokens nor the warnings so far.
-/

namespace ScopeTokenizer.Reading

open Grammar Pattern Style

variable {engine : Engine} {α β : Type}

/-- With a tokenizer of which `before` holds, the reading gives an answer, and then `after` holds
of the answer and of the tokenizer. -/
def Ensures (library : Library) (before : Tokenizer engine → Prop) (reading : Reading engine α)
    (after : α → Tokenizer engine → Prop) : Prop :=
  ∀ p, before p.tokenizer →
    ∃ a q, reading library p = some (a, q) ∧ after a q.tokenizer

namespace Ensures

variable {library : Library} {before : Tokenizer engine → Prop} {reading : Reading engine α}
  {after : α → Tokenizer engine → Prop}

theorem bind {next : α → Reading engine β} {last : β → Tokenizer engine → Prop}
    (start : Ensures library before reading after)
    (rest : ∀ a, Ensures library (after a) (next a) last) :
    Ensures library before (reading >>= next) last := by
  intro p given
  obtain ⟨a, q, run, between⟩ := start p given
  obtain ⟨b, r, run', final⟩ := rest a q between
  exact ⟨b, r, by rw [run_bind, run]; exact run', final⟩

theorem pure {a : α} (given : ∀ tokenizer, before tokenizer → after a tokenizer) :
    Ensures library before (Pure.pure a : Reading engine α) after := by
  intro p held
  exact ⟨a, p, rfl, given p.tokenizer held⟩

theorem weaken {before' : Tokenizer engine → Prop} {after' : α → Tokenizer engine → Prop}
    (ensures : Ensures library before reading after)
    (given : ∀ tokenizer, before' tokenizer → before tokenizer)
    (wanted : ∀ a tokenizer, after a tokenizer → after' a tokenizer) :
    Ensures library before' reading after' := by
  intro p held
  obtain ⟨a, q, run, between⟩ := ensures p (given _ held)
  exact ⟨a, q, run, wanted a _ between⟩

/-- What is ensured holds of any answer. -/
theorem of_run (ensures : Ensures library before reading after) {p q : Progress engine} {a : α}
    (given : before p.tokenizer) (run : reading library p = some (a, q)) :
    after a q.tokenizer := by
  obtain ⟨b, r, other, final⟩ := ensures p given
  rw [run, Option.some.injEq, Prod.mk.injEq] at other
  obtain ⟨rfl, rfl⟩ := other
  exact final

/-- A fact that does not depend on the tokenizer may be taken out of what is given. -/
theorem of_and {fact : Prop} (ensures : fact → Ensures library before reading after) :
    Ensures library (fun tokenizer => fact ∧ before tokenizer) reading after := by
  intro p held
  exact ensures held.1 p held.2

/-- So may a fact that is not needed. -/
theorem of_right {fact : Tokenizer engine → Prop} (ensures : Ensures library before reading after) :
    Ensures library (fun tokenizer => fact tokenizer ∧ before tokenizer) reading after := by
  intro p held
  exact ensures p held.2

/-! ## Operations -/

theorem rule? (id : RuleId) :
    Ensures library before (Reading.rule? id)
      (fun rule tokenizer => rule = tokenizer.rule? id ∧ before tokenizer) := by
  intro p held
  exact ⟨_, p, rfl, rfl, held⟩

theorem read :
    Ensures library before (MonadReader.read : Reading engine Library)
      (fun given tokenizer => given = library ∧ before tokenizer) := by
  intro p held
  exact ⟨library, p, rfl, rfl, held⟩

theorem warn (warning : Warning) :
    Ensures library before (Reading.warn warning) (fun _ => before) := by
  intro p held
  exact ⟨(), _, rfl, held⟩

theorem cut (scopes : ScopePath) (stop : Nat) :
    Ensures library before (Reading.cut scopes stop) (fun _ => before) := by
  intro p held
  exact ⟨(), _, rfl, held⟩

theorem use {ask : Tokenizer engine → α × Tokenizer engine × List Warning}
    (given : ∀ tokenizer, before tokenizer → after (ask tokenizer).1 (ask tokenizer).2.1) :
    Ensures library before (Reading.use ask) after := by
  intro p held
  exact ⟨_, _, rfl, given p.tokenizer held⟩

theorem enter {path : ScopePath} {scopes : Option String}
    (given : ∀ tokenizer, before tokenizer → before (tokenizer.enterAll path scopes).2.1) :
    Ensures library before (Reading.enter path scopes : Reading engine _) (fun _ => before) :=
  use given

/-! ## Captures -/

theorem closeUpTo (position : Nat) (captures : List OpenCapture) :
    Ensures library before (Reading.closeUpTo position captures) (fun _ => before) := by
  induction captures with
  | nil => exact pure fun _ held => held
  | cons first others ih =>
    unfold Reading.closeUpTo
    split
    · exact bind (cut _ _) fun _ => ih
    · exact pure fun _ held => held

theorem closeAll (captures : List OpenCapture) :
    Ensures library before (Reading.closeAll captures) (fun _ => before) := by
  unfold Reading.closeAll
  induction captures with
  | nil => exact pure fun _ held => held
  | cons first others ih =>
    rw [List.forM_eq_forM, List.forM_cons]
    exact bind (cut _ _) fun _ => ih

end Ensures

end ScopeTokenizer.Reading
