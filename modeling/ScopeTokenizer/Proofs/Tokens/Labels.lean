import ScopeTokenizer.Proofs.Tokens.Tiling

/-!
# Tokens with given scopes

While a part of a line is read, the tokens that are added to the ones before lie side by side. If
it is known for each position in which scopes it is to lie, then tokens are added one by one, each
with the scopes of all positions in it.
-/

namespace ScopeTokenizer.LineTokens

variable {label : Nat → List String} {first second third : LineTokens}

/-- The tokens of `second` are those of `first` and more. These lie side by side, and each has the
scopes that `label` gives to the positions in it. -/
structure Labels (label : Nat → List String) (first second : LineTokens) : Prop where
  plain : second.styled = false
  added : ∃ added, second.named.toList = first.named.toList ++ added ∧
    Tiles first.stop second.stop added ∧
    ∀ token ∈ added, ∀ position, token.start ≤ position → position < token.stop →
      token.scopes = label position

namespace Labels

theorem refl (plain : first.styled = false) : Labels label first first :=
  ⟨plain, [], (List.append_nil _).symm, rfl, by simp⟩

theorem trans (before : Labels label first second) (after : Labels label second third) :
    Labels label first third := by
  obtain ⟨added, named, tiles, labels⟩ := before.added
  obtain ⟨more, named', tiles', labels'⟩ := after.added
  refine ⟨after.plain, added ++ more, ?_, Tiles.append_iff.mpr ⟨_, tiles, tiles'⟩, ?_⟩
  · rw [named', named, List.append_assoc]
  · intro token member
    rcases List.mem_append.mp member with member | member
    · exact labels token member
    · exact labels' token member

theorem add (plain : first.styled = false) {path : ScopePath} {stop : Nat}
    (named : ∀ position, first.stop ≤ position → position < stop → path.names = label position) :
    Labels label first (first.add path stop) := by
  refine ⟨(styled_add first path stop).trans plain, ?_⟩
  simp only [LineTokens.add]
  split
  · exact ⟨[], (List.append_nil _).symm, rfl, by simp⟩
  · next further =>
    rw [plain, if_neg Bool.false_ne_true]
    refine ⟨[⟨first.stop, stop, path.names⟩], Array.toList_push, ?_, ?_⟩
    · exact ⟨rfl, Nat.lt_of_not_le further, rfl⟩
    · intro token member
      obtain rfl := List.mem_singleton.mp member
      exact named

end Labels

end ScopeTokenizer.LineTokens
