import ScopeTokenizer.Proofs.Tokens.Tiling

/-!
# Runs of equal metadata

Tokens with metadata alone are the runs of tokens that have the same metadata. They are not
made from the tokens with names, but beside them. A relation that each further token keeps
says that they are what one would make from these.
-/

namespace ScopeTokenizer

open Style

namespace StyledToken

/-- The token that a position lies in: the last one that starts there or before. -/
def at? (tokens : List StyledToken) (position : Nat) : Option StyledToken :=
  (tokens.filter fun token => token.start ≤ position).getLast?

theorem at?_concat (tokens : List StyledToken) (token : StyledToken) (position : Nat) :
    at? (tokens ++ [token]) position =
      if token.start ≤ position then some token else at? tokens position := by
  simp only [at?]
  rw [List.filter_append]
  split
  · next before =>
    rw [List.filter_cons_of_pos (by simpa using before), List.filter_nil, List.getLast?_concat]
  · next behind =>
    rw [List.filter_cons_of_neg (by simpa using behind), List.filter_nil, List.append_nil]

end StyledToken

open StyledToken

/-- How tokens with metadata follow tokens with names, up to the position that these reach.
`style` is the metadata that belongs to names. -/
structure Runs (style : List String → Metadata) (tokens : List Token)
    (runs : List StyledToken) (stop : Nat) : Prop where
  /-- The first run starts with the line. -/
  head : ∀ run, runs.head? = some run → run.start = 0
  nonempty : 0 < stop → runs ≠ []
  increasing : runs.Pairwise fun first second => first.start < second.start
  distinct : runs.IsChain fun first second => first.metadata ≠ second.metadata
  below : ∀ run ∈ runs, run.start < stop
  /-- Every position of a token lies in a run with the metadata of the token. -/
  metadata : ∀ token ∈ tokens, ∀ position, token.start ≤ position → position < token.stop →
    ∃ run, at? runs position = some run ∧ run.metadata = style token.scopes

namespace Runs

variable {style : List String → Metadata} {tokens : List Token} {runs : List StyledToken}
  {stop : Nat}

theorem start : Runs style [] [] 0 :=
  ⟨nofun, fun positive => absurd positive (Nat.lt_irrefl 0), .nil, .nil, nofun, nofun⟩

/-- At the end of the runs lies the last one. -/
theorem at?_stop (given : Runs style tokens runs stop) {position : Nat}
    (reached : stop ≤ position) : at? runs position = runs.getLast? := by
  simp only [at?]
  rw [List.filter_eq_self.mpr fun run mem => ?_]
  have below := given.below run mem
  exact decide_eq_true (by omega)

/-- A token with the metadata of the last run goes on with that. -/
theorem goOn (given : Runs style tokens runs stop) {last : StyledToken}
    (ends : runs.getLast? = some last) {names : List String}
    (same : last.metadata = style names) {next : Nat} (further : stop < next) :
    Runs style (tokens ++ [⟨stop, next, names⟩]) runs next := by
  refine { given with
    nonempty := fun _ none => ?_
    below := fun run mem => Nat.lt_trans (given.below run mem) further
    metadata := fun token mem position above below => ?_ }
  · rw [none] at ends
    cases ends
  · rcases List.mem_append.mp mem with mem | mem
    · exact given.metadata token mem position above below
    · obtain rfl := List.mem_singleton.mp mem
      exact ⟨last, (given.at?_stop above).trans ends, same⟩

/-- A token with other metadata than the last run begins a run. -/
theorem begin (given : Runs style tokens runs stop)
    (before : ∀ token ∈ tokens, token.stop ≤ stop) {names : List String}
    (other : ∀ last, runs.getLast? = some last → last.metadata ≠ style names) {next : Nat}
    (further : stop < next) :
    Runs style (tokens ++ [⟨stop, next, names⟩]) (runs ++ [⟨stop, style names⟩]) next := by
  constructor
  · intro run first
    cases runs with
    | nil =>
      cases first
      by_contra positive
      exact given.nonempty (Nat.pos_of_ne_zero positive) rfl
    | cons head others => exact given.head run first
  · intro _ none
    exact absurd none (by simp)
  · refine List.pairwise_append.mpr ⟨given.increasing, List.pairwise_singleton _ _, ?_⟩
    intro run mem last single
    obtain rfl := List.mem_singleton.mp single
    exact given.below run mem
  · refine List.isChain_append.mpr ⟨given.distinct, .singleton _, ?_⟩
    rintro last ends _ ⟨⟩
    exact other last ends
  · intro run mem
    rcases List.mem_append.mp mem with mem | mem
    · exact Nat.lt_trans (given.below run mem) further
    · obtain rfl := List.mem_singleton.mp mem
      exact further
  · intro token mem position above below
    rw [at?_concat]
    rcases List.mem_append.mp mem with mem | mem
    · have within := before token mem
      rw [if_neg (by dsimp only; omega)]
      exact given.metadata token mem position above below
    · obtain rfl := List.mem_singleton.mp mem
      exact ⟨_, if_pos above, rfl⟩

/-- Runs that reach some way end with a run. -/
theorem exists_concat (given : Runs style tokens runs stop) (reached : 0 < stop) :
    ∃ init last, runs = init ++ [last] ∧ last.start < stop ∧
      ∀ run ∈ init, run.start < last.start := by
  rcases List.eq_nil_or_concat runs with rfl | ⟨init, last, rfl⟩
  · exact absurd rfl (given.nonempty reached)
  · rw [List.concat_eq_append] at given ⊢
    have increasing := List.pairwise_append.mp given.increasing
    refine ⟨init, last, rfl, given.below last (List.mem_append_right _ List.mem_cons_self), ?_⟩
    exact fun run mem => increasing.2.2 run mem last List.mem_cons_self

/-- What is left of runs that reach behind the line feed, on a line with text: they reach its
end, and what is left of the tokens lies in them as before. -/
theorem dropLineFeed {length : Nat} (given : Runs style tokens runs (length + 1))
    (text : 0 < length) {shown : List Token} (cut : ∀ token ∈ shown, token.stop ≤ length ∧
      ∃ whole ∈ tokens, whole.start = token.start ∧ token.stop ≤ whole.stop ∧
        whole.scopes = token.scopes) :
    Runs style shown (LineTokens.dropLineFeed StyledToken.start (length + 1) runs) length := by
  have covered (token : Token) (mem : token ∈ shown) (position : Nat)
      (above : token.start ≤ position) (below : position < token.stop) :
      position < length ∧
        ∃ run, at? runs position = some run ∧ run.metadata = style token.scopes := by
    obtain ⟨inside, whole, mem, start, stop, scopes⟩ := cut token mem
    rw [← scopes]
    exact ⟨by omega, given.metadata whole mem position (by omega) (by omega)⟩
  obtain ⟨init, last, rfl, lastBelow, less⟩ := given.exists_concat (Nat.succ_pos length)
  rw [LineTokens.dropLineFeed_concat]
  split
  · next feed =>
    constructor
    · intro run first
      exact given.head run (by rw [List.head?_append, first]; rfl)
    · rintro - rfl
      have first := given.head last rfl
      omega
    · exact (List.pairwise_append.mp given.increasing).1
    · exact (List.isChain_append.mp given.distinct).1
    · intro run mem
      have before := less run mem
      omega
    · intro token mem position above below
      obtain ⟨inside, found⟩ := covered token mem position above below
      rwa [at?_concat, if_neg (by omega)] at found
  · next noFeed =>
    refine { given with
      nonempty := fun _ => by simp
      below := fun run mem => ?_
      metadata := fun token mem position above below =>
        (covered token mem position above below).2 }
    rcases List.mem_append.mp mem with mem | mem
    · have before := less run mem
      omega
    · obtain rfl := List.mem_singleton.mp mem
      omega

/-- On a line without text no run is left. -/
theorem dropLineFeed_empty (given : Runs style tokens runs 1) :
    LineTokens.dropLineFeed StyledToken.start 1 runs = [] := by
  obtain ⟨init, last, rfl, lastBelow, less⟩ := given.exists_concat Nat.one_pos
  rw [LineTokens.dropLineFeed_concat, if_pos (by omega)]
  cases init with
  | nil => rfl
  | cons run others =>
    have before := less run List.mem_cons_self
    omega

end Runs

end ScopeTokenizer
