import ScopeTokenizer.Proofs.Regex.Disabling
import ScopeTokenizer.Regex.Engine

/-!
# Reading a pattern with anchors disabled

A pattern is compiled from a text in which the placeholder stands for disabled anchors. The parser
reads this text in step with that of the pattern itself, although the two need not have the same
length. Only the beginnings of the two expressions are compared: where the first one begins with
anchors, the second one begins with what is there after some of them were disabled.

It is enough to look at texts that can both be read. So a lemma about a parser starts from two
answers of it, and readers that refuse a text have nothing to show.
-/

namespace ScopeTokenizer

open Pattern Unicode

namespace Regex

/-! ## Expressions -/

/-- What is known of the expression of a pattern and of that of the pattern with disabled anchors. -/
structure Like (anchors : Anchors) (expr other : Expr) : Prop where
  begins {kind after : Lead → Bool} : Lead.Becomes anchors kind after →
    expr.begins (Expr.leads kind) = true → other.begins (Expr.leads after) = true
  isBlank : expr.isBlank = true → other.isBlank = true

namespace Like

variable {anchors : Anchors} {expr other : Expr}

/-- An expression that is not blank has only to begin as the other one does. -/
theorem of_visible (visible : expr.isBlank = false)
    (begins : ∀ {kind after : Lead → Bool}, Lead.Becomes anchors kind after →
      expr.begins (Expr.leads kind) = true → other.begins (Expr.leads after) = true) :
    Like anchors expr other :=
  ⟨begins, fun blank => absurd (visible.symm.trans blank) Bool.false_ne_true⟩

/-- Nothing is known of the second expression if the first one begins with none of the parts. -/
theorem of_plain (plain : ∀ kind, expr.begins (Expr.leads kind) = false)
    (visible : expr.isBlank = false) (other : Expr) : Like anchors expr other :=
  .of_visible visible fun _ begun => absurd ((plain _).symm.trans begun) Bool.false_ne_true

theorem append {last last' : Expr} (first : Like anchors expr other)
    (second : Like anchors last last') :
    Like anchors (expr.append last) (other.append last') where
  begins become begun := by
    simp only [Expr.begins_append, Bool.or_eq_true, Bool.and_eq_true] at begun ⊢
    exact begun.imp (first.begins become) fun ⟨blank, begun⟩ =>
      ⟨first.isBlank blank, second.begins become begun⟩
  isBlank blank := by
    rw [Expr.isBlank_append, Bool.and_eq_true] at blank ⊢
    exact ⟨first.isBlank blank.1, second.isBlank blank.2⟩

theorem alt {last last' : Expr} (first : Like anchors expr other)
    (second : Like anchors last last') :
    Like anchors (.alt expr last) (.alt other last') := by
  refine .of_visible rfl fun become begun => ?_
  obtain ⟨left, right⟩ := Bool.and_eq_true_iff.mp begun
  exact Bool.and_eq_true_iff.mpr ⟨first.begins become left, second.begins become right⟩

theorem group (like : Like anchors expr other) (number number' : Nat) :
    Like anchors (.group number expr) (.group number' other) :=
  .of_visible rfl like.begins

theorem atomic (like : Like anchors expr other) :
    Like anchors (.atomic expr) (.atomic other) :=
  .of_visible rfl like.begins

theorem look (like : Like anchors expr other) (negative : Bool) :
    Like anchors (.look negative expr) (.look negative other) := by
  refine .of_visible rfl fun become begun => ?_
  obtain ⟨positive, begun⟩ := Bool.and_eq_true_iff.mp begun
  exact Bool.and_eq_true_iff.mpr ⟨positive, like.begins become begun⟩

theorem quantified (like : Like anchors expr other) (quantifier : Quantifier) :
    Like anchors (quantifier.apply expr) (quantifier.apply other) := by
  have repeated : Like anchors
      (.repeated quantifier.low quantifier.high quantifier.greedy expr)
      (.repeated quantifier.low quantifier.high quantifier.greedy other) := by
    refine .of_visible rfl fun become begun => ?_
    obtain ⟨least, begun⟩ := Bool.and_eq_true_iff.mp begun
    exact Bool.and_eq_true_iff.mpr ⟨least, like.begins become begun⟩
  unfold Quantifier.apply
  dsimp only
  split
  · exact repeated.atomic
  · exact repeated

end Like

/-! ## Parsers -/

/-- Places in two patterns before which there were as many groups, with the same names. -/
structure Twins (anchors : Anchors) (source other : Source) : Prop where
  rest : Disabled anchors source.rest other.rest
  groups : other.groups = source.groups
  names : other.names = source.names

/-- Whenever there are two answers, they are related, and so are the places that they come to. -/
def Follows (anchors : Anchors) {α β : Type} (R : α → β → Prop) (first : Option (α × Source))
    (second : Option (β × Source)) : Prop :=
  ∀ a after b after', first = some (a, after) → second = some (b, after') →
    R a b ∧ Twins anchors after after'

/-- Whenever both parsers have an answer at two such places, the answers are related. -/
def Tracks (anchors : Anchors) {α β : Type} (R : α → β → Prop) (first : Parser α)
    (second : Parser β) : Prop :=
  ∀ context source source', Twins anchors source source' →
    Follows anchors R (first context source) (second context source')

section Combinators

variable {anchors : Anchors} {α β γ δ : Type} {R : α → β → Prop} {S : γ → δ → Prop}
  {first : Parser α} {second : Parser β} {context : Context} {source source' : Source}
  {text other : List Char}

namespace Follows

theorem failure_left {answer : Option (β × Source)} :
    Follows anchors R ((Alternative.failure : Parser α) context source) answer := nofun

theorem failure_right {answer : Option (α × Source)} :
    Follows anchors R answer ((Alternative.failure : Parser β) context source') :=
  fun _ _ _ _ _ => nofun

theorem pure (context : Context) {a : α} {b : β} (related : R a b)
    (twins : Twins anchors source source') :
    Follows anchors R ((Pure.pure a : Parser α) context source)
      ((Pure.pure b : Parser β) context source') := by
  rintro _ _ _ _ ⟨⟩ ⟨⟩
  exact ⟨related, twins⟩

theorem bind {next : α → Parser γ} {next' : β → Parser δ}
    (start : Follows anchors R (first context source) (second context source'))
    (goesOn : ∀ a b, R a b → Tracks anchors S (next a) (next' b)) :
    Follows anchors S ((first >>= next) context source) ((second >>= next') context source') := by
  intro c after d after' run run'
  obtain ⟨⟨a, between⟩, run, rest⟩ := Option.bind_eq_some_iff.mp run
  obtain ⟨⟨b, between'⟩, run', rest'⟩ := Option.bind_eq_some_iff.mp run'
  obtain ⟨related, twins⟩ := start a between b between' run run'
  exact goesOn a b related context between between' twins c after d after' rest rest'

theorem next_nil {next : Char → Parser γ} (front : source.rest = [])
    {answer : Option (δ × Source)} :
    Follows anchors S ((Parser.next >>= next) context source) answer := by
  obtain ⟨rest, groups, names, mentioned, usesNumbers⟩ := source
  subst front
  exact nofun

theorem next_cons {next : Char → Parser γ} {next' : Char → Parser δ} {c d : Char}
    (front : source.rest = c :: text) (front' : source'.rest = d :: other)
    (goesOn : Follows anchors S (next c context { source with rest := text })
      (next' d context { source' with rest := other })) :
    Follows anchors S ((Parser.next >>= next) context source)
      ((Parser.next >>= next') context source') := by
  obtain ⟨rest, groups, names, mentioned, usesNumbers⟩ := source
  obtain ⟨rest', groups', names', mentioned', usesNumbers'⟩ := source'
  subst front
  subst front'
  exact goesOn

end Follows

namespace Tracks

theorem bind {next : α → Parser γ} {next' : β → Parser δ} (start : Tracks anchors R first second)
    (goesOn : ∀ a b, R a b → Tracks anchors S (next a) (next' b)) :
    Tracks anchors S (first >>= next) (second >>= next') :=
  fun context source source' twins => (start context source source' twins).bind goesOn

theorem pure {a : α} {b : β} (related : R a b) :
    Tracks anchors R (Pure.pure a : Parser α) (Pure.pure b) :=
  fun context _ _ twins => .pure context related twins

theorem map {f : α → γ} {g : β → δ} (tracks : Tracks anchors R first second)
    (related : ∀ a b, R a b → S (f a) (g b)) :
    Tracks anchors S (do return f (← first)) (do return g (← second)) :=
  tracks.bind fun a b given => .pure (related a b given)

theorem failure_left : Tracks anchors R (failure : Parser α) second :=
  fun _ _ _ _ => .failure_left

theorem failure_right : Tracks anchors R first (failure : Parser β) :=
  fun _ _ _ _ => .failure_right

/-- What comes behind a test is reached only if the test is passed. -/
theorem guarded {p q : Prop} [Decidable p] [Decidable q] {next : Unit → Parser α}
    {next' : Unit → Parser β}
    (goesOn : ¬p → ¬q → Tracks anchors R (next ()) (next' ())) :
    Tracks anchors R (if p then do next (← failure) else next ())
      (if q then do next' (← failure) else next' ()) := by
  split
  · exact fun _ _ _ _ => nofun
  · split
    · exact fun _ _ _ _ _ _ _ _ _ => nofun
    · next p q => exact goesOn p q

/-- The text is looked at, which is not taken. -/
theorem text_bind {next : List Char → Parser γ} {next' : List Char → Parser δ}
    (goesOn : ∀ context source source', Twins anchors source source' →
      Follows anchors S (next source.rest context source) (next' source'.rest context source')) :
    Tracks anchors S (Parser.text >>= next) (Parser.text >>= next') :=
  fun context source source' twins => goesOn context source source' twins

theorem get_bind {next : Source → Parser γ} {next' : Source → Parser δ}
    (goesOn : ∀ source source', Twins anchors source source' →
      Tracks anchors S (next source) (next' source')) :
    Tracks anchors S (get >>= next) (get >>= next') :=
  fun context source source' twins => goesOn source source' twins context source source' twins

theorem read_bind {next : Context → Parser γ} {next' : Context → Parser δ}
    (goesOn : ∀ context, Tracks anchors S (next context) (next' context)) :
    Tracks anchors S (read >>= next) (read >>= next') :=
  fun context source source' twins => goesOn context context source source' twins

theorem setText (disabled : Disabled anchors text other) :
    Tracks anchors (fun _ _ => True) (Parser.setText text) (Parser.setText other) := by
  rintro context source source' twins _ _ _ _ ⟨⟩ ⟨⟩
  exact ⟨trivial, disabled, twins.groups, twins.names⟩

theorem mention (groups groups' : List Nat) (byNumber byNumber' : Bool) :
    Tracks anchors (fun _ _ => True) (Parser.mention groups byNumber)
      (Parser.mention groups' byNumber') := by
  rintro context source source' twins _ _ _ _ ⟨⟩ ⟨⟩
  exact ⟨trivial, twins.rest, twins.groups, twins.names⟩

theorem openGroup : Tracks anchors Eq Parser.openGroup Parser.openGroup := by
  rintro context source source' twins _ _ _ _ ⟨⟩ ⟨⟩
  have groups : source'.groups + 1 = source.groups + 1 := congrArg (· + 1) twins.groups
  exact ⟨groups.symm, twins.rest, groups, twins.names⟩

theorem take {read : List Char → Option (α × List Char)}
    {read' : List Char → Option (β × List Char)}
    (aligned : ∀ text other, Disabled anchors text other →
      Aligned anchors R (read text) (read' other)) :
    Tracks anchors R (Parser.take read) (Parser.take read') := by
  refine text_bind fun context source source' twins => ?_
  have readings := aligned _ _ twins.rest
  cases found : read source.rest with
  | none => exact .failure_left
  | some answer =>
    cases found' : read' source'.rest with
    | none => exact .failure_right
    | some answer' =>
      obtain ⟨related, left⟩ := readings _ _ _ _ found found'
      exact ((setText left).bind fun _ _ _ => .pure related) context source source' twins

theorem next {d : Char} (twins : Twins anchors source source')
    (front : source.rest.head? = some d) (plain : d ≠ '\\') :
    Follows anchors (fun c c' => c = d ∧ c' = d) (Parser.next context source)
      (Parser.next context source') := by
  obtain ⟨rest, is⟩ : ∃ rest, source.rest = d :: rest := List.head?_eq_some_iff.mp front
  obtain ⟨rest', is', left⟩ := (is ▸ twins.rest).of_cons plain
  have taken {source : Source} {rest : List Char} (is : source.rest = d :: rest) :
      Parser.next context source = some (d, { source with rest }) := by
    cases source
    subst is
    rfl
  rw [taken is, taken is']
  exact .pure context ⟨rfl, rfl⟩ ⟨left, twins.groups, twins.names⟩

/-- A backslash has to be refused. -/
theorem next_bind {f : Char → Parser γ} {g : Char → Parser δ}
    (refused : ∀ context source, f '\\' context source = none)
    (goesOn : ∀ c, c ≠ '\\' → Tracks anchors S (f c) (g c)) :
    Tracks anchors S (Parser.next >>= f) (Parser.next >>= g) := by
  intro context source source' twins
  cases front : source.rest.head? with
  | none =>
    obtain ⟨rest, groups, names, mentioned, usesNumbers⟩ := source
    obtain rfl : rest = [] := List.head?_eq_none_iff.mp front
    exact nofun
  | some d =>
    by_cases plain : d = '\\'
    · obtain ⟨rest, groups, names, mentioned, usesNumbers⟩ := source
      obtain ⟨rest, rfl⟩ : ∃ others, rest = d :: others := List.head?_eq_some_iff.mp front
      have fails : (Parser.next >>= f) context ⟨d :: rest, groups, names, mentioned, usesNumbers⟩ =
          none := plain ▸ refused context ⟨rest, groups, names, mentioned, usesNumbers⟩
      rw [fails]
      exact nofun
    · refine (next twins front plain).bind ?_
      rintro _ _ ⟨rfl, rfl⟩
      exact goesOn _ plain

theorem expect {c : Char} (plain : c ≠ '\\') :
    Tracks anchors (fun _ _ => True) (Parser.expect c) (Parser.expect c) := by
  refine next_bind (fun context source => ?_) fun d _ => ?_
  · rw [if_pos (Ne.symm plain)]
    rfl
  · split
    · exact failure_left
    · exact .pure trivial

theorem skip (flags : Flags) :
    Tracks anchors (fun _ _ => True) (Parser.skip flags) (Parser.skip flags) := by
  refine text_bind fun context source source' twins => ?_
  have left := twins.rest.skipIgnored flags.extended (Nat.le_refl _) (Nat.le_refl _)
  cases found : Regex.skipIgnored flags.extended source.rest.length source.rest with
  | none => exact .failure_left
  | some rest =>
    cases found' : Regex.skipIgnored flags.extended source'.rest.length source'.rest with
    | none => exact .failure_right
    | some rest' =>
      rw [found, found'] at left
      cases left with
      | some left => exact setText left context source source' twins

/-! ### Names and numbers -/

/-- The characters up to which names and numbers are read. -/
def Closes (c : Char) : Prop := c = '>' ∨ c = '\'' ∨ c = ')'

theorem Closes.closing {c : Char} (opens : c = '<' ∨ c = '\'') : Closes (Parser.closing c) := by
  rcases opens with rfl | rfl
  · exact .inl rfl
  · exact .inr (.inl rfl)

/-- Text without backslashes is left alone. -/
theorem upTo {close : Char} (closes : Closes close) :
    Tracks anchors (fun inner inner' => '\\' ∉ inner → inner' = inner) (Parser.upTo close)
      (Parser.upTo close) := by
  have passes {c : Char} (letter : c = '\\' ∨ c = 'A' ∨ c = 'G' ∨ c = Anchors.placeholder) :
      (c ≠ close && c ≠ ')') = true := by
    rcases closes with rfl | rfl | rfl <;> rcases letter with rfl | rfl | rfl | rfl <;> decide
  have plain : close ≠ '\\' := by
    rcases closes with rfl | rfl | rfl <;> decide
  refine text_bind fun context source source' twins => ?_
  simp only [Disabled.drop_takeWhile_length]
  have inner := twins.rest.takeWhile_of_notMem (p := fun c => c ≠ close && c ≠ ')')
    (passes (.inl rfl))
  have left := twins.rest.dropWhile (p := fun c => c ≠ close && c ≠ ')') (passes (.inl rfl))
    (by
      rintro c (⟨rfl, -⟩ | ⟨rfl, -⟩)
      · exact passes (.inr (.inl rfl))
      · exact passes (.inr (.inr (.inl rfl))))
    (passes (.inr (.inr (.inr rfl))))
  have whole : Tracks anchors (fun inner inner' => '\\' ∉ inner → inner' = inner) _ _ :=
    (setText left).bind fun _ _ _ => (expect plain).bind fun _ _ _ =>
      .pure (fun without => (inner without).1)
  exact whole context source source' twins

theorem isWord_backslash : isWord '\\' = false := by decide +kernel

theorem notMem_of_target? {target : Parser.Target} (is : Parser.target? text = some target) :
    '\\' ∉ text := by
  have digits {rest : List Char} {α : Type} {answer : α} {f : Nat → Option α}
      (is : (if rest ≠ [] ∧ rest.all isAsciiDigit then some (Code.number 10 rest)
        else none).bind f = some answer) : '\\' ∉ rest := by
    obtain ⟨n, is, -⟩ := Option.bind_eq_some_iff.mp is
    split at is
    · next all =>
      intro mem
      exact absurd (List.all_eq_true.mp all.2 _ mem) (by decide)
    · cases is
  unfold Parser.target? at is
  dsimp only at is
  split at is
  · cases is
  · exact List.not_mem_cons_of_ne_of_not_mem (by decide) (digits is)
  · exact List.not_mem_cons_of_ne_of_not_mem (by decide) (digits is)
  · split at is
    · exact digits ((Option.map_eq_bind ..).symm.trans is)
    · split at is
      · next all =>
        intro mem
        exact absurd (List.all_eq_true.mp all _ mem) (by rw [isWord_backslash]; exact nofun)
      · cases is

theorem notMem_of_isName {name : List Char} (is : Parser.isName name = true) : '\\' ∉ name := by
  cases name with
  | nil => cases is
  | cons c name =>
    intro mem
    have word := List.all_eq_true.mp (Bool.and_eq_true_iff.mp is).2 _ mem
    rw [isWord_backslash] at word
    cases word

theorem readTarget {close : Char} (closes : Closes close) :
    Tracks anchors Eq (Parser.readTarget close) (Parser.readTarget close) := by
  refine (upTo closes).bind fun inner inner' same => ?_
  cases found : Parser.target? inner with
  | none => exact failure_left
  | some target =>
    rw [same (notMem_of_target? found), found]
    exact .pure rfl

/-- References are no anchors, whatever they refer to. -/
theorem referenced (target : Parser.Target) :
    Tracks anchors (fun _ _ => True) (Parser.referenced target) (Parser.referenced target) := by
  refine get_bind fun source source' twins => ?_
  cases target with
  | number n =>
    cases n with
    | zero => exact failure_left
    | succ n => exact (mention _ _ _ _).bind fun _ _ _ => .pure trivial
  | back n => exact guarded fun _ _ => (mention _ _ _ _).bind fun _ _ _ => .pure trivial
  | ahead n => exact (mention _ _ _ _).bind fun _ _ _ => .pure trivial
  | name name => exact guarded fun _ _ => .pure trivial

theorem called (target : Parser.Target) :
    Tracks anchors (fun _ _ => True) (Parser.called target) (Parser.called target) := by
  refine get_bind fun source source' twins => ?_
  cases target with
  | number n => exact (mention _ _ _ _).bind fun _ _ _ => .pure trivial
  | back n => exact guarded fun _ _ => (mention _ _ _ _).bind fun _ _ _ => .pure trivial
  | ahead n => exact (mention _ _ _ _).bind fun _ _ _ => .pure trivial
  | name name =>
    refine read_bind fun context => ?_
    cases context.names with
    | none => exact .pure trivial
    | some names =>
      dsimp only
      split
      · exact .pure trivial
      · exact failure_left

/-! ### Escapes -/

section Escapes

/-- A character is no anchor, so it is not disabled. -/
theorem point (flags : Flags) (number : Nat) :
    Like anchors (Parser.pointExpr flags number) (Parser.pointExpr flags number) := by
  refine ⟨fun {kind after} become begun => ?_, id⟩
  have stays : kind .placeholder = true → after .placeholder = true := become .placeholder
  unfold Parser.pointExpr at begun ⊢
  by_cases valid : number.isValidChar
  · rw [dif_pos valid] at begun ⊢
    dsimp only at begun ⊢
    generalize Char.ofNatAux number valid = c at begun ⊢
    generalize fold c = image at begun ⊢
    by_cases anyCase : flags.anyCase
    · rw [if_pos anyCase] at begun ⊢
      exact Bool.and_eq_true_iff.mpr ((Bool.and_eq_true_iff.mp begun).imp_right stays)
    · rw [if_neg anyCase] at begun ⊢
      exact Bool.and_eq_true_iff.mpr ((Bool.and_eq_true_iff.mp begun).imp_right stays)
  · rw [dif_neg valid] at begun
    cases begun

theorem codeExpr (flags : Flags) (code : Code) :
    Tracks anchors (Like anchors) (Parser.codeExpr flags code)
      (Parser.codeExpr flags code) :=
  (take fun _ _ disabled => disabled.completeCode code).map <| by
    rintro number _ rfl
    exact point flags number

theorem numeric (flags : Flags) {c : Char} (digit : isAsciiDigit c = true) :
    Tracks anchors (Like anchors) (Parser.numeric flags c) (Parser.numeric flags c) := by
  have plain : c ≠ '\\' := by
    rintro rfl
    cases digit
  refine text_bind fun context source source' twins => ?_
  obtain ⟨same, left⟩ := twins.rest.takeWhile (p := isAsciiDigit) (by decide) (by decide)
  rw [← Disabled.drop_takeWhile_length, ← Disabled.drop_takeWhile_length, same] at left
  refine get_bind (fun between between' twins' => ?_) context source source' twins
  simp only [same, twins'.groups, List.length_cons, Nat.add_sub_cancel]
  split
  · exact (setText left).bind fun _ _ _ => (mention _ _ _ _).bind fun _ _ _ =>
      .pure (.of_plain (fun _ => rfl) rfl _)
  · split
    · exact .pure (point ..)
    · refine (setText (.plain plain twins.rest)).bind fun _ _ _ =>
        (take fun _ _ disabled => disabled.octal 3).bind ?_
      rintro code _ rfl
      exact codeExpr flags code

/-- An escape that mentions a group, by a reference or a call. -/
theorem mentions (flags : Flags) (c : Char)
    (opens : source.rest.head? = some '<' ∨ source.rest.head? = some '\'')
    (twins : Twins anchors source source') :
    let mentioned : Parser Expr := do
      let target ← Parser.readTarget (Parser.closing (← Parser.next))
      if c = 'k' then return .backref (← Parser.referenced target) flags.anyCase
      else return .call (← Parser.called target)
    Follows anchors (Like anchors) (mentioned context source) (mentioned context source') := by
  obtain ⟨d, front, mark⟩ : ∃ d, source.rest.head? = some d ∧ (d = '<' ∨ d = '\'') := by
    rcases opens with front | front
    · exact ⟨_, front, .inl rfl⟩
    · exact ⟨_, front, .inr rfl⟩
  have plain : d ≠ '\\' := by
    rcases mark with rfl | rfl <;> decide
  refine (next twins front plain).bind fun _ _ marks => ?_
  rw [marks.1, marks.2]
  refine (readTarget (.closing mark)).bind ?_
  rintro target _ rfl
  split
  · exact (referenced target).map fun _ _ _ => .of_plain (fun _ => rfl) rfl _
  · exact (called target).map fun _ _ _ => .of_plain (fun _ => rfl) rfl _

/-- The rest of an escape that is no disabled anchor. -/
theorem escape (flags : Flags) {c : Char} (kept : ¬anchors.Disables c)
    (left : Disabled anchors text other) (twins : Twins anchors source source') :
    Follows anchors (Like anchors)
      (Parser.escape flags context { source with rest := c :: text })
      (Parser.escape flags context { source' with rest := c :: other }) := by
  have first : Follows anchors (fun d d' => d = c ∧ d' = c)
      (Parser.next context { source with rest := c :: text })
      (Parser.next context { source' with rest := c :: other }) :=
    .pure context ⟨rfl, rfl⟩ ⟨left, twins.groups, twins.names⟩
  have harmless {expr : Expr} (plain : ∀ kind, expr.begins (Expr.leads kind) = false)
      (visible : expr.isBlank = false) :
      Tracks anchors (Like anchors) (Pure.pure expr) (Pure.pure expr) :=
    .pure (.of_plain plain visible expr)
  refine first.bind fun d d' same => ?_
  rw [same.1, same.2]
  cases flags.class? c with
  | some set => exact harmless (fun _ => rfl) rfl
  | none =>
    dsimp only
    split
    · exact harmless (fun _ => rfl) rfl
    · exact harmless (fun _ => rfl) rfl
    · have start : anchors.start = true :=
        Bool.not_eq_false _ |>.mp fun off => kept (.inl ⟨rfl, off⟩)
      refine .pure (.of_visible rfl fun become begun => ?_)
      have kept := become .textStart begun
      rwa [Lead.disable, if_pos start] at kept
    · exact harmless (fun _ => rfl) rfl
    · exact harmless (fun _ => rfl) rfl
    · have here : anchors.here = true :=
        Bool.not_eq_false _ |>.mp fun off => kept (.inr ⟨rfl, off⟩)
      refine .pure (.of_visible rfl fun become begun => ?_)
      have kept := become .searchStart begun
      rwa [Lead.disable, if_pos here] at kept
    · exact harmless (fun _ => rfl) rfl
    · exact harmless (fun _ => rfl) rfl
    · exact harmless (fun _ => rfl) rfl
    · exact harmless (fun _ => rfl) rfl
    · exact failure_left
    · exact failure_left
    · exact failure_left
    · refine text_bind fun context source source' twins => ?_
      have angle := twins.rest.head? (c := '<') (by decide) (by decide)
      have quote := twins.rest.head? (c := '\'') (by decide) (by decide)
      have brace := twins.rest.head? (c := '\x7b') (by decide) (by decide)
      simp only [angle, quote, brace]
      split
      · next opens => exact mentions flags c opens.2 twins
      · split
        · exact (take fun _ _ disabled => disabled.property? flags c).map
            (fun _ _ _ => .of_plain (fun _ => rfl) rfl _) context source source' twins
        · split
          · next digit => exact numeric flags digit context source source' twins
          · refine ((take fun _ _ disabled => disabled.readCode c).bind ?_)
              context source source' twins
            rintro code _ rfl
            exact codeExpr flags code

/-- What stands for a disabled anchor begins with the placeholder. -/
theorem disabled (flags : Flags) {c : Char} (disables : anchors.Disables c)
    (left : Disabled anchors text other) (twins : Twins anchors source source') :
    Follows anchors (Like anchors)
      (Parser.escape flags context { source with rest := c :: text })
      ((Pure.pure (Parser.pointExpr flags Anchors.placeholder.toNat) : Parser Expr) context
        { source' with rest := other }) := by
  have itself : Char.ofNatAux Anchors.placeholder.toNat (by decide) = Anchors.placeholder := rfl
  have barred {after : Lead → Bool} (among : after .placeholder = true) :
      (Parser.pointExpr flags Anchors.placeholder.toNat).begins (Expr.leads after) = true := by
    unfold Parser.pointExpr
    rw [dif_pos (by decide), itself]
    cases flags.anyCase with
    | true =>
      rw [if_pos rfl, fold_placeholder]
      exact among
    | false => exact among
  have twins : Twins anchors { source with rest := text } { source' with rest := other } :=
    ⟨left, twins.groups, twins.names⟩
  rcases disables with ⟨rfl, off⟩ | ⟨rfl, off⟩
  · refine Follows.pure context (.of_visible rfl fun become begun => barred ?_) twins
    have changed := become .textStart begun
    rwa [Lead.disable, off, if_neg Bool.false_ne_true] at changed
  · refine Follows.pure context (.of_visible rfl fun become begun => barred ?_) twins
    have changed := become .searchStart begun
    rwa [Lead.disable, off, if_neg Bool.false_ne_true] at changed

end Escapes

/-! ### Groups -/

theorem begins_bracketExpr (kind : Lead → Bool) (flags : Flags) (reading : Bracket.Reading) :
    (Parser.bracketExpr flags reading).begins (Expr.leads kind) = false ∧
      (Parser.bracketExpr flags reading).isBlank = false := by
  have choice (images : List (List Char)) (expr : Expr)
      (first : expr.begins (Expr.leads kind) = false ∧ expr.isBlank = false) :
      (images.foldl (fun expr image => Expr.alt expr (.folded image)) expr).begins
          (Expr.leads kind) = false ∧
        (images.foldl (fun expr image => Expr.alt expr (.folded image)) expr).isBlank = false := by
    induction images generalizing expr with
    | nil => exact first
    | cons image images ih =>
      exact ih _ ⟨by rw [Expr.begins, first.1, Bool.false_and], rfl⟩
  unfold Parser.bracketExpr
  split
  · dsimp only
    split
    · exact ⟨rfl, rfl⟩
    · exact choice _ _ ⟨rfl, rfl⟩
  · exact ⟨rfl, rfl⟩

/-- A test of the text behind is no anchor, and neither is a choice of such tests. -/
theorem begins_lookBehind (kind : Lead → Bool) (negative : Bool) (expr : Expr) :
    (Expr.lookBehind negative expr).begins (Expr.leads kind) = false ∧
      (Expr.lookBehind negative expr).isBlank = false := by
  have choice (branches : List Expr) (expr : Expr)
      (first : expr.begins (Expr.leads kind) = false ∧ expr.isBlank = false) :
      (branches.foldl (fun tests branch => Expr.alt tests (.behind false branch)) expr).begins
          (Expr.leads kind) = false ∧
        (branches.foldl (fun tests branch => Expr.alt tests (.behind false branch)) expr).isBlank
          = false := by
    induction branches generalizing expr with
    | nil => exact first
    | cons branch branches ih => exact ih _ ⟨by rw [Expr.begins, first.1, Bool.false_and], rfl⟩
  obtain ⟨first, others, is⟩ : ∃ first others, expr.alternatives = first :: others := by
    cases expr <;> exact ⟨_, _, rfl⟩
  unfold Expr.lookBehind
  simp only [is]
  split
  · split
    · rw [List.foldr_cons, Expr.begins_append, Expr.isBlank_append]
      exact ⟨rfl, rfl⟩
    · exact choice _ _ ⟨rfl, rfl⟩
  · exact ⟨rfl, rfl⟩

/-- What is known of two parts of patterns. -/
inductive LikeItem (anchors : Anchors) : Item → Item → Prop where
  | expr {expr other : Expr} : Like anchors expr other →
      LikeItem anchors (.expr expr) (.expr other)
  | flags (flags : Flags) : LikeItem anchors (.flags flags) (.flags flags)

section Groups

variable {alternatives alternatives' : Flags → Parser Expr}
  (inner : ∀ flags, Tracks anchors (Like anchors) (alternatives flags)
    (alternatives' flags))
include inner

theorem body (flags : Flags) :
    Tracks anchors (Like anchors) (Parser.body alternatives flags)
      (Parser.body alternatives' flags) :=
  (inner flags).bind fun _ _ like => (expect (by decide)).bind fun _ _ _ => .pure like

theorem capturing (flags : Flags) :
    Tracks anchors (Like anchors) (Parser.capturing alternatives flags)
      (Parser.capturing alternatives' flags) :=
  openGroup.bind fun number number' _ =>
    (body inner flags).map fun _ _ like => like.group number number'

theorem named (flags : Flags) {close : Char} (closes : Closes close) :
    Tracks anchors (Like anchors) (Parser.named alternatives flags close)
      (Parser.named alternatives' flags close) := by
  refine (upTo closes).bind fun name name' same => guarded fun known _ => ?_
  have known : Parser.isName name = true := by simpa using known
  rw [same (notMem_of_isName known)]
  have noted : Tracks anchors (fun _ _ => True)
      (modify fun source => { source with names := source.names ++ [(name, source.groups + 1)] } :
        Parser Unit)
      (modify fun source => { source with names := source.names ++ [(name, source.groups + 1)] } :
        Parser Unit) := by
    rintro context source source' twins _ _ _ _ ⟨⟩ ⟨⟩
    exact ⟨trivial, twins.rest, twins.groups, by simp only [twins.groups, twins.names]⟩
  exact noted.bind fun _ _ _ => capturing inner flags

theorem lookBehind (flags : Flags) (negative : Bool) :
    Tracks anchors (Like anchors) (Parser.lookBehind alternatives flags negative)
      (Parser.lookBehind alternatives' flags negative) := by
  refine (body inner flags).bind fun expr other _ => guarded fun _ _ => .pure ?_
  exact .of_plain (fun kind => (begins_lookBehind kind negative expr).1)
    (begins_lookBehind (fun _ => true) negative expr).2 _

theorem options (flags : Flags) :
    Tracks anchors (LikeItem anchors) (Parser.options alternatives flags)
      (Parser.options alternatives' flags) := by
  refine (take fun _ _ disabled => disabled.readFlags true flags).bind ?_
  rintro changed _ rfl
  refine next_bind (fun _ _ => rfl) fun c _ => ?_
  split
  · exact .pure (.flags changed)
  · exact (body inner changed).map fun _ _ => .expr
  · exact failure_left

theorem choices (flags : Flags) (isCheck : Bool) {test test' : Expr}
    (like : isCheck = true → Like anchors test test') :
    Tracks anchors (Like anchors) (Parser.choices alternatives flags isCheck test)
      (Parser.choices alternatives' flags isCheck test') := by
  refine text_bind fun context source source' twins => ?_
  have close := twins.rest.head? (c := ')') (by decide) (by decide)
  have bar := twins.rest.head? (c := '|') (by decide) (by decide)
  simp only [close, bar]
  split
  · refine guarded (fun check _ => (expect (by decide)).bind fun _ _ _ => .pure (like ?_)) context
      source source' twins
    simpa using check
  · split
    · exact ((expect (by decide)).bind fun _ _ _ => (body inner flags).map fun _ _ _ =>
        .of_plain (fun _ => rfl) rfl _) context source source' twins
    · refine (body inner flags).bind (fun yes yes' _ => ?_) context source source' twins
      split
      · split
        · exact .pure (.of_plain (fun _ => rfl) rfl _)
        · exact .pure (.of_plain (fun _ => rfl) rfl _)
      · split
        · exact .pure (.of_plain (fun _ => rfl) rfl _)
        · exact .pure (.of_plain (fun _ => rfl) rfl _)

omit inner in
theorem captureTest (twins : Twins anchors source source') {quoted : Bool}
    (front : quoted = true → source.rest.head? = some '<' ∨ source.rest.head? = some '\'') :
    Follows anchors (fun test _ => ∃ groups, test = .captured groups)
      (Parser.captureTest quoted context source) (Parser.captureTest quoted context source') := by
  have test (target : Parser.Target) :
      Tracks anchors (fun test _ => ∃ groups, test = Expr.captured groups)
        (do return Expr.captured (← Parser.referenced target))
        (do return Expr.captured (← Parser.referenced target)) :=
    (referenced target).map (S := fun test (_ : Expr) => ∃ groups, test = Expr.captured groups)
      fun groups _ _ => ⟨groups, rfl⟩
  cases quoted with
  | true =>
    obtain ⟨d, front, mark⟩ : ∃ d, source.rest.head? = some d ∧ (d = '<' ∨ d = '\'') := by
      rcases front rfl with front | front
      · exact ⟨_, front, .inl rfl⟩
      · exact ⟨_, front, .inr rfl⟩
    have plain : d ≠ '\\' := by
      rcases mark with rfl | rfl <;> decide
    refine (next twins front plain).bind fun _ _ marks => ?_
    rw [marks.1, marks.2]
    refine (readTarget (.closing mark)).bind ?_
    rintro target _ rfl
    exact (expect (by decide)).bind fun _ _ _ => test target
  | false =>
    refine ((readTarget (.inr (.inr rfl))).bind ?_) context source source' twins
    rintro target _ rfl
    exact test target

theorem conditional (flags : Flags) :
    Tracks anchors (Like anchors) (Parser.conditional alternatives flags)
      (Parser.conditional alternatives' flags) := by
  refine text_bind fun context source source' twins => ?_
  have angle := twins.rest.head? (c := '<') (by decide) (by decide)
  have quote := twins.rest.head? (c := '\'') (by decide) (by decide)
  have number : source'.rest.head?.any (fun c => isAsciiDigit c || c = '-' || c = '+') =
      source.rest.head?.any (fun c => isAsciiDigit c || c = '-' || c = '+') := by
    have rest := twins.rest
    generalize source.rest = text at rest
    generalize source'.rest = other at rest
    cases rest with
    | nil | lone | plain | escape | anchor => rfl
  have quoted : (source'.rest.head? == some '<' || source'.rest.head? == some '\'') =
      (source.rest.head? == some '<' || source.rest.head? == some '\'') := by
    rw [Bool.eq_iff_iff]
    simp only [Bool.or_eq_true, beq_iff_eq, angle, quote]
  simp only [quoted, number]
  split
  · refine (captureTest twins fun marked => by simpa using marked).bind ?_
    rintro _ other ⟨groups, rfl⟩
    exact choices inner flags true fun _ => .of_plain (fun _ => rfl) rfl other
  · exact ((body inner flags).bind fun _ _ _ => choices inner flags false nofun) context source
      source' twins

theorem angled (flags : Flags) :
    Tracks anchors (Like anchors) (Parser.angled alternatives flags)
      (Parser.angled alternatives' flags) := by
  refine text_bind fun context source source' twins => ?_
  simp only [twins.rest.head? (c := '=') (by decide) (by decide),
    twins.rest.head? (c := '!') (by decide) (by decide)]
  split
  · exact ((expect (by decide)).bind fun _ _ _ => lookBehind inner flags false) context source
      source' twins
  · split
    · exact ((expect (by decide)).bind fun _ _ _ => lookBehind inner flags true) context source
        source' twins
    · exact named inner flags (.inl rfl) context source source' twins

theorem marked (flags : Flags) :
    Tracks anchors (LikeItem anchors) (Parser.marked alternatives flags)
      (Parser.marked alternatives' flags) := by
  refine next_bind (fun context source => rfl) fun c plain => ?_
  split
  · exact (body inner flags).map fun _ _ => .expr
  · exact (body inner flags).map fun _ _ like => .expr (like.look false)
  · exact (body inner flags).map fun _ _ _ => .expr (.of_plain (fun _ => rfl) rfl _)
  · exact (body inner flags).map fun _ _ like => .expr like.atomic
  · refine text_bind fun context source source' twins => ?_
    exact (guarded fun _ _ =>
      (body inner flags).map fun _ _ _ => .expr (.of_plain (fun _ => rfl) rfl _))
      context source source' twins
  · exact (named inner flags (.inr (.inl rfl))).map fun _ _ => .expr
  · exact (conditional inner flags).map fun _ _ => .expr
  · exact (angled inner flags).map fun _ _ => .expr
  · refine guarded fun _ _ => text_bind fun context source source' twins => ?_
    exact ((setText (.plain plain twins.rest)).bind fun _ _ _ => options inner flags) context
      source source' twins

theorem group (flags : Flags) :
    Tracks anchors (LikeItem anchors) (Parser.group alternatives flags)
      (Parser.group alternatives' flags) := by
  refine text_bind fun context source source' twins => ?_
  simp only [twins.rest.head? (c := '?') (by decide) (by decide),
    twins.rest.head? (c := '*') (by decide) (by decide)]
  split
  · exact ((expect (by decide)).bind fun _ _ _ => marked inner flags) context source source' twins
  · split
    · exact .failure_left
    · refine read_bind (fun context => ?_) context source source' twins
      split
      · exact (capturing inner flags).map fun _ _ => .expr
      · exact (body inner flags).map fun _ _ => .expr

omit inner in
theorem bracket (flags : Flags) :
    Tracks anchors (Like anchors) (Parser.bracket flags) (Parser.bracket flags) := by
  refine text_bind fun context source source' twins => ?_
  have readings := twins.rest.readBracket flags (source.rest.length + 1) (source'.rest.length + 1)
  cases found : Bracket.read? flags (source.rest.length + 1) source.rest with
  | none => exact .failure_left
  | some reading =>
    cases found' : Bracket.read? flags (source'.rest.length + 1) source'.rest with
    | none => exact .failure_right
    | some reading' =>
      have plain (kind : Lead → Bool) := begins_bracketExpr kind flags reading
      exact ((setText (readings _ _ found found')).bind fun _ _ _ =>
        .pure (.of_plain (fun kind => (plain kind).1) (plain fun _ => true).2 _)) context source
          source' twins

theorem atom (flags : Flags) :
    Tracks anchors (LikeItem anchors) (Parser.atom alternatives flags)
      (Parser.atom alternatives' flags) := by
  refine text_bind fun context source source' twins => ?_
  have quantifiers := twins.rest.quantifier
  generalize Quantifier.read source.rest = found at quantifiers
  generalize Quantifier.read source'.rest = found' at quantifiers
  cases quantifiers with
  | unread | found => exact .failure_left
  | absent =>
    have rest := twins.rest
    generalize front : source.rest = text at rest
    generalize front' : source'.rest = other at rest
    cases rest with
    | nil => exact .next_nil front
    | lone =>
      exact .next_cons front front' (.bind (.next_nil rfl) fun _ _ like => .pure (.expr like))
    | @escape c text other kept left =>
      exact .next_cons front front'
        ((escape flags kept left twins).bind fun _ _ like => .pure (.expr like))
    | @anchor c text other disables left =>
      refine .next_cons front front' ?_
      change Follows _ _ _ ((do
        return Item.expr (← (Pure.pure (Parser.pointExpr flags Anchors.placeholder.toNat) :
          Parser Expr)) : Parser Item) context _)
      exact (disabled flags disables left twins).bind fun _ _ like => .pure (.expr like)
    | @plain c text other plain left =>
      refine (next twins (front ▸ rfl) plain).bind fun d d' same => ?_
      rw [same.1, same.2]
      split
      · exact .pure (.expr (.of_plain (fun _ => rfl) rfl _))
      · exact .pure (.expr (.of_plain (fun _ => rfl) rfl _))
      · exact .pure (.expr (.of_plain (fun _ => rfl) rfl _))
      · exact absurd rfl plain
      · exact group inner flags
      · exact (bracket flags).map fun _ _ => .expr
      · exact .pure (.expr (point ..))

omit inner in
theorem quantified (flags : Flags) {expr other : Expr} (like : Like anchors expr other)
    (steps more : Nat) :
    Tracks anchors (Like anchors) (Parser.quantified flags expr steps)
      (Parser.quantified flags other more) := by
  induction steps generalizing more expr other with
  | zero => exact failure_left
  | succ steps ih =>
    cases more with
    | zero => exact failure_right
    | succ more =>
      refine (skip flags).bind fun _ _ _ => text_bind fun context source source' twins => ?_
      have quantifiers := twins.rest.quantifier
      generalize Quantifier.read source.rest = found at quantifiers
      generalize Quantifier.read source'.rest = found' at quantifiers
      cases quantifiers with
      | unread => exact .failure_left
      | absent => exact .pure context like twins
      | @found first second same =>
        obtain ⟨quantifier, rest⟩ := first
        obtain ⟨_, rest'⟩ := second
        obtain ⟨rfl, left⟩ := same
        exact ((setText left).bind fun _ _ _ => ih (like.quantified quantifier) more) context source
          source' twins

theorem branch (flags : Flags) (steps more : Nat) :
    Tracks anchors (Like anchors) (Parser.branch alternatives flags steps)
      (Parser.branch alternatives' flags more) := by
  induction steps generalizing more with
  | zero => exact failure_left
  | succ steps ih =>
    cases more with
    | zero => exact failure_right
    | succ more =>
      refine (skip flags).bind fun _ _ _ => text_bind fun context source source' twins => ?_
      have close := twins.rest.head? (c := ')') (by decide) (by decide)
      have bar := twins.rest.head? (c := '|') (by decide) (by decide)
      have nothing : source'.rest.head? = none ↔ source.rest.head? = none := by
        rw [List.head?_eq_none_iff, List.head?_eq_none_iff, twins.rest.ne_nil]
      simp only [close, bar, nothing]
      split
      · exact .pure context ⟨fun _ => nofun, fun _ => rfl⟩ twins
      · refine ((atom inner flags).bind fun item item' same => ?_) context source source' twins
        cases same with
        | flags changed => exact inner changed
        | expr like =>
          refine text_bind fun context source source' twins => ?_
          exact ((quantified flags like _ _).bind fun _ _ like =>
            (ih more).map fun _ _ => like.append) context source source' twins

end Groups

theorem alternatives (flags : Flags) (steps more : Nat) :
    Tracks anchors (Like anchors) (Parser.alternatives steps flags)
      (Parser.alternatives more flags) := by
  induction steps generalizing more flags with
  | zero => exact failure_left
  | succ steps ih =>
    cases more with
    | zero => exact failure_right
    | succ more =>
      refine text_bind fun context source source' twins => ?_
      refine (branch (fun flags => ih flags more) flags _ _).bind (fun first first' like => ?_)
        context source source' twins
      refine text_bind fun context source source' twins => ?_
      simp only [twins.rest.head? (c := '|') (by decide) (by decide)]
      split
      · exact ((expect (by decide)).bind fun _ _ _ => (ih flags more).map fun _ _ => like.alt)
          context source source' twins
      · exact .pure context like twins

/-- The two patterns as a whole. -/
theorem pattern : Tracks anchors (Like anchors) Parser.pattern Parser.pattern := by
  refine text_bind fun context source source' twins => ?_
  have whole (steps more : Nat) : Tracks anchors (Like anchors)
      (Parser.alternatives steps {}) (Parser.alternatives more {}) := alternatives {} steps more
  refine (whole _ _).bind (fun _ _ like => ?_) context source source' twins
  refine text_bind fun context source source' twins => ?_
  split
  · exact nofun
  · split
    · exact fun _ _ _ _ _ => nofun
    · exact .pure context like twins

end Tracks

end Combinators

end Regex

/-! ## Compiled patterns -/

namespace Regex

/-- The expression that the text of a pattern is read as, whether or not that can be compiled. -/
def reading? (pattern : String) : Option Expr := do
  let source : Source := { rest := pattern.toList }
  let (_, first) ← (Parser.pattern.run {}).run source
  let (expr, _) ← (Parser.pattern.run { names := some first.names }).run source
  return expr

variable {anchors : Anchors} {pattern : String} {regex : Regex} {expr : Expr}

/-- A pattern that can be compiled is read as the expression that it is compiled to. -/
theorem reading?_of_compile? (compiled : compile? true pattern = some regex) :
    reading? pattern = some regex.expr := by
  unfold compile? at compiled
  obtain ⟨⟨_, first⟩, names, compiled⟩ := Option.bind_eq_some_iff.mp compiled
  obtain ⟨⟨expr, last⟩, again, compiled⟩ := Option.bind_eq_some_iff.mp compiled
  dsimp only at compiled
  split at compiled
  · cases compiled
  · split at compiled
    · cases compiled
    · cases compiled
      exact Option.bind_eq_some_iff.mpr ⟨_, names, Option.bind_eq_some_iff.mpr ⟨_, again, rfl⟩⟩

theorem like_of_reading? {text : String} {other : Expr} (read : reading? pattern = some expr)
    (disabled : Disabled anchors pattern.toList text.toList) (again : reading? text = some other) :
    Like anchors expr other := by
  obtain ⟨⟨_, first⟩, names, read⟩ := Option.bind_eq_some_iff.mp read
  obtain ⟨⟨_, last⟩, whole, ⟨⟩⟩ := Option.bind_eq_some_iff.mp read
  obtain ⟨⟨_, first'⟩, names', again⟩ := Option.bind_eq_some_iff.mp again
  obtain ⟨⟨_, last'⟩, whole', ⟨⟩⟩ := Option.bind_eq_some_iff.mp again
  have twins : Twins anchors { rest := pattern.toList } { rest := text.toList } :=
    ⟨disabled, rfl, rfl⟩
  have once : Tracks anchors (Like anchors) Parser.pattern Parser.pattern := .pattern
  obtain ⟨-, ends⟩ := once _ _ _ twins _ _ _ _ names names'
  rw [ends.names] at whole'
  exact (once _ _ _ twins _ _ _ _ whole whole').1

/-- Whether each alternative of a pattern starts with a part of some kind. -/
def starts (kind : Lead → Bool) (pattern : String) : Bool :=
  (reading? pattern).any fun expr => expr.begins (Expr.leads kind)

/-- The library's own engine does what is relied on. -/
theorem startLaws_engine : engine.StartLaws starts where
  holds := by
    intro kind pattern regex text searchStart here captures begun compiled matched
    rw [starts, reading?_of_compile? compiled] at begun
    obtain ⟨last, run, -⟩ := Option.map_eq_some_iff.mp matched
    exact Expr.exists_lead_of_run begun run
  disabled := by
    intro anchors kind after pattern other regex begun disabled compiled becomes
    obtain ⟨expr, read, begun⟩ := Option.any_eq_true _ _ |>.mp begun
    rw [starts, reading?_of_compile? compiled]
    exact (like_of_reading? read disabled (reading?_of_compile? compiled)).begins becomes begun
  literal := by decide +kernel

end Regex

end ScopeTokenizer
