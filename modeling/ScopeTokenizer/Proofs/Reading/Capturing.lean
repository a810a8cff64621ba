import Mathlib.Data.List.TakeWhile
import ScopeTokenizer.Proofs.Pattern.Literal
import ScopeTokenizer.Proofs.Reading.Yielding
import ScopeTokenizer.Proofs.Tokens.Labels

/-!
# Captures inside captures

The groups of a match may lie inside each other. What is read with them cuts the text of the match
so that every character is in the scopes of all captures around it, from the first group to the
last. The captures that are open at a time are kept in a list, the innermost first. That this list,
together with the groups still to come, says in which scopes each character is to lie is the
invariant of the loop over the groups.
-/

namespace ScopeTokenizer

open Grammar Pattern Style

variable {engine : Engine} {α β : Type}

/-! ## Scopes of captures -/

/-- The second span lies inside the first one, or begins behind it. -/
def Precedes (first second : Span) : Prop :=
  (first.1 ≤ second.1 ∧ second.2 ≤ first.2) ∨ first.2 ≤ second.1

/-- Captures whose spans are nested in the order of their groups. -/
def Nested (captures : Captures) : Prop :=
  captures.Pairwise fun first second => ∀ outer ∈ first, ∀ inner ∈ second, Precedes outer inner

/-- The scope that a capture gives to its text, if that is not read again. -/
def captureName? (table : RuleTable) (line : Line) (captures : Captures) (id : RuleId) :
    Option String :=
  (table.rule? id).bind fun rule =>
    match rule.kind with
    | .capture _ none => rule.nameFor line captures
    | _ => none

/-- The scopes that a group of a match gives to a position. -/
def groupScopes (table : RuleTable) (line : Line) (captures : Captures) (position : Nat) :
    Option RuleId × Option Span → List String
  | (some id, some span) =>
    if span.1 ≤ position ∧ position < span.2 then
      ((captureName? table line captures id).map ScopePath.scopesOf).getD []
    else []
  | _ => []

/-- The scopes that some groups of a match give to a position, those of the first group first. -/
def scopesAt (table : RuleTable) (line : Line) (captures : Captures)
    (groups : List (Option RuleId × Option Span)) (position : Nat) : List String :=
  groups.flatMap (groupScopes table line captures position)

theorem scopesAt_cons (table : RuleTable) (line : Line) (captures : Captures)
    (group : Option RuleId × Option Span) (groups : List (Option RuleId × Option Span))
    (position : Nat) :
    scopesAt table line captures (group :: groups) position =
      groupScopes table line captures position group ++
        scopesAt table line captures groups position := rfl

namespace Reading

/-! ## Readings that label positions -/

/-- Reading from the position `start` on gives an answer, keeps the rules, and adds tokens with the
scopes that `label` gives. Then `after` holds of the answer and of the position reached. -/
def Emits (library : Library) (table : RuleTable) (label : Nat → List String) (start : Nat)
    (reading : Reading engine α) (after : α → Nat → Prop) : Prop :=
  ∀ p, p.tokenizer.compilation.table = table → p.tokens.styled = false → p.tokens.stop = start →
    ∃ a q, reading library p = some (a, q) ∧ q.tokenizer.compilation.table = table ∧
      p.tokens.Labels label q.tokens ∧ after a q.tokens.stop

namespace Emits

variable {library : Library} {table : RuleTable} {label : Nat → List String} {start : Nat}
  {reading : Reading engine α} {after : α → Nat → Prop}

theorem bind {next : α → Reading engine β} {last : β → Nat → Prop}
    (emits : Emits library table label start reading after)
    (rest : ∀ a reached, after a reached → Emits library table label reached (next a) last) :
    Emits library table label start (reading >>= next) last := by
  intro p rules plain stop
  obtain ⟨a, q, run, rules', labels, between⟩ := emits p rules plain stop
  obtain ⟨b, r, run', rules'', labels', final⟩ := rest a _ between q rules' labels.plain rfl
  exact ⟨b, r, by rw [run_bind, run]; exact run', rules'', labels.trans labels', final⟩

theorem pure {a : α} (given : after a start) :
    Emits library table label start (Pure.pure a : Reading engine α) after := by
  rintro p rules plain rfl
  exact ⟨a, p, rfl, rules, .refl plain, given⟩

theorem post {after' : α → Nat → Prop} (emits : Emits library table label start reading after)
    (wanted : ∀ a reached, after a reached → after' a reached) :
    Emits library table label start reading after' := by
  intro p rules plain stop
  obtain ⟨a, q, run, rules', labels, between⟩ := emits p rules plain stop
  exact ⟨a, q, run, rules', labels, wanted a _ between⟩

theorem cut {path : ScopePath} {stop : Nat}
    (named : ∀ position, start ≤ position → position < stop → path.names = label position) :
    Emits library table label start (Reading.cut path stop : Reading engine Unit)
      fun _ reached => reached = max start stop := by
  rintro p rules plain rfl
  exact ⟨(), _, rfl, rules, .add plain named, LineTokens.stop_add _ _ _⟩

theorem rule? (id : RuleId) :
    Emits library table label start (Reading.rule? id : Reading engine _)
      fun rule reached => rule = table.rule? id ∧ reached = start := by
  rintro p rfl plain rfl
  exact ⟨_, p, rfl, rfl, .refl plain, rfl, rfl⟩

theorem enter (path : ScopePath) (scopes : Option String) :
    Emits library table label start (Reading.enter path scopes : Reading engine _)
      fun inner reached =>
        inner.names = path.names ++ (scopes.map ScopePath.scopesOf).getD [] ∧ reached = start := by
  rintro p rules plain rfl
  obtain ⟨styles, entered⟩ := p.tokenizer.exists_styles_enterAll path scopes
  have kept := congrArg (·.compilation.table) entered
  have names := p.tokenizer.names_enterAll path scopes
  exact ⟨_, _, rfl, kept.trans rules, .refl plain, names, rfl⟩

end Emits

/-! ## Open captures -/

/-- The captures that are still open at a position. -/
def unclosed (position : Nat) (opened : List OpenCapture) : List OpenCapture :=
  opened.dropWhile fun capture => capture.stop ≤ position

theorem unclosed_of_le {position : Nat} {capture : OpenCapture} {others : List OpenCapture}
    (closed : capture.stop ≤ position) :
    unclosed position (capture :: others) = unclosed position others := by
  simp [unclosed, closed]

theorem unclosed_of_lt {position : Nat} {capture : OpenCapture} {others : List OpenCapture}
    (open' : position < capture.stop) :
    unclosed position (capture :: others) = capture :: others := by
  simp [unclosed, open']

theorem unclosed_unclosed {first second : Nat} (le : first ≤ second) (opened : List OpenCapture) :
    unclosed second (unclosed first opened) = unclosed second opened := by
  induction opened with
  | nil => rfl
  | cons capture others ih =>
    by_cases closed : capture.stop ≤ first
    · rw [unclosed_of_le closed, unclosed_of_le (closed.trans le), ih]
    · rw [unclosed_of_lt (Nat.lt_of_not_le closed)]

theorem unclosed_eq_nil {position : Nat} {opened : List OpenCapture}
    (closed : ∀ capture ∈ opened, capture.stop ≤ position) : unclosed position opened = [] := by
  rw [unclosed, List.dropWhile_eq_nil_iff]
  exact fun capture member => decide_eq_true (closed capture member)

theorem unclosed_eq_self {position : Nat} {opened : List OpenCapture}
    (open' : ∀ capture ∈ opened, position < capture.stop) : unclosed position opened = opened := by
  cases opened with
  | nil => rfl
  | cons first others => exact unclosed_of_lt (open' first (.head _))

theorem lt_stop_of_mem_unclosed {position : Nat} {opened : List OpenCapture}
    (sorted : opened.Pairwise fun inner outer => inner.stop ≤ outer.stop) {capture : OpenCapture}
    (member : capture ∈ unclosed position opened) : position < capture.stop := by
  induction opened with
  | nil => cases member
  | cons first others ih =>
    obtain ⟨ends, sorted⟩ := List.pairwise_cons.mp sorted
    by_cases closed : first.stop ≤ position
    · rw [unclosed_of_le closed] at member
      exact ih sorted member
    · rw [unclosed_of_lt (Nat.lt_of_not_le closed)] at member
      rcases List.mem_cons.mp member with rfl | member
      · exact Nat.lt_of_not_le closed
      · exact (Nat.lt_of_not_le closed).trans_le (ends capture member)

theorem mem_of_mem_unclosed {position : Nat} {opened : List OpenCapture} {capture : OpenCapture}
    (member : capture ∈ unclosed position opened) : capture ∈ opened :=
  (List.dropWhile_sublist _).subset member

/-- Closing captures at a position keeps those that end behind it. -/
theorem emits_closeUpTo {library : Library} {table : RuleTable} {label : Nat → List String}
    {start : Nat} {scopes : ScopePath} {opened : List OpenCapture} {position : Nat}
    (named : ∀ c, start ≤ c → c < position →
      (innermost scopes (unclosed c opened)).names = label c) :
    Emits library table label start (closeUpTo position opened : Reading engine _)
      fun left reached => left = unclosed position opened ∧ reached ≤ max start position ∧
        ∀ c, reached ≤ c → c < position → (innermost scopes left).names = label c := by
  induction opened generalizing start with
  | nil => exact .pure ⟨rfl, Nat.le_max_left _ _, named⟩
  | cons first others ih =>
    unfold closeUpTo
    split
    case isTrue closed =>
      refine .bind (.cut ?_) ?_
      · intro c from' below
        rw [← named c from' (by omega), unclosed_of_lt below]
        rfl
      · rintro _ _ rfl
        refine (ih fun c from' below => ?_).post ?_
        · rw [← named c (by omega) below, unclosed_of_le (by omega)]
        · rintro left reached ⟨rfl, le, labels⟩
          exact ⟨(unclosed_of_le closed).symm, by omega, labels⟩
    case isFalse beyond =>
      have beyond := Nat.lt_of_not_le beyond
      refine .pure ⟨(unclosed_of_lt beyond).symm, Nat.le_max_left _ _, fun c from' below => ?_⟩
      rw [← named c from' below, unclosed_of_lt (by omega)]

theorem closeAll_cons (first : OpenCapture) (others : List OpenCapture) :
    (closeAll (first :: others) : Reading engine Unit) =
      cut first.scopes first.stop >>= fun _ => closeAll others := rfl

/-- Closing all captures is closing those that end at the end of the match or before it. -/
theorem closeAll_eq {stop : Nat} {opened : List OpenCapture}
    (closed : ∀ capture ∈ opened, capture.stop ≤ stop) :
    (closeAll opened : Reading engine Unit) = closeUpTo stop opened >>= fun _ => pure () := by
  induction opened with
  | nil => rfl
  | cons first others ih =>
    rw [closeAll_cons, ih fun capture member => closed capture (.tail _ member), closeUpTo,
      if_pos (closed first (.head _))]
    rfl

/-! ## The loop over the groups -/

section Groups

variable (table : RuleTable) (line : Line) (captures : Captures) (label : Nat → List String)
  (scopes : ScopePath) (stop : Nat)

/-- What holds between two groups, when reading has come to a position. The captures that are open
and the groups still to come give each position behind it, up to the end of the match, its
scopes. -/
structure Pending (opened : List OpenCapture) (groups : List (Option RuleId × Option Span))
    (start : Nat) : Prop where
  before : start ≤ stop
  /-- The innermost captures end first. -/
  sorted : opened.Pairwise fun inner outer => inner.stop ≤ outer.stop
  below : ∀ capture ∈ opened, capture.stop ≤ stop
  within : ∀ group ∈ groups, ∀ span ∈ group.2, span.1 ≤ span.2 ∧ span.2 ≤ stop
  nested : groups.Pairwise fun first second =>
    ∀ outer ∈ first.2, ∀ inner ∈ second.2, Precedes outer inner
  /-- No open capture ends inside a group to come. -/
  apart : ∀ capture ∈ opened, ∀ group ∈ groups, ∀ span ∈ group.2, span.1 < span.2 →
    capture.stop ≤ span.1 ∨ span.2 ≤ capture.stop
  ahead : ∀ group ∈ groups, ∀ span ∈ group.2, span.1 < span.2 → start ≤ span.1
  labels : ∀ position, start ≤ position → position < stop →
    (innermost scopes (unclosed position opened)).names ++
      scopesAt table line captures groups position = label position

end Groups

section Loop

variable {table : RuleTable} {line : Line} {captures : Captures} {label : Nat → List String}
  {scopes : ScopePath} {stop start : Nat} {opened : List OpenCapture}
  {group : Option RuleId × Option Span} {groups : List (Option RuleId × Option Span)}

/-- A group that gives no position a scope may be left out. -/
theorem Pending.tail
    (pending : Pending table line captures label scopes stop opened (group :: groups) start)
    (silent : ∀ position, groupScopes table line captures position group = []) :
    Pending table line captures label scopes stop opened groups start where
  before := pending.before
  sorted := pending.sorted
  below := pending.below
  within other member := pending.within other (.tail _ member)
  nested := pending.nested.tail
  apart capture opened other member := pending.apart capture opened other (.tail _ member)
  ahead other member := pending.ahead other (.tail _ member)
  labels position from' below' := by
    rw [← pending.labels position from' below', scopesAt_cons, silent, List.nil_append]

section Group

variable {id : RuleId} {span : Span}
  (pending : Pending table line captures label scopes stop opened ((some id, some span) :: groups)
    start)
  (nonempty : span.1 < span.2)

include pending nonempty

omit nonempty in
theorem Pending.start_le_stop : span.1 ≤ stop :=
  have ⟨ordered, inside⟩ := pending.within _ (.head _) span rfl
  ordered.trans inside

/-- Nothing of the groups to come lies before a group that is not empty. -/
theorem Pending.le_of_mem {other : Option RuleId × Option Span} (member : other ∈ groups)
    {later : Span} (captured : later ∈ other.2) : span.1 ≤ later.1 := by
  have nested := (List.pairwise_cons.mp pending.nested).1 other member span rfl later captured
  rcases nested with ⟨le, -⟩ | behind
  · exact le
  · omega

/-- Up to a group, the innermost capture that is open there gives all scopes. -/
theorem Pending.labels_before {position : Nat} (from' : start ≤ position)
    (before : position < span.1) :
    (innermost scopes (unclosed position opened)).names = label position := by
  have inside := (pending.within _ (.head _) span rfl).2
  have none : scopesAt table line captures ((some id, some span) :: groups) position = [] := by
    rw [scopesAt, List.flatMap_eq_nil_iff]
    rintro ⟨number, captured⟩ member
    rcases List.mem_cons.mp member with equal | member
    · cases equal
      exact if_neg (by omega)
    · cases number with
      | none => rfl
      | some number =>
        cases captured with
        | none => rfl
        | some later =>
          have le := pending.le_of_mem nonempty member rfl
          exact if_neg (by omega)
  have labels := pending.labels position from' (by omega)
  rwa [none, List.append_nil] at labels

/-- The captures that stay open at a group end behind it. -/
theorem Pending.le_stop_of_mem {capture : OpenCapture} (member : capture ∈ unclosed span.1 opened) :
    span.2 ≤ capture.stop := by
  have beyond := lt_stop_of_mem_unclosed pending.sorted member
  have apart := pending.apart capture (mem_of_mem_unclosed member) _ (.head _) span rfl nonempty
  rcases apart with le | le
  · omega
  · exact le

/-- Past the start of a group whose rule has no name. -/
theorem Pending.pass (unnamed : captureName? table line captures id = none) :
    Pending table line captures label scopes stop (unclosed span.1 opened) groups span.1 where
  before := pending.start_le_stop
  sorted := pending.sorted.sublist (List.dropWhile_sublist _)
  below capture member := pending.below capture (mem_of_mem_unclosed member)
  within other member := pending.within other (.tail _ member)
  nested := pending.nested.tail
  apart capture member other among :=
    pending.apart capture (mem_of_mem_unclosed member) other (.tail _ among)
  ahead other member later captured _ := pending.le_of_mem nonempty member captured
  labels position from' below' := by
    have ahead := pending.ahead _ (.head _) span rfl nonempty
    rw [← pending.labels position (by omega) below', unclosed_unclosed from', scopesAt_cons]
    simp [groupScopes, unnamed]

/-- Past the start of a group whose rule has a name. -/
theorem Pending.push {name : String} {inner : ScopePath}
    (named : captureName? table line captures id = some name)
    (entered : inner.names =
      (innermost scopes (unclosed span.1 opened)).names ++ ScopePath.scopesOf name) :
    Pending table line captures label scopes stop (⟨inner, span.2⟩ :: unclosed span.1 opened)
      groups span.1 where
  before := pending.start_le_stop
  sorted := by
    refine List.pairwise_cons.mpr ⟨?_, pending.sorted.sublist (List.dropWhile_sublist _)⟩
    exact fun capture member => pending.le_stop_of_mem nonempty member
  below capture member := by
    rcases List.mem_cons.mp member with rfl | member
    · exact (pending.within _ (.head _) span rfl).2
    · exact pending.below capture (mem_of_mem_unclosed member)
  within other member := pending.within other (.tail _ member)
  nested := pending.nested.tail
  apart capture member other among later captured proper := by
    rcases List.mem_cons.mp member with rfl | member
    · have nested := (List.pairwise_cons.mp pending.nested).1 other among span rfl later captured
      exact nested.symm.imp (fun behind => behind) And.right
    · exact pending.apart capture (mem_of_mem_unclosed member) other (.tail _ among) later captured
        proper
  ahead other member later captured _ := pending.le_of_mem nonempty member captured
  labels position from' below' := by
    have ahead := pending.ahead _ (.head _) span rfl nonempty
    rw [← pending.labels position (by omega) below', scopesAt_cons, ← List.append_assoc]
    congr 1
    by_cases inside : position < span.2
    · -- The captures around the group are open as long as it is.
      have around : ∀ capture ∈ unclosed span.1 opened, position < capture.stop :=
        fun capture member => inside.trans_le (pending.le_stop_of_mem nonempty member)
      rw [unclosed_of_lt inside, ← unclosed_unclosed from', unclosed_eq_self around]
      simp [groupScopes, named, innermost, entered, from', inside]
    · rw [unclosed_of_le (Nat.le_of_not_lt inside), unclosed_unclosed from']
      simp [groupScopes, inside]

end Group

variable {library : Library} {reread : Line → Cursor → Reading engine Nesting} {cursor : Cursor}

theorem emits_openCapture {id : RuleId} {span : Span} (nonempty : span.1 < span.2)
    (once : ∀ rule, table.rule? id = some rule → ∀ contentName inner,
      rule.kind ≠ .capture contentName (some inner))
    (pending : Pending table line captures label cursor.scopes stop opened
      ((some id, some span) :: groups) start) :
    Emits library table label start (openCapture reread line cursor captures opened id span)
      (Pending table line captures label cursor.scopes stop · groups) := by
  unfold openCapture
  have ahead := pending.ahead _ (.head _) span rfl nonempty
  refine .bind (emits_closeUpTo fun c => pending.labels_before nonempty) ?_
  rintro _ reached ⟨rfl, le, labels⟩
  refine .bind (.cut labels) ?_
  rintro _ _ rfl
  rw [Nat.max_eq_right (by omega)]
  refine .bind (.rule? id) ?_
  rintro _ _ ⟨rfl, rfl⟩
  cases found : table.rule? id with
  | none => exact .pure (pending.pass nonempty (by simp [captureName?, found]))
  | some rule =>
    dsimp only
    split
    case h_1 contentName inner kind => exact absurd kind (once rule found contentName inner)
    case h_2 contentName kind =>
      split
      case h_1 name named =>
        refine .bind (.enter _ _) ?_
        rintro inner _ ⟨entered, rfl⟩
        exact .pure (pending.push nonempty (by simp [captureName?, found, kind, named]) entered)
      case h_2 unnamed =>
        exact .pure (pending.pass nonempty (by simp [captureName?, found, kind, unnamed]))
    case h_3 uncaptured =>
      refine .pure (pending.pass nonempty ?_)
      rw [captureName?, found, Option.bind_some]
      split
      · rename_i kind
        exact absurd kind (uncaptured _)
      · rfl

theorem emits_openCaptures
    (once : ∀ group ∈ groups, ∀ id ∈ group.1, ∀ rule, table.rule? id = some rule →
      ∀ contentName inner, rule.kind ≠ .capture contentName (some inner))
    (pending : Pending table line captures label cursor.scopes stop opened groups start) :
    Emits library table label start
      (openCaptures reread line cursor captures stop groups opened)
      (Pending table line captures label cursor.scopes stop · []) := by
  induction groups generalizing opened start with
  | nil => exact .pure pending
  | cons group others ih =>
    have once' := fun group member => once group (.tail _ member)
    have within := pending.within group (.head _)
    obtain ⟨id, span⟩ := group
    cases id with
    | none => simpa only [openCaptures] using ih once' (pending.tail fun _ => rfl)
    | some id =>
      cases span with
      | none => simpa only [openCaptures] using ih once' (pending.tail fun _ => rfl)
      | some span =>
        obtain ⟨ordered, inside⟩ := within span rfl
        rw [openCaptures]
        split
        case isTrue empty =>
          refine ih once' (pending.tail fun position => if_neg ?_)
          omega
        case isFalse nonempty =>
          rw [if_neg (Nat.not_lt.mpr (ordered.trans inside))]
          have nonempty : span.1 < span.2 := by omega
          refine .bind (emits_openCapture nonempty (once _ (.head _) id rfl) pending) ?_
          exact fun opened reached pending => ih once' pending

theorem emits_readCaptures {rules : List (Option RuleId)}
    (whole : captures.head? = some (some (start, stop)))
    (once : ∀ id, some id ∈ rules → ∀ rule, table.rule? id = some rule →
      ∀ contentName inner, rule.kind ≠ .capture contentName (some inner))
    (pending : Pending table line captures label cursor.scopes stop [] (rules.zip captures) start) :
    Emits library table label start
      (do
        readCaptures reread line cursor captures rules
        cut cursor.scopes stop)
      fun _ reached => reached = stop := by
  obtain ⟨rest, rfl⟩ := List.head?_eq_some_iff.mp whole
  have once : ∀ group ∈ rules.zip (some (start, stop) :: rest), ∀ id ∈ group.1, ∀ rule,
      table.rule? id = some rule → ∀ contentName inner,
        rule.kind ≠ .capture contentName (some inner) := by
    intro group member id number
    refine once id ?_
    rw [← Option.mem_def.mp number]
    exact (List.of_mem_zip member).1
  have read : Emits library table label start
      (readCaptures reread line cursor (some (start, stop) :: rest) rules)
      fun _ reached => reached ≤ stop ∧
        ∀ c, reached ≤ c → c < stop → cursor.scopes.names = label c := by
    unfold readCaptures
    refine .bind (emits_openCaptures once pending) fun opened between pending => ?_
    rw [closeAll_eq pending.below]
    have labels : ∀ c, between ≤ c → c < stop →
        (innermost cursor.scopes (unclosed c opened)).names = label c := by
      intro c from' below
      rw [← pending.labels c from' below]
      exact (List.append_nil _).symm
    refine .bind (emits_closeUpTo labels) ?_
    rintro _ reached ⟨rfl, le, labels⟩
    rw [unclosed_eq_nil pending.below] at labels
    have before := pending.before
    exact .pure ⟨by omega, labels⟩
  refine .bind read fun _ reached ⟨le, labels⟩ => (Emits.cut labels).post ?_
  rintro _ _ rfl
  exact Nat.max_eq_right le

end Loop

theorem pairwise_zip {γ δ : Type} {R : δ → δ → Prop} {right : List δ} (pairwise : right.Pairwise R)
    (left : List γ) : (left.zip right).Pairwise fun first second => R first.2 second.2 := by
  induction pairwise generalizing left with
  | nil => simp
  | cons related _ ih =>
    cases left with
    | nil => exact .nil
    | cons head left =>
      exact .cons (fun other member => related _ (List.of_mem_zip member).2) (ih left)

/-- Every character of a match lies in one token, whose scopes are those around the match and those
of all captures around the character, from the first group to the last. -/
theorem nested_captures_label_text {library : Library}
    {reread : Line → Cursor → Reading engine Nesting} {line : Line} {cursor : Cursor}
    {captures : Captures} {rules : List (Option RuleId)} {start stop : Nat} (before : ScopePath)
    {p : Progress engine} (plain : p.tokens.styled = false) (reached : p.tokens.stop ≤ start)
    (whole : captures.head? = some (some (start, stop)))
    (inside : ∀ span, some span ∈ captures → start ≤ span.1 ∧ span.1 ≤ span.2 ∧ span.2 ≤ stop)
    (nested : Nested captures)
    (once : ∀ id, some id ∈ rules → ∀ rule, p.tokenizer.rule? id = some rule →
      ∀ contentName inner, rule.kind ≠ .capture contentName (some inner)) :
    ∃ q added,
      (do
        cut before start
        readCaptures reread line cursor captures rules
        cut cursor.scopes stop : Reading engine Unit) library p = some ((), q) ∧
      q.tokens.named.toList = p.tokens.named.toList ++ added ∧
      Tiles p.tokens.stop stop added ∧
      ∀ position, start ≤ position → position < stop →
        ∃ token ∈ added, token.start ≤ position ∧ position < token.stop ∧
          token.scopes = cursor.scopes.names ++
            scopesAt p.tokenizer.compilation.table line captures (rules.zip captures) position := by
  have mem : some (start, stop) ∈ captures := List.mem_of_mem_head? whole
  have ordered : start ≤ stop := (inside _ mem).2.1
  -- Up to the match each position is in the scopes before it.
  let label (position : Nat) : List String :=
    if position < start then before.names
    else cursor.scopes.names ++
      scopesAt p.tokenizer.compilation.table line captures (rules.zip captures) position
  have pending : Pending p.tokenizer.compilation.table line captures label cursor.scopes stop []
      (rules.zip captures) start := by
    have within : ∀ group ∈ rules.zip captures, ∀ span ∈ group.2,
        start ≤ span.1 ∧ span.1 ≤ span.2 ∧ span.2 ≤ stop := by
      intro group member span captured
      refine inside span ?_
      rw [← Option.mem_def.mp captured]
      exact (List.of_mem_zip member).2
    exact {
      before := ordered
      sorted := .nil
      below := by simp
      within := fun group member span captured => (within group member span captured).2
      nested := pairwise_zip nested rules
      apart := by simp
      ahead := fun group member span captured _ => (within group member span captured).1
      labels := fun position from' _ => (if_neg (Nat.not_lt.mpr from')).symm }
  have emits : Emits library p.tokenizer.compilation.table label p.tokens.stop
      (do
        cut before start
        readCaptures reread line cursor captures rules
        cut cursor.scopes stop : Reading engine Unit) fun _ reached => reached = stop := by
    refine .bind (.cut fun position _ below => (if_pos below).symm) ?_
    rintro _ _ rfl
    rw [Nat.max_eq_right reached]
    exact emits_readCaptures whole once pending
  obtain ⟨_, q, run, -, labels, rfl⟩ := emits p rfl plain rfl
  obtain ⟨added, named, tiles, labels⟩ := labels.added
  refine ⟨q, added, run, named, tiles, fun position from' below => ?_⟩
  obtain ⟨token, member, starts, ends⟩ := tiles.exists_covering (reached.trans from') below
  refine ⟨token, member, starts, ends, ?_⟩
  rw [labels token member position starts ends]
  exact if_neg (Nat.not_lt.mpr from')

/-- A grammar of one pattern with a group in a group. -/
def grouped : GrammarDef where
  scopeName := "source"
  patterns := [
    { matchPattern := some "((a)b)c"
      captures := [("0", { name := some "whole" }), ("1", { name := some "pair" }),
        ("2", { name := some "first" })] }]

/-- The rules of the groups of that pattern, if none reads its text again. -/
def groupedRules (tokenizer : Tokenizer Engine.literal) : Option (List (Option RuleId)) := do
  let .single matching := (← tokenizer.rule? 2).kind | none
  let plain (id : RuleId) : Bool :=
    (tokenizer.rule? id).all fun rule => rule.kind = .capture none none
  if (matching.captures.all fun id => id.all plain) then some matching.captures else none

theorem nested_captures_label_text_grouped : ∃ tokenizer rules,
    Tokenizer.ofTexts grouped = .ok tokenizer ∧ groupedRules tokenizer = some rules ∧
    ∃ q added,
      (do
        cut tokenizer.initial.top.contentScopes 0
        readCaptures (fun _ _ => failure) (Tokenizer.terminated "abc")
          { position := 0, firstLine := true, nesting := tokenizer.initial }
          [some (0, 3), some (0, 2), some (0, 1)] rules
        cut tokenizer.initial.top.contentScopes 3 : Reading Engine.literal Unit) {}
          { tokenizer, tokens := { styled := false } } = some ((), q) ∧
      q.tokens.named.toList = [] ++ added ∧ Tiles 0 3 added ∧
      ∀ position, 0 ≤ position → position < 3 →
        ∃ token ∈ added, token.start ≤ position ∧ position < token.stop ∧
          token.scopes = tokenizer.initial.top.contentScopes.names ++
            scopesAt tokenizer.compilation.table (Tokenizer.terminated "abc")
              [some (0, 3), some (0, 2), some (0, 1)]
              (rules.zip [some (0, 3), some (0, 2), some (0, 1)]) position := by
  obtain ⟨tokenizer, rules, compiled, listed⟩ :=
    Tokenizer.exists_ofTexts grouped groupedRules (by decide +kernel)
  refine ⟨tokenizer, rules, compiled, listed, ?_⟩
  refine nested_captures_label_text _ rfl (Nat.le_refl 0) rfl (by simp) ?_ ?_
  · simp [Nested, Precedes]
  · intro id member rule found contentName inner again
    simp only [groupedRules, bind, Option.bind_eq_some_iff] at listed
    obtain ⟨single, -, listed⟩ := listed
    split at listed
    · simp only [Option.ite_none_right_eq_some, List.all_eq_true, Option.some.injEq] at listed
      obtain ⟨plain, rfl⟩ := listed
      have kind := plain (some id) member
      simp only [Option.all_some, found, decide_eq_true_eq] at kind
      rw [again] at kind
      cases kind
    · cases listed

end Reading

end ScopeTokenizer
