import ScopeTokenizer.Proofs.Regex.Beginnings
import ScopeTokenizer.Regex.Parser

/-!
# Texts of patterns with anchors disabled

Disabling anchors puts one character, the placeholder, in the place of two. Every reader of a part
of a pattern comes to related places in the two texts, and mostly gives the same answer. A reader
may refuse one of the texts and not the other, as an anchor cannot stand everywhere that a character
can; so most lemmas speak of two answers only.
-/

namespace ScopeTokenizer

open Pattern Unicode

namespace Regex

namespace Disabled

variable {anchors : Anchors} {text other : List Char}

/-! ## Stretches of text -/

variable {p : Char → Bool}

/-- A stretch without backslashes is left alone. -/
theorem takeWhile (disabled : Disabled anchors text other) (backslash : p '\\' = false)
    (placeholder : p Anchors.placeholder = false) :
    other.takeWhile p = text.takeWhile p ∧
      Disabled anchors (text.dropWhile p) (other.dropWhile p) := by
  induction disabled with
  | nil => exact ⟨rfl, .nil⟩
  | lone => simpa [backslash] using Disabled.lone
  | @plain c text other plain rest ih =>
    cases passes : p c with
    | true => simpa [passes] using ih
    | false => simpa [passes] using Disabled.plain plain rest
  | escape kept rest => simpa [backslash] using Disabled.escape kept rest
  | anchor disables rest => simpa [backslash, placeholder] using Disabled.anchor disables rest

/-- A stretch is left alone if it turns out to have no backslash. -/
theorem takeWhile_of_notMem (disabled : Disabled anchors text other) (backslash : p '\\' = true)
    (without : '\\' ∉ text.takeWhile p) :
    other.takeWhile p = text.takeWhile p ∧
      Disabled anchors (text.dropWhile p) (other.dropWhile p) := by
  induction disabled with
  | nil => exact ⟨rfl, .nil⟩
  | lone | escape | anchor => simp [backslash] at without
  | @plain c text other plain rest ih =>
    cases passes : p c with
    | true =>
      have without : '\\' ∉ text.takeWhile p := fun mem => by simp [passes, mem] at without
      simpa [passes] using ih without
    | false => simpa [passes] using Disabled.plain plain rest

/-- What comes after a stretch is related also if the stretch has backslashes. -/
theorem dropWhile (disabled : Disabled anchors text other) (backslash : p '\\' = true)
    (letters : ∀ c, anchors.Disables c → p c = true)
    (placeholder : p Anchors.placeholder = true) :
    Disabled anchors (text.dropWhile p) (other.dropWhile p) := by
  induction disabled with
  | nil => exact .nil
  | lone => simpa [backslash] using Disabled.nil
  | @plain c text other plain rest ih =>
    cases passes : p c with
    | true => simpa [passes] using ih
    | false => simpa [passes] using Disabled.plain plain rest
  | @escape c text other kept rest ih =>
    cases passes : p c with
    | true => simpa [backslash, passes] using ih
    | false =>
      by_cases again : c = '\\'
      · rw [again, backslash] at passes
        cases passes
      · simpa [backslash, passes] using Disabled.plain again rest
  | @anchor c text other disables rest ih =>
    simpa [backslash, placeholder, letters c disables] using ih

theorem drop_takeWhile_length (p : Char → Bool) (text : List Char) :
    text.drop (text.takeWhile p).length = text.dropWhile p := by
  induction text with
  | nil => rfl
  | cons c text ih =>
    cases passes : p c <;> simp [passes, ih]

theorem digitsUpTo (disabled : Disabled anchors text other) (backslash : p '\\' = false)
    (placeholder : p Anchors.placeholder = false) (limit : Nat) :
    Code.digitsUpTo limit p other = Code.digitsUpTo limit p text ∧
      Disabled anchors (text.drop (Code.digitsUpTo limit p text).length)
        (other.drop (Code.digitsUpTo limit p text).length) := by
  unfold Code.digitsUpTo
  induction disabled generalizing limit with
  | nil => cases limit <;> exact ⟨rfl, .nil⟩
  | lone => cases limit <;> simpa [backslash] using Disabled.lone
  | @plain c text other plain rest ih =>
    cases limit with
    | zero => exact ⟨rfl, .plain plain rest⟩
    | succ limit =>
      cases passes : p c with
      | true => simpa [passes] using ih limit
      | false => simpa [passes] using Disabled.plain plain rest
  | escape kept rest => cases limit <;> simpa [backslash] using Disabled.escape kept rest
  | anchor disables rest =>
    cases limit <;> simpa [backslash, placeholder] using Disabled.anchor disables rest

theorem head? (disabled : Disabled anchors text other) {c : Char} (backslash : c ≠ '\\')
    (placeholder : c ≠ Anchors.placeholder) : other.head? = some c ↔ text.head? = some c := by
  cases disabled with
  | nil | lone | plain | escape => rfl
  | anchor =>
    simp [Ne.symm backslash, Ne.symm placeholder]

theorem of_cons {c : Char} (disabled : Disabled anchors (c :: text) other) (plain : c ≠ '\\') :
    ∃ rest, other = c :: rest ∧ Disabled anchors text rest := by
  cases disabled with
  | lone | escape | anchor => exact absurd rfl plain
  | plain _ rest => exact ⟨_, rfl, rest⟩

theorem of_cons_right {c : Char} (disabled : Disabled anchors text (c :: other))
    (backslash : c ≠ '\\') (placeholder : c ≠ Anchors.placeholder) :
    ∃ rest, text = c :: rest ∧ Disabled anchors rest other := by
  cases disabled with
  | lone | escape => exact absurd rfl backslash
  | anchor => exact absurd rfl placeholder
  | plain _ rest => exact ⟨_, rfl, rest⟩

theorem ne_nil (disabled : Disabled anchors text other) : other = [] ↔ text = [] := by
  cases disabled <;> simp

end Disabled

/-! ## Readers -/

/-- Whenever both readers have an answer, the answers and what is left of the texts are related. -/
def Aligned (anchors : Anchors) {α β : Type} (R : α → β → Prop)
    (first : Option (α × List Char)) (second : Option (β × List Char)) : Prop :=
  ∀ a rest b rest', first = some (a, rest) → second = some (b, rest') →
    R a b ∧ Disabled anchors rest rest'

namespace Aligned

variable {anchors : Anchors} {α β γ δ : Type} {R : α → β → Prop} {S : γ → δ → Prop}
  {first : Option (α × List Char)} {second : Option (β × List Char)} {text other : List Char}

theorem some {a : α} {b : β} (related : R a b) (disabled : Disabled anchors text other) :
    Aligned anchors R (some (a, text)) (some (b, other)) := by
  rintro a' rest b' rest' ⟨⟩ ⟨⟩
  exact ⟨related, disabled⟩

theorem none_left : Aligned anchors R none second := nofun

theorem none_right : Aligned anchors R first none := fun _ _ _ _ _ => nofun

theorem bind {next : α × List Char → Option (γ × List Char)}
    {next' : β × List Char → Option (δ × List Char)} (start : Aligned anchors R first second)
    (goesOn : ∀ a b rest rest', R a b → Disabled anchors rest rest' →
      Aligned anchors S (next (a, rest)) (next' (b, rest'))) :
    Aligned anchors S (first.bind next) (second.bind next') := by
  intro c rest d rest' run run'
  obtain ⟨⟨a, between⟩, is, run⟩ := Option.bind_eq_some_iff.mp run
  obtain ⟨⟨b, between'⟩, is', run'⟩ := Option.bind_eq_some_iff.mp run'
  obtain ⟨related, disabled⟩ := start a between b between' is is'
  exact goesOn a b between between' related disabled c rest d rest' run run'

theorem map {f : α → γ} {g : β → δ} (aligned : Aligned anchors R first second)
    (related : ∀ a b, R a b → S (f a) (g b)) :
    Aligned anchors S (first.map fun answer => (f answer.1, answer.2))
      (second.map fun answer => (g answer.1, answer.2)) := by
  intro c rest d rest' is is'
  obtain ⟨⟨a, _⟩, first, ⟨⟩⟩ := Option.map_eq_some_iff.mp is
  obtain ⟨⟨b, _⟩, second, ⟨⟩⟩ := Option.map_eq_some_iff.mp is'
  obtain ⟨given, disabled⟩ := aligned a _ b _ first second
  exact ⟨related a b given, disabled⟩

end Aligned

section Readers

variable {anchors : Anchors} {text other : List Char}

/-! ### Escapes -/

namespace Disabled

theorem octal (disabled : Disabled anchors text other) (limit : Nat) :
    Aligned anchors Eq (Code.octal limit text) (Code.octal limit other) := by
  obtain ⟨same, rest⟩ := disabled.digitsUpTo (p := Code.isOctalDigit) (by decide) (by decide) limit
  simp only [Code.octal, same]
  split
  · exact .none_left
  · exact .some rfl rest

/-- Numbers in braces. -/
theorem braced? (disabled : Disabled anchors text other) (base limit : Nat)
    {p : Char → Bool} (backslash : p '\\' = false)
    (placeholder : p Anchors.placeholder = false) :
    Option.Rel (fun a b => a.1 = b.1 ∧ Disabled anchors a.2 b.2)
      (Code.braced? base limit p text) (Code.braced? base limit p other) := by
  cases disabled with
  | nil | lone | escape => exact .none
  | anchor => exact .none
  | @plain c text other _ rest =>
    by_cases opens : c = '\x7b'
    · subst opens
      obtain ⟨same, after⟩ := rest.takeWhile backslash placeholder
      simp only [Code.braced?, same]
      generalize text.dropWhile p = left at after
      generalize other.dropWhile p = left' at after
      cases after with
      | nil | lone | escape => exact .none
      | anchor => exact .none
      | @plain c left left' _ after =>
        by_cases closes : c = '\x7d'
        · subst closes
          by_cases bad : text.takeWhile p = [] ∨ limit < (text.takeWhile p).length
          · simp only [if_pos bad, Option.Rel.none]
          · simp only [if_neg bad]
            exact .some ⟨rfl, after⟩
        · simp [closes]
    · simp [Code.braced?, opens]

theorem hexDigit_backslash : isAsciiHexDigit '\\' = false := by decide

theorem hexDigit_placeholder : isAsciiHexDigit Anchors.placeholder = false := by decide

theorem readCode_x (disabled : Disabled anchors text other) :
    Aligned anchors Eq (Code.read? 'x' text) (Code.read? 'x' other) := by
  obtain ⟨digits, left⟩ := disabled.digitsUpTo hexDigit_backslash hexDigit_placeholder 2
  by_cases opens : ∃ rest, text = '\x7b' :: rest
  · obtain ⟨text, rfl⟩ := opens
    obtain ⟨other, rfl, rest⟩ := disabled.of_cons (by decide)
    have braces := disabled.braced? 16 8 hexDigit_backslash hexDigit_placeholder
    rw [Code.read?, Code.read?, (rest.takeWhile hexDigit_backslash hexDigit_placeholder).1]
    generalize Code.braced? 16 8 isAsciiHexDigit ('\x7b' :: text) = first at braces
    generalize Code.braced? 16 8 isAsciiHexDigit ('\x7b' :: other) = second at braces
    split
    · exact .none_left
    · cases braces with
      | none => exact .some rfl disabled
      | some related => exact .some (congrArg Code.point related.1) related.2
  · by_cases nothing : text = []
    · rw [nothing, disabled.ne_nil.mpr nothing]
      exact .some rfl .nil
    · have opens' (rest : List Char) (is : other = '\x7b' :: rest) : False := by
        have head := (disabled.head? (c := '\x7b') (by decide) (by decide)).mp (is ▸ rfl)
        cases text with
        | nil => cases head
        | cons c text => exact opens ⟨text, by simpa using head⟩
      rw [Code.read?.eq_3 _ (fun rest is => opens ⟨rest, is⟩) nothing,
        Code.read?.eq_3 _ opens' fun is => nothing (disabled.ne_nil.mp is), digits]
      exact .some rfl left

theorem readCode_u (disabled : Disabled anchors text other) :
    Aligned anchors Eq (Code.read? 'u' text) (Code.read? 'u' other) := by
  obtain ⟨digits, left⟩ := disabled.digitsUpTo hexDigit_backslash hexDigit_placeholder 4
  simp only [Code.read?, digits, disabled.ne_nil]
  split
  · exact .some rfl .nil
  · split
    · next four =>
      rw [four] at left
      exact .some rfl left
    · exact .none_left

theorem readCode_o (disabled : Disabled anchors text other) :
    Aligned anchors Eq (Code.read? 'o' text) (Code.read? 'o' other) := by
  have braces := disabled.braced? 8 11 (p := Code.isOctalDigit) (by decide) (by decide)
  simp only [Code.read?]
  generalize Code.braced? 8 11 Code.isOctalDigit text = first at braces
  generalize Code.braced? 8 11 Code.isOctalDigit other = second at braces
  cases braces with
  | none => exact .some rfl disabled
  | some related => exact .some (congrArg Code.point related.1) related.2

/-- A control character. -/
theorem readCode_c (disabled : Disabled anchors text other) :
    Aligned anchors Eq (Code.read? 'c' text) (Code.read? 'c' other) := by
  cases disabled with
  | nil | lone | escape | anchor => exact .none_left
  | @plain d text other plain rest =>
    by_cases question : d = '?'
    · subst question
      exact .some rfl rest
    · rw [Code.read?.eq_9 _ _ question plain, Code.read?.eq_9 _ _ question plain]
      exact .some rfl rest

/-- A control character, written with a hyphen. -/
theorem readCode_C (disabled : Disabled anchors text other) :
    Aligned anchors Eq (Code.read? 'C' text) (Code.read? 'C' other) := by
  cases disabled with
  | nil | lone | escape | anchor => exact .none_left
  | @plain d text other _ rest =>
    by_cases hyphen : d = '-'
    · subst hyphen
      cases rest with
      | nil => exact .none_left
      | lone | escape | anchor =>
        have none (text : List Char) : Code.read? 'C' ('-' :: '\\' :: text) = none := by
          simp [Code.read?]
        rw [none]
        exact .none_left
      | @plain e text other plain rest =>
        by_cases question : e = '?'
        · subst question
          exact .some rfl rest
        · rw [Code.read?.eq_11 _ _ question, Code.read?.eq_11 _ _ question, if_neg plain,
            if_neg plain]
          exact .some rfl rest
    · have none : Code.read? 'C' (d :: text) = none := by simp [Code.read?, hyphen]
      rw [none]
      exact .none_left

/-- A character with the eighth bit. -/
theorem readCode_M (disabled : Disabled anchors text other) :
    Aligned anchors Eq (Code.read? 'M' text) (Code.read? 'M' other) := by
  cases disabled with
  | nil | lone | escape | anchor => exact .none_left
  | @plain d text other _ rest =>
    by_cases hyphen : d = '-'
    · subst hyphen
      cases rest with
      | nil => exact .none_left
      | lone | escape | anchor =>
        rw [Code.read?, if_pos rfl]
        exact .none_left
      | @plain e text other plain rest =>
        rw [Code.read?, Code.read?, if_neg plain, if_neg plain]
        exact .some rfl rest
    · have none : Code.read? 'M' (d :: text) = none := by simp [Code.read?, hyphen]
      rw [none]
      exact .none_left

theorem readCode (disabled : Disabled anchors text other) (c : Char) :
    Aligned anchors Eq (Code.read? c text) (Code.read? c other) := by
  by_cases x : c = 'x'
  · exact x ▸ disabled.readCode_x
  by_cases u : c = 'u'
  · exact u ▸ disabled.readCode_u
  by_cases o : c = 'o'
  · exact o ▸ disabled.readCode_o
  by_cases control : c = 'c'
  · exact control ▸ disabled.readCode_c
  by_cases hyphenated : c = 'C'
  · exact hyphenated ▸ disabled.readCode_C
  by_cases eighth : c = 'M'
  · exact eighth ▸ disabled.readCode_M
  · have itself := Code.read?_of_ne x u o control hyphenated eighth
    rw [itself, itself]
    exact .some rfl disabled

/-- A byte that is an answer of a reader of codes. -/
theorem byte {first second : Option (Code × List Char)} :
    Aligned anchors Eq first second → Aligned anchors Eq
      (match first with
        | some (.byte value, after) => some (value, after)
        | _ => none)
      (match second with
        | some (.byte value, after) => some (value, after)
        | _ => none) := by
  intro codes
  cases first with
  | none => exact .none_left
  | some answer =>
    obtain ⟨code, rest⟩ := answer
    cases second with
    | none => exact .none_right
    | some answer =>
      obtain ⟨code', rest'⟩ := answer
      obtain ⟨rfl, disabled⟩ := codes _ _ _ _ rfl rfl
      cases code with
      | char | point => exact .none_left
      | byte value => exact .some rfl disabled

/-- No byte is written by a disabled anchor. -/
theorem byteEscape? (disabled : Disabled anchors text other) :
    Aligned anchors Eq (Code.byteEscape? text) (Code.byteEscape? other) := by
  cases disabled with
  | nil | lone => exact .none_left
  | anchor disables rest =>
    rcases disables with ⟨rfl, -⟩ | ⟨rfl, -⟩
    · exact .none_left
    · exact .none_left
  | @plain c text other plain rest =>
    have none : Code.byteEscape? (c :: text) = none := by simp [Code.byteEscape?, plain]
    rw [none]
    exact .none_left
  | @escape c text other kept rest =>
    by_cases hex : c = 'x'
    · subst hex
      simp only [Code.byteEscape?]
      exact byte rest.readCode_x
    · simp only [Code.byteEscape?]
      split
      · next digit =>
        have plain : c ≠ '\\' := by
          rintro rfl
          cases digit
        exact byte ((Disabled.plain plain rest).octal 3)
      · exact .none_left

theorem byteEscapes? (disabled : Disabled anchors text other) (count : Nat) :
    Aligned anchors Eq (Code.byteEscapes? count text) (Code.byteEscapes? count other) := by
  induction count generalizing text other with
  | zero => exact .some rfl disabled
  | succ count ih =>
    simp only [Code.byteEscapes?]
    refine disabled.byteEscape?.bind ?_
    rintro first _ rest rest' rfl disabled
    refine (ih disabled).bind ?_
    rintro others _ rest rest' rfl disabled
    exact .some rfl disabled

theorem completeCode (disabled : Disabled anchors text other) (code : Code) :
    Aligned anchors Eq (code.complete? text) (code.complete? other) := by
  cases code with
  | char c => exact .some rfl disabled
  | point value =>
    simp only [Code.complete?]
    split
    · exact .none_left
    · exact .some rfl disabled
  | byte value =>
    simp only [Code.complete?]
    split
    · exact .some rfl disabled
    · refine (disabled.byteEscapes? _).bind ?_
      rintro bytes _ rest rest' rfl disabled
      dsimp only
      cases String.fromUTF8? (ByteArray.mk ((value :: bytes).map UInt8.ofNat).toArray) with
      | none => exact .none_left
      | some written =>
        simp only [Option.bind_eq_bind, Option.bind_some]
        split
        · exact .some rfl disabled
        · exact .none_left

/-! ### Quantifiers -/

theorem marks (disabled : Disabled anchors text other) (quantifier : Quantifier) :
    (quantifier.marks text).1 = (quantifier.marks other).1 ∧
      Disabled anchors (quantifier.marks text).2 (quantifier.marks other).2 := by
  cases disabled with
  | nil => exact ⟨rfl, .nil⟩
  | lone => exact ⟨rfl, .lone⟩
  | escape kept rest => exact ⟨rfl, .escape kept rest⟩
  | anchor disables rest => exact ⟨rfl, .anchor disables rest⟩
  | @plain c text other plain rest =>
    by_cases lazy : c = '?'
    · subst lazy
      exact ⟨rfl, rest⟩
    · have kept (text : List Char) : quantifier.marks (c :: text) = (quantifier, c :: text) := by
        simp [Quantifier.marks, lazy]
      rw [kept, kept]
      exact ⟨rfl, .plain plain rest⟩

theorem marksOrPlus (disabled : Disabled anchors text other) (quantifier : Quantifier) :
    (quantifier.marksOrPlus text).1 = (quantifier.marksOrPlus other).1 ∧
      Disabled anchors (quantifier.marksOrPlus text).2 (quantifier.marksOrPlus other).2 := by
  by_cases plus : ∃ rest, text = '+' :: rest
  · obtain ⟨text, rfl⟩ := plus
    obtain ⟨other, rfl, rest⟩ := disabled.of_cons (by decide)
    exact ⟨rfl, rest⟩
  · have plus' : ¬∃ rest, other = '+' :: rest := by
      rintro ⟨rest, rfl⟩
      cases disabled with
      | plain _ rest => exact plus ⟨_, rfl⟩
    have same {text : List Char} (plus : ¬∃ rest, text = '+' :: rest) :
        quantifier.marksOrPlus text = quantifier.marks text := by
      unfold Quantifier.marksOrPlus
      split
      · exact absurd ⟨_, rfl⟩ plus
      · rfl
    rw [same plus, same plus']
    exact disabled.marks quantifier

/-- Neither text can be read, neither begins with a quantifier, or both do with the same one. -/
inductive SameQuantifier (anchors : Anchors) : Option (Option (Quantifier × List Char)) →
    Option (Option (Quantifier × List Char)) → Prop where
  | unread : SameQuantifier anchors none none
  | absent : SameQuantifier anchors (some none) (some none)
  | found {first second : Quantifier × List Char} :
      first.1 = second.1 ∧ Disabled anchors first.2 second.2 →
      SameQuantifier anchors (some (some first)) (some (some second))

theorem interval (disabled : Disabled anchors text other) :
    SameQuantifier anchors (Quantifier.interval text) (Quantifier.interval other) := by
  obtain ⟨first, rest⟩ := disabled.takeWhile (p := isAsciiDigit) (by decide) (by decide)
  simp only [Quantifier.interval, drop_takeWhile_length]
  simp only [first]
  generalize text.takeWhile isAsciiDigit = low
  generalize text.dropWhile isAsciiDigit = text at rest
  generalize other.dropWhile isAsciiDigit = other at rest
  by_cases large : Quantifier.maxCount < Code.number 10 low
  · simp only [if_pos large, SameQuantifier.unread]
  simp only [if_neg large]
  cases rest with
  | nil | lone | escape | anchor => exact .absent
  | @plain c text other plain rest =>
    by_cases close : c = '\x7d'
    · subst close
      by_cases none : low = []
      · simp only [if_pos none, SameQuantifier.absent]
      · simp only [if_neg none]
        exact .found ⟨rfl, rest⟩
    by_cases comma : c = ','
    · subst comma
      obtain ⟨second, after⟩ := rest.takeWhile (p := isAsciiDigit) (by decide) (by decide)
      simp only [second]
      generalize text.takeWhile isAsciiDigit = high
      generalize text.dropWhile isAsciiDigit = text at after
      generalize other.dropWhile isAsciiDigit = other at after
      by_cases large : Quantifier.maxCount < Code.number 10 high
      · simp only [if_pos large, SameQuantifier.unread]
      simp only [if_neg large]
      cases after with
      | nil | lone | escape | anchor => exact .absent
      | @plain c text other plain rest =>
        by_cases close : c = '\x7d'
        · subst close
          by_cases none : high = []
          · simp only [if_pos none]
            by_cases none : low = []
            · simp only [if_pos none, SameQuantifier.absent]
            · simp only [if_neg none]
              exact .found (rest.marks _)
          · simp only [if_neg none]
            exact .found (rest.marks _)
        · simp [close, SameQuantifier.absent]
    · simp [close, comma, SameQuantifier.absent]

theorem quantifier (disabled : Disabled anchors text other) :
    SameQuantifier anchors (Quantifier.read text) (Quantifier.read other) := by
  cases disabled with
  | nil | lone | escape | anchor => exact .absent
  | @plain c text other plain rest =>
    by_cases star : c = '*'
    · subst star
      exact .found (rest.marksOrPlus _)
    by_cases plus : c = '+'
    · subst plus
      exact .found (rest.marksOrPlus _)
    by_cases question : c = '?'
    · subst question
      exact .found (rest.marksOrPlus _)
    by_cases brace : c = '\x7b'
    · subst brace
      exact rest.interval
    · have none (text : List Char) : Quantifier.read (c :: text) = some none := by
        simp [Quantifier.read, star, plus, question, brace]
      rw [none, none]
      exact .absent

/-! ### Comments -/

theorem afterComment?_cons {c : Char} (plain : c ≠ '\\') (text : List Char) :
    Regex.afterComment? (c :: text) =
      if c = ')' then some text else Regex.afterComment? text := by
  by_cases close : c = ')'
  · subst close
    rfl
  · simp [Regex.afterComment?, close, plain]

theorem afterComment? (disabled : Disabled anchors text other) :
    Option.Rel (Disabled anchors) (Regex.afterComment? text) (Regex.afterComment? other) := by
  induction disabled with
  | nil | lone => exact .none
  | @plain c text other plain rest ih =>
    rw [afterComment?_cons plain, afterComment?_cons plain]
    split
    · exact .some rest
    · exact ih
  | escape kept rest ih => exact ih
  | @anchor c text other disables rest ih =>
    rw [afterComment?_cons (c := Anchors.placeholder) (by decide), if_neg (by decide)]
    exact ih

theorem cases_afterComment? (disabled : Disabled anchors text other) :
    (Regex.afterComment? text = none ∧ Regex.afterComment? other = none) ∨
    ∃ rest rest', Regex.afterComment? text = some rest ∧
      Regex.afterComment? other = some rest' ∧ Disabled anchors rest rest' := by
  have after := disabled.afterComment?
  generalize Regex.afterComment? text = first at after
  generalize Regex.afterComment? other = second at after
  cases after with
  | none => exact .inl ⟨rfl, rfl⟩
  | some rest => exact .inr ⟨_, _, rfl, rfl, rest⟩

/-- Both texts begin with a comment, or neither does. -/
theorem commented (disabled : Disabled anchors text other) :
    (∃ rest rest', text = '(' :: '?' :: '#' :: rest ∧ other = '(' :: '?' :: '#' :: rest' ∧
      Disabled anchors rest rest') ∨
    (∀ rest, text ≠ '(' :: '?' :: '#' :: rest) ∧ ∀ rest, other ≠ '(' :: '?' :: '#' :: rest := by
  by_cases opens : ∃ rest, text = '(' :: '?' :: '#' :: rest
  · obtain ⟨text, rfl⟩ := opens
    obtain ⟨_, rfl, first⟩ := disabled.of_cons (by decide)
    obtain ⟨_, rfl, second⟩ := first.of_cons (by decide)
    obtain ⟨other, rfl, third⟩ := second.of_cons (by decide)
    exact .inl ⟨text, other, rfl, rfl, third⟩
  · refine .inr ⟨fun rest is => opens ⟨rest, is⟩, fun rest is => opens ?_⟩
    subst is
    cases disabled with
    | plain _ disabled =>
      cases disabled with
      | plain _ disabled =>
        cases disabled with
        | plain _ disabled => exact ⟨_, rfl⟩

theorem length_afterComment? {rest : List Char} (after : Regex.afterComment? text = some rest) :
    rest.length < text.length := by
  fun_induction Regex.afterComment? text with
  | case1 => cases after
  | case2 _ text ih => exact Nat.lt_add_right 2 (ih after)
  | case3 =>
    cases after
    exact Nat.lt_succ_self _
  | case4 _ text _ _ ih => exact Nat.lt_succ_of_lt (ih after)

theorem skipIgnored_cons {c : Char} (uncommented : ∀ rest, c :: text ≠ '(' :: '?' :: '#' :: rest)
    (extended : Bool) (steps : Nat) :
    Regex.skipIgnored extended (steps + 1) (c :: text) =
      if extended && isBlank c then Regex.skipIgnored extended steps text
      else if extended && c = '#' then
        Regex.skipIgnored extended steps (text.dropWhile (· ≠ '\n'))
      else some (c :: text) := by
  rw [Regex.skipIgnored]
  rintro rest rfl rfl
  exact uncommented rest rfl

theorem skipIgnored_of_visible {c : Char} (visible : isBlank c = false) (other : c ≠ '#')
    (bracket : c ≠ '(') (extended : Bool) (steps : Nat) (text : List Char) :
    Regex.skipIgnored extended steps (c :: text) = some (c :: text) := by
  cases steps with
  | zero => rfl
  | succ steps =>
    rw [skipIgnored_cons (fun rest is => bracket (List.cons.inj is).1), visible]
    simp [other]

theorem isBlank_placeholder : isBlank Anchors.placeholder = false := by decide +kernel

theorem skipIgnored (disabled : Disabled anchors text other) (extended : Bool) {steps more : Nat}
    (enough : text.length ≤ steps) (enough' : other.length ≤ more) :
    Option.Rel (Disabled anchors) (Regex.skipIgnored extended steps text)
      (Regex.skipIgnored extended more other) := by
  have backslash (steps : Nat) (text : List Char) :=
    skipIgnored_of_visible (c := '\\') (by decide) (by decide) (by decide) extended steps text
  have placeholder (steps : Nat) (text : List Char) :=
    skipIgnored_of_visible (c := Anchors.placeholder) isBlank_placeholder (by decide) (by decide)
      extended steps text
  induction steps generalizing text other more with
  | zero =>
    obtain rfl := List.eq_nil_of_length_eq_zero (Nat.le_zero.mp enough)
    cases disabled
    cases more with
    | zero => exact .some .nil
    | succ more => exact .some .nil
  | succ steps ih =>
    cases disabled with
    | nil =>
      cases more with
      | zero => exact .some .nil
      | succ more => exact .some .nil
    | lone =>
      rw [backslash, backslash]
      exact .some .lone
    | escape kept rest =>
      rw [backslash, backslash]
      exact .some (.escape kept rest)
    | anchor disables rest =>
      rw [backslash, placeholder]
      exact .some (.anchor disables rest)
    | @plain c text other plain rest =>
      obtain ⟨more, rfl⟩ : ∃ fewer, more = fewer + 1 := by
        cases more with
        | zero => cases enough'
        | succ more => exact ⟨more, rfl⟩
      rw [List.length_cons, Nat.add_le_add_iff_right] at enough enough'
      rcases (Disabled.plain plain rest).commented with
        ⟨text, other, is, is', inside⟩ | ⟨none, none'⟩
      · rw [is, is', Regex.skipIgnored, Regex.skipIgnored]
        obtain ⟨-, rfl⟩ := List.cons.inj is
        obtain ⟨-, rfl⟩ := List.cons.inj is'
        rcases inside.cases_afterComment? with ⟨none, none'⟩ | ⟨rest, rest', first, second, after⟩
        · rw [none, none']
          exact .none
        · rw [first, second]
          have shorter := length_afterComment? first
          have shorter' := length_afterComment? second
          simp only [List.length_cons] at enough enough'
          exact ih after (by omega) (by omega)
      · rw [skipIgnored_cons none, skipIgnored_cons none']
        split
        · exact ih rest enough enough'
        · split
          · have after := rest.dropWhile (p := (· ≠ '\n')) (by decide) (by
              rintro c (⟨rfl, -⟩ | ⟨rfl, -⟩) <;> decide) (by decide)
            exact ih after (Nat.le_trans (List.length_dropWhile_le _ _) enough)
              (Nat.le_trans (List.length_dropWhile_le _ _) enough')
          · exact .some (.plain plain rest)

/-! ### Options -/

theorem readFlags (disabled : Disabled anchors text other) (on : Bool) (flags : Flags) :
    Aligned anchors Eq (Regex.readFlags on flags text) (Regex.readFlags on flags other) := by
  induction disabled generalizing on flags with
  | nil => exact .none_left
  | lone => exact .some rfl .lone
  | escape kept rest => exact .some rfl (.escape kept rest)
  | anchor disables rest => exact .some rfl (.anchor disables rest)
  | @plain c text other plain rest ih =>
    simp only [Regex.readFlags]
    split
    · exact ih false flags
    iterate 7 exact ih on _
    · exact .some rfl (.plain plain rest)

/-! ### Bracket expressions -/

/-- A mark that may stand at the front. -/
theorem unmarked (disabled : Disabled anchors text other) {c : Char} (backslash : c ≠ '\\')
    (placeholder : c ≠ Anchors.placeholder) :
    Disabled anchors (if text.head? = some c then text.drop 1 else text)
      (if other.head? = some c then other.drop 1 else other) := by
  by_cases marked : text.head? = some c
  · rw [if_pos marked, if_pos ((disabled.head? backslash placeholder).mpr marked)]
    cases disabled with
    | nil => exact .nil
    | lone | escape | anchor => exact absurd (Option.some.inj marked).symm backslash
    | plain _ rest => exact rest
  · rwa [if_neg marked, if_neg fun is => marked ((disabled.head? backslash placeholder).mp is)]

theorem property? (disabled : Disabled anchors text other) (flags : Flags) (letter : Char) :
    Aligned anchors (fun _ _ => True) (Bracket.property? flags letter text)
      (Bracket.property? flags letter other) := by
  cases disabled with
  | nil | lone | escape | anchor => exact .none_left
  | @plain c text other plain rest =>
    by_cases opens : c = '\x7b'
    · subst opens
      simp only [Bracket.property?]
      have front := (rest.unmarked (c := '^') (by decide) (by decide)).dropWhile
        (p := fun c => !"()\x7b\x7d|".toList.contains c) (by decide)
        (by rintro c (⟨rfl, -⟩ | ⟨rfl, -⟩) <;> decide) (by decide)
      intro set left set' left' is is'
      split at is
      · next after closes =>
        rw [closes] at front
        obtain ⟨after', closes', after⟩ := front.of_cons (by decide)
        rw [closes'] at is'
        obtain ⟨_, -, is⟩ := Option.bind_eq_some_iff.mp is
        obtain ⟨_, -, is'⟩ := Option.bind_eq_some_iff.mp is'
        cases is
        cases is'
        exact ⟨trivial, after⟩
      · cases is
    · have none : Bracket.property? flags letter (c :: text) = none := by
        simp [Bracket.property?, opens]
      rw [none]
      exact .none_left

theorem closesName_cons {c : Char} (plain : c ≠ '\\') (text : List Char) :
    Bracket.closesName (c :: text) =
      if c = ']' then false
      else if c = ':' ∧ text.head? = some ']' then true else Bracket.closesName text := by
  by_cases bracket : c = ']'
  · subst bracket
    rfl
  rw [if_neg bracket]
  cases text with
  | nil => simp [Bracket.closesName]
  | cons d text =>
    by_cases colon : c = ':'
    · subst colon
      by_cases bracket : d = ']'
      · subst bracket
        rfl
      · simp [Bracket.closesName, bracket]
    · simp [Bracket.closesName, plain, colon]

theorem closesName (disabled : Disabled anchors text other) :
    Bracket.closesName other = Bracket.closesName text := by
  induction disabled with
  | nil | lone => rfl
  | plain plain rest ih =>
    simp only [closesName_cons plain, ih, rest.head? (c := ']') (by decide) (by decide)]
  | escape kept rest ih => exact ih
  | anchor disables rest ih =>
    rw [closesName_cons (c := Anchors.placeholder) (by decide), ih, if_neg (by decide),
      if_neg fun is => absurd is.1 (by decide)]
    rfl

/-- The name of a class, if one is given, and what comes after it. -/
def named (text : List Char) : Option (CharSet × List Char) :=
  let text := if text.head? = some '^' then text.drop 1 else text
  match Property.bracketNamed? (text.takeWhile isAsciiLetter), text.dropWhile isAsciiLetter with
  | some set, ':' :: ']' :: after => some (set, after)
  | _, _ => none

theorem className_cases (flags : Flags) (text : List Char) :
    (∃ set after, named text = some (set, after) ∧
      ∃ other, Bracket.className flags text = some (some (other, after))) ∨
    named text = none ∧
      (Bracket.className flags text = none ∨ Bracket.className flags text = some none) := by
  simp only [named, Bracket.className, drop_takeWhile_length]
  generalize (if text.head? = some '^' then text.drop 1 else text) = rest
  by_cases closes : ∃ set after, Property.bracketNamed? (rest.takeWhile isAsciiLetter) = some set ∧
      rest.dropWhile isAsciiLetter = ':' :: ']' :: after
  · obtain ⟨set, after, known, closing⟩ := closes
    simp only [known, closing]
    exact .inl ⟨_, _, rfl, _, rfl⟩
  · refine .inr ⟨?_, ?_⟩
    · split
      · next known closing => exact (closes ⟨_, _, known, closing⟩).elim
      · rfl
    · split
      · next known closing => exact (closes ⟨_, _, known, closing⟩).elim
      · split
        · split
          · exact .inr rfl
          · exact .inl rfl
        · exact .inr rfl

theorem className (disabled : Disabled anchors text other) (flags : Flags) :
    Bracket.className flags text = none ∨ Bracket.className flags other = none ∨
    (Bracket.className flags text = some none ∧ Bracket.className flags other = some none) ∨
    ∃ set set' rest rest', Bracket.className flags text = some (some (set, rest)) ∧
      Bracket.className flags other = some (some (set', rest')) ∧ Disabled anchors rest rest' := by
  have names : Option.Rel (fun a b => Disabled anchors a.2 b.2) (named text) (named other) := by
    obtain ⟨letters, rest⟩ := (disabled.unmarked (c := '^') (by decide) (by decide)).takeWhile
      (p := isAsciiLetter) (by decide) (by decide)
    simp only [named, letters]
    generalize Property.bracketNamed? _ = set
    generalize List.dropWhile isAsciiLetter _ = text at rest
    generalize List.dropWhile isAsciiLetter _ = other at rest
    cases set with
    | none => exact .none
    | some set =>
      cases rest with
      | nil | lone | escape | anchor => exact .none
      | @plain c text other _ rest =>
        by_cases colon : c = ':'
        · subst colon
          cases rest with
          | nil | lone | escape | anchor => exact .none
          | @plain c text other _ rest =>
            by_cases bracket : c = ']'
            · subst bracket
              exact .some rest
            · simp [bracket]
        · simp [colon]
  rcases className_cases flags text with ⟨set, after, is, found, whole⟩ | ⟨is, none | none⟩
  · rcases className_cases flags other with ⟨set', after', is', found', whole'⟩ | ⟨is', -⟩
    · rw [is, is'] at names
      cases names with
      | some rest => exact .inr (.inr (.inr ⟨_, _, _, _, whole, whole', rest⟩))
    · exact absurd (is ▸ is' ▸ names) nofun
  · exact .inl none
  · rcases className_cases flags other with
      ⟨set', after', is', found', whole'⟩ | ⟨is', none' | none'⟩
    · exact absurd (is ▸ is' ▸ names) nofun
    · exact .inr (.inl none')
    · exact .inr (.inr (.inl ⟨none, none'⟩))

/-- Tokens of the same kind. -/
inductive SameKind : Bracket.Token → Bracket.Token → Prop where
  | close : SameKind .close .close
  | hyphen : SameKind .hyphen .hyphen
  | and : SameKind .and .and
  | nested : SameKind .nested .nested
  | code (number other : Nat) : SameKind (.code number) (.code other)
  | kind (set other : CharSet) : SameKind (.kind set) (.kind other)

theorem token?_cons {c : Char} (close : c ≠ ']') (hyphen : c ≠ '-') (opens : c ≠ '[')
    (plain : c ≠ '\\') (and : ¬(c = '&' ∧ text.head? = some '&')) (flags : Flags) :
    Bracket.token? flags (c :: text) = some (.code c.toNat, text) := by
  cases text with
  | nil => simp [Bracket.token?]
  | cons d text =>
    have and : ¬(c = '&' ∧ d = '&') := by simpa using and
    rw [Bracket.token?]
    all_goals simp_all

theorem token?_escape {c : Char} (rest : Disabled anchors text other) (flags : Flags) :
    Aligned anchors SameKind (Bracket.token? flags ('\\' :: c :: text))
      (Bracket.token? flags ('\\' :: c :: other)) := by
  simp only [Bracket.token?]
  cases flags.class? c with
  | some set => exact .some (.kind set set) rest
  | none =>
    simp only [rest.head? (c := '\x7b') (by decide) (by decide)]
    split
    · exact (rest.property? flags c).map fun _ _ _ => .kind _ _
    · have codes : Aligned anchors Eq
          (if Code.isOctalDigit c then Code.octal 3 (c :: text)
            else if c = 'b' then some (.char '\x08', text) else Code.read? c text)
          (if Code.isOctalDigit c then Code.octal 3 (c :: other)
            else if c = 'b' then some (.char '\x08', other) else Code.read? c other) := by
        split
        · next digit =>
          have plain : c ≠ '\\' := by
            rintro rfl
            cases digit
          exact (Disabled.plain plain rest).octal 3
        · split
          · exact .some rfl rest
          · exact rest.readCode c
      refine codes.bind ?_
      rintro code _ left left' rfl disabled
      exact (disabled.completeCode code).map fun _ _ _ => .code _ _

theorem token?_bracket (rest : Disabled anchors text other) (flags : Flags) :
    Aligned anchors SameKind (Bracket.token? flags ('[' :: text))
      (Bracket.token? flags ('[' :: other)) := by
  by_cases colon : ∃ name, text = ':' :: name
  · obtain ⟨name, rfl⟩ := colon
    obtain ⟨name', rfl, names⟩ := rest.of_cons (by decide)
    rw [Bracket.token?, Bracket.token?, names.closesName]
    split
    · rcases names.className flags with
        none | none | ⟨none, none'⟩ | ⟨set, set', after, after', found, found', left⟩
      · rw [none]
        exact .none_left
      · rw [none]
        exact .none_right
      · rw [none, none']
        exact .some (.code _ _) rest
      · rw [found, found']
        exact .some (.kind _ _) left
    · exact .some .nested rest
  · have colon' (name : List Char) (is : other = ':' :: name) : False := by
      subst is
      obtain ⟨name, rfl, -⟩ := rest.of_cons_right (by decide) (by decide)
      exact colon ⟨name, rfl⟩
    rw [Bracket.token?.eq_6 _ _ fun name is => colon ⟨name, is⟩,
      Bracket.token?.eq_6 _ _ colon']
    exact .some .nested rest

theorem token? (disabled : Disabled anchors text other) (flags : Flags) :
    Aligned anchors SameKind (Bracket.token? flags text) (Bracket.token? flags other) := by
  cases disabled with
  | nil | lone => exact .none_left
  | @anchor c text other disables rest =>
    have itself : Bracket.token? flags (Anchors.placeholder :: other) =
        some (.code Anchors.placeholder.toNat, other) :=
      token?_cons (by decide) (by decide) (by decide) (by decide)
        (fun is => absurd is.1 (by decide)) flags
    rw [itself]
    rcases disables with ⟨rfl, -⟩ | ⟨rfl, -⟩
    · exact .some (.code _ _) rest
    · exact .some (.code _ _) rest
  | escape kept rest => exact rest.token?_escape flags
  | @plain c text other plain rest =>
    by_cases close : c = ']'
    · subst close
      exact .some .close rest
    by_cases hyphen : c = '-'
    · subst hyphen
      exact .some .hyphen rest
    by_cases opens : c = '['
    · exact opens ▸ rest.token?_bracket flags
    have ampersand := rest.head? (c := '&') (by decide) (by decide)
    by_cases and : c = '&' ∧ text.head? = some '&'
    · obtain ⟨rfl, and⟩ := and
      cases rest with
      | nil | lone | escape | anchor => cases and
      | plain _ rest =>
        cases and
        exact .some .and rest
    · rw [token?_cons close hyphen opens plain and,
        token?_cons close hyphen opens plain (by rwa [ampersand])]
      exact .some (.code _ _) rest

/-- Last members of the same kind. -/
inductive SameLast : Bracket.Last → Bracket.Last → Prop where
  | nothing : SameLast .nothing .nothing
  | code (number other : Nat) : SameLast (.code number) (.code other)
  | kind : SameLast .kind .kind
  | complete : SameLast .complete .complete

/-- Two readings that leave related texts. -/
def SameReading (anchors : Anchors) (first second : Option Bracket.Reading) : Prop :=
  ∀ reading reading', first = some reading → second = some reading' →
    Disabled anchors reading.rest reading'.rest

theorem members (flags : Flags) {nested nested' : List Char → Option Bracket.Reading}
    (inner : ∀ text other, Disabled anchors text other →
      SameReading anchors (nested text) (nested' other))
    (steps more : Nat) (set set' : CharSet) {last last' : Bracket.Last}
    (lasts : SameLast last last') (disabled : Disabled anchors text other) :
    Aligned anchors (fun _ _ => True) (Bracket.members flags nested steps set last text)
      (Bracket.members flags nested' more set' last' other) := by
  induction steps generalizing more set set' last last' text other with
  | zero => exact .none_left
  | succ steps ih =>
    cases more with
    | zero => exact .none_right
    | succ more =>
      simp only [Bracket.members]
      refine (disabled.token? flags).bind ?_
      intro token token' rest rest' same disabled
      cases same with
      | close => exact .some trivial disabled
      | code number other => exact ih more _ _ (.code _ _) disabled
      | kind => exact ih more _ _ .kind disabled
      | nested =>
        dsimp only
        intro a left b left' is is'
        obtain ⟨reading, found, is⟩ := Option.bind_eq_some_iff.mp is
        obtain ⟨reading', found', is'⟩ := Option.bind_eq_some_iff.mp is'
        exact ih more _ _ .complete (inner _ _ disabled _ _ found found') a left b left' is is'
      | and =>
        refine (ih more _ _ .nothing disabled).bind ?_
        exact fun _ _ _ _ _ left => .some trivial left
      | hyphen =>
        cases lasts with
        | nothing => exact ih more _ _ (.code _ _) disabled
        | complete => exact ih more _ _ (.code _ _) disabled
        | kind =>
          refine (disabled.token? flags).bind ?_
          intro token token' after after' same _
          cases same with
          | close | and => exact ih more _ _ (.code _ _) disabled
          | hyphen | nested | code | kind => exact .none_left
        | code low low' =>
          have range {high high' : Nat} {after after' : List Char}
              (left : Disabled anchors after after') :
              Aligned anchors (fun _ _ => True)
                (if high < low then none
                  else Bracket.members flags nested steps (.union set (.range low high)) .complete
                    after)
                (if high' < low' then none
                  else Bracket.members flags nested' more (.union set' (.range low' high'))
                    .complete after') := by
            split
            · exact .none_left
            · split
              · exact .none_right
              · exact ih more _ _ .complete left
          refine (disabled.token? flags).bind ?_
          intro token token' after after' same left
          cases same with
          | close | and => exact ih more _ _ (.code _ _) disabled
          | hyphen => exact range left
          | nested => exact ih more _ _ .complete disabled
          | code => exact range left
          | kind => exact .none_left

theorem readBracket (disabled : Disabled anchors text other) (flags : Flags) (depth more : Nat) :
    SameReading anchors (Bracket.read? flags depth text) (Bracket.read? flags more other) := by
  induction depth generalizing more text other with
  | zero => exact nofun
  | succ depth ih =>
    cases more with
    | zero => exact fun _ _ _ => nofun
    | succ more =>
      have front := disabled.unmarked (c := '^') (by decide) (by decide)
      have whole {steps steps' : Nat} {set set' : CharSet} {last last' : Bracket.Last}
          {complement complement' : Bool} {inside inside' : List Char}
          (lasts : SameLast last last') (disabled : Disabled anchors inside inside') :
          SameReading anchors
            ((Bracket.members flags (Bracket.read? flags depth) steps set last inside).bind
              fun answer => some ⟨complement, answer.1, answer.2⟩)
            ((Bracket.members flags (Bracket.read? flags more) steps' set' last' inside').bind
              fun answer => some ⟨complement', answer.1, answer.2⟩) := by
        intro reading reading' is is'
        obtain ⟨⟨base, rest⟩, found, ⟨⟩⟩ := Option.bind_eq_some_iff.mp is
        obtain ⟨⟨base', rest'⟩, found', ⟨⟩⟩ := Option.bind_eq_some_iff.mp is'
        have inner (text other : List Char) (disabled : Disabled anchors text other) :=
          ih disabled more
        exact (members flags inner _ _ _ _ lasts disabled _ _ _ _ found found').2
      simp only [Bracket.read?]
      generalize (if text.head? = some '^' then text.drop 1 else text) = inside at front
      generalize (if other.head? = some '^' then other.drop 1 else other) = inside' at front
      cases front with
      | nil => exact whole .nothing .nil
      | lone => exact whole .nothing .lone
      | escape kept rest => exact whole .nothing (.escape kept rest)
      | anchor disables rest => exact whole .nothing (.anchor disables rest)
      | @plain c inside inside' plain rest =>
        by_cases closes : c = ']'
        · subst closes
          intro reading reading' is is'
          replace is : (if Bracket.occurs ']' inside = true then _ else _) = some reading := is
          replace is' : (if Bracket.occurs ']' inside' = true then _ else _) = some reading' := is'
          split at is
          · split at is'
            · exact whole (.code _ _) rest _ _ is is'
            · cases is'
          · cases is
        · split
          · exact absurd (by simp_all) closes
          · split
            · exact absurd (by simp_all) closes
            · exact whole .nothing (.plain plain rest)

end Disabled

end Readers

end Regex

end ScopeTokenizer
