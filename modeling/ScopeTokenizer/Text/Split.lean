/-!
# Cutting text into pieces

Two ways to cut a text at separator characters: into all pieces, empty ones
included, or into the non-empty pieces only. Both keep the pieces in order.
-/

namespace ScopeTokenizer.Text

/-- The pieces of a text between separators. There is always one more piece than
there are separators, so pieces may be empty. -/
def pieces (isSeparator : Char → Bool) : List Char → List (List Char)
  | [] => [[]]
  | c :: rest =>
    if isSeparator c then [] :: pieces isSeparator rest
    else match pieces isSeparator rest with
      | [] => [[c]]
      | piece :: others => (c :: piece) :: others

/-- The non-empty pieces of a text between separators. -/
def words (isSeparator : Char → Bool) (text : List Char) : List (List Char) :=
  (pieces isSeparator text).filter (· ≠ [])

theorem pieces_ne_nil (isSeparator : Char → Bool) (text : List Char) :
    pieces isSeparator text ≠ [] := by
  cases text with
  | nil => simp [pieces]
  | cons c rest =>
    unfold pieces
    split
    · simp
    · split <;> simp

/-- The pieces give the text back, if the separator was only one character. -/
theorem intercalate_pieces (separator : Char) (text : List Char) :
    [separator].intercalate (pieces (· == separator) text) = text := by
  induction text with
  | nil => rfl
  | cons c rest ih =>
    unfold pieces
    cases cut : pieces (· == separator) rest with
    | nil => exact absurd cut (pieces_ne_nil _ _)
    | cons piece others =>
      rw [cut] at ih
      split
      · next equal =>
        rw [List.intercalate_cons_cons, ih, beq_iff_eq.mp equal]
        rfl
      · cases others with
        | nil => simpa using ih
        | cons next others =>
          rw [List.intercalate_cons_cons] at ih ⊢
          rw [← ih]
          rfl

section Words

variable {isSeparator : Char → Bool}

/-- Between two texts a separator cuts. -/
theorem pieces_append {separator : Char} (cuts : isSeparator separator = true)
    (front back : List Char) :
    pieces isSeparator (front ++ separator :: back) =
      pieces isSeparator front ++ pieces isSeparator back := by
  induction front with
  | nil => simp [pieces, cuts]
  | cons c front ih =>
    rw [List.cons_append, pieces, pieces, ih]
    split
    · rfl
    · cases cut : pieces isSeparator front with
      | nil => exact absurd cut (pieces_ne_nil _ _)
      | cons piece others => rfl

theorem pieces_of_uncut {text : List Char} (uncut : ∀ c ∈ text, isSeparator c = false) :
    pieces isSeparator text = [text] := by
  induction text with
  | nil => rfl
  | cons c rest ih =>
    obtain ⟨first, others⟩ := List.forall_mem_cons.mp uncut
    rw [pieces, ih others, if_neg (Bool.eq_false_iff.mp first)]

theorem words_append {separator : Char} (cuts : isSeparator separator = true)
    (front back : List Char) :
    words isSeparator (front ++ separator :: back) =
      words isSeparator front ++ words isSeparator back := by
  rw [words, pieces_append cuts, List.filter_append, words, words]

theorem words_of_uncut {text : List Char} (uncut : ∀ c ∈ text, isSeparator c = false)
    (filled : text ≠ []) : words isSeparator text = [text] := by
  rw [words, pieces_of_uncut uncut]
  exact List.filter_eq_self.mpr fun piece mem => by simpa [List.mem_singleton.mp mem] using filled

theorem words_of_separators {text : List Char} (all : ∀ c ∈ text, isSeparator c = true) :
    words isSeparator text = [] := by
  induction text with
  | nil => rfl
  | cons c rest ih =>
    obtain ⟨first, others⟩ := List.forall_mem_cons.mp all
    exact (words_append first [] rest).trans (ih others)

end Words

@[simp] theorem words_nil (isSeparator : Char → Bool) : words isSeparator [] = [] := rfl

/-- Cuts a text at every occurrence of one character. -/
def splitAt (separator : Char) (text : String) : List String :=
  (pieces (· == separator) text.toList).map String.ofList

/-- Cuts a text at its first occurrence of a character, which belongs to neither
part. -/
def splitFirst? (separator : Char) : List Char → Option (List Char × List Char)
  | [] => none
  | c :: rest =>
    if c = separator then some ([], rest)
    else (splitFirst? separator rest).map fun (before, after) => (c :: before, after)

section Runs

variable {p : Char → Bool} {front rest : List Char}

/-- A run of characters ends where the next one is of another kind. -/
theorem takeWhile_append_eq (inside : ∀ c ∈ front, p c) (ends : ∀ c ∈ rest.head?, p c = false) :
    (front ++ rest).takeWhile p = front := by
  rw [List.takeWhile_append_of_pos inside]
  cases rest with
  | nil => simp
  | cons c rest => simp [ends c rfl]

theorem dropWhile_append_eq (inside : ∀ c ∈ front, p c) (ends : ∀ c ∈ rest.head?, p c = false) :
    (front ++ rest).dropWhile p = rest := by
  rw [List.dropWhile_append_of_pos inside]
  cases rest with
  | nil => rfl
  | cons c rest => simp [ends c rfl]

theorem head?_dropWhile_eq_false {text : List Char} :
    ∀ c ∈ (text.dropWhile p).head?, p c = false := by
  intro c first
  have := List.head?_dropWhile_not p text
  rw [Option.mem_def.mp first] at this
  simpa using this

end Runs

end ScopeTokenizer.Text
