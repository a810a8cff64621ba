/-!
# Encoded lengths

How many bytes the characters of a text take in its encoded form. Only offsets that are
told to others, and texts that end too early, are counted this way.
-/

namespace ScopeTokenizer.Text

/-- The length of a text in its encoded form, in bytes. -/
def encodedLength : List Char → Nat
  | [] => 0
  | c :: rest => c.utf8Size + encodedLength rest

@[simp] theorem encodedLength_append (first second : List Char) :
    encodedLength (first ++ second) = encodedLength first + encodedLength second := by
  induction first with
  | nil => simp [encodedLength]
  | cons c rest ih => simp [encodedLength, ih, Nat.add_assoc]

/-- Every character takes a byte at least. -/
theorem length_le_encodedLength (text : List Char) : text.length ≤ encodedLength text := by
  induction text with
  | nil => exact Nat.le_refl 0
  | cons c rest ih =>
    have size : 0 < c.utf8Size := c.utf8Size_pos
    rw [List.length_cons, encodedLength]
    omega

end ScopeTokenizer.Text
