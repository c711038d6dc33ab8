/-!
# Splitting

A list of characters is split at every occurrence of a separator; there is always at least one part.
-/

namespace ApiContract.Text

/-- The parts of a list between separators. -/
def splitChars (separator : Char) : List Char → List (List Char)
  | [] => [[]]
  | c :: rest =>
    if c == separator then [] :: splitChars separator rest
    else
      match splitChars separator rest with
      | part :: parts => (c :: part) :: parts
      | [] => [[c]]

/-- There is at least one part. -/
theorem splitChars_ne_nil (separator : Char) (cs : List Char) : splitChars separator cs ≠ [] := by
  induction cs with
  | nil => simp [splitChars]
  | cons c rest ih =>
    simp only [splitChars]
    split
    · simp
    · split <;> simp

/-- No part holds the separator. -/
theorem not_mem_of_mem_splitChars {separator : Char} {cs part : List Char}
    (h : part ∈ splitChars separator cs) : separator ∉ part := by
  induction cs generalizing part with
  | nil => simp_all [splitChars]
  | cons c rest ih =>
    simp only [splitChars] at h
    split at h
    · rcases List.mem_cons.1 h with rfl | h
      · simp
      · exact ih h
    · rename_i hc
      split at h
      · rename_i first parts heq
        rcases List.mem_cons.1 h with rfl | h
        · simp only [List.mem_cons, not_or]
          exact ⟨fun e => hc (by simp [e]), ih (by simp [heq])⟩
        · exact ih (by simp [heq, h])
      · rename_i heq
        exact absurd heq (splitChars_ne_nil _ _)

/-- The parts with separators between them give back the list. -/
theorem intercalate_splitChars (separator : Char) (cs : List Char) :
    List.intercalate [separator] (splitChars separator cs) = cs := by
  induction cs with
  | nil => simp [splitChars, List.intercalate]
  | cons c rest ih =>
    simp only [splitChars]
    split
    · rename_i hc
      cases hp : splitChars separator rest with
      | nil => exact absurd hp (splitChars_ne_nil _ _)
      | cons part parts =>
        rw [hp] at ih
        simp only [beq_iff_eq] at hc
        simp_all [List.intercalate, List.intersperse]
    · cases hp : splitChars separator rest with
      | nil => exact absurd hp (splitChars_ne_nil _ _)
      | cons part parts =>
        rw [hp] at ih
        cases parts <;> simp_all [List.intercalate, List.intersperse]

end ApiContract.Text
