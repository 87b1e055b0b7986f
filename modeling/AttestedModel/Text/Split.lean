/-!
# Splitting texts

The pieces of a text between its separators.  There is one piece more than there
are separators, and no piece holds one.
-/

namespace AttestedModel.Text

/-- The pieces with an element before them. -/
def addToPieces (isSeparator : α → Bool) (a : α) (all : List (List α)) : List (List α) :=
  if isSeparator a then [] :: all
  else
    match all with
    | piece :: rest => (a :: piece) :: rest
    | [] => [[a]]

/-- The pieces between the separators. -/
def pieces (isSeparator : α → Bool) (as : List α) : List (List α) :=
  as.foldr (addToPieces isSeparator) [[]]

/-- Nothing has one piece, which is empty. -/
@[simp] theorem pieces_nil (isSeparator : α → Bool) : pieces isSeparator [] = [[]] := rfl

/-- The pieces of a text from those of what follows its first element. -/
@[simp] theorem pieces_cons (isSeparator : α → Bool) (a : α) (as : List α) :
    pieces isSeparator (a :: as) = addToPieces isSeparator a (pieces isSeparator as) := rfl

/-- There is a piece at least. -/
theorem pieces_ne_nil (isSeparator : α → Bool) (as : List α) : pieces isSeparator as ≠ [] := by
  cases as with
  | nil => simp
  | cons a as =>
    rw [pieces_cons]
    unfold addToPieces
    split
    · simp
    · split <;> simp

/-- No piece holds a separator. -/
theorem not_separator_of_mem_pieces {isSeparator : α → Bool} {as piece : List α} {a : α}
    (hp : piece ∈ pieces isSeparator as) (ha : a ∈ piece) : isSeparator a = false := by
  induction as generalizing piece with
  | nil => simp_all
  | cons b bs ih =>
    rw [pieces_cons] at hp
    unfold addToPieces at hp
    split at hp
    · rcases List.mem_cons.mp hp with rfl | hp
      · simp at ha
      · exact ih hp ha
    · rename_i hb
      split at hp
      · rename_i first rest heq
        rcases List.mem_cons.mp hp with rfl | hp
        · rcases List.mem_cons.mp ha with rfl | ha
          · simpa using hb
          · exact ih (heq ▸ List.mem_cons_self) ha
        · exact ih (heq ▸ List.mem_cons_of_mem _ hp) ha
      · rename_i heq
        exact absurd heq (pieces_ne_nil _ _)

end AttestedModel.Text
