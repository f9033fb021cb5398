/-!
# Strictly ascending lists

A finite set over an ordered type is kept as the list of its members, smallest first and each once.
`insert` puts one member into such a list and `ofList` builds it from members in any order. Which
members the list has (`mem_ofList`) needs nothing of the order; that it ascends (`pairwise_ofList`)
needs the order to be transitive and to compare any two members.
-/

set_option autoImplicit false

namespace AccessWindows.Ascending

universe u

variable {α : Type u} [LT α] [DecidableLT α] [DecidableEq α]

/-- Put `x` before the first larger member. A member equal to `x` absorbs it. -/
def insert (x : α) : List α → List α
  | [] => [x]
  | y :: ys => if x = y then y :: ys else if x < y then x :: y :: ys else y :: insert x ys

/-- The members of `xs`, smallest first and each once. -/
def ofList (xs : List α) : List α :=
  xs.foldr insert []

@[simp] theorem mem_insert {x z : α} {ys : List α} : z ∈ insert x ys ↔ z = x ∨ z ∈ ys := by
  induction ys with
  | nil => simp [insert]
  | cons y ys ih =>
      unfold insert
      split
      · next h => subst h; simp
      · split
        · simp
        · simp only [List.mem_cons, ih]
          constructor <;> rintro (h | h | h) <;> simp [h]

@[simp] theorem mem_ofList {z : α} {xs : List α} : z ∈ ofList xs ↔ z ∈ xs := by
  induction xs with
  | nil => simp [ofList]
  | cons x xs ih =>
      have step : ofList (x :: xs) = insert x (ofList xs) := rfl
      simp [step, ih]

/-- Inserting keeps an ascending list ascending. -/
theorem pairwise_insert (trans : ∀ a b c : α, a < b → b < c → a < c)
    (total : ∀ a b : α, a < b ∨ a = b ∨ b < a) (x : α) {ys : List α}
    (h : ys.Pairwise (· < ·)) : (insert x ys).Pairwise (· < ·) := by
  induction ys with
  | nil => simp [insert]
  | cons y ys ih =>
      obtain ⟨hy, hys⟩ := List.pairwise_cons.1 h
      unfold insert
      split
      · exact h
      · next hne =>
        split
        · next hlt =>
          refine List.pairwise_cons.2 ⟨fun z hz => ?_, h⟩
          rcases List.mem_cons.1 hz with rfl | hz
          · exact hlt
          · exact trans _ _ _ hlt (hy z hz)
        · next hnlt =>
          refine List.pairwise_cons.2 ⟨fun z hz => ?_, ih hys⟩
          rcases mem_insert.1 hz with rfl | hz
          · rcases total z y with h | h | h
            · exact absurd h hnlt
            · exact absurd h hne
            · exact h
          · exact hy z hz

/-- The members come out smallest first and each once. -/
theorem pairwise_ofList (trans : ∀ a b c : α, a < b → b < c → a < c)
    (total : ∀ a b : α, a < b ∨ a = b ∨ b < a) (xs : List α) :
    (ofList xs).Pairwise (· < ·) := by
  induction xs with
  | nil => simp [ofList]
  | cons x xs ih => exact pairwise_insert trans total x ih

end AccessWindows.Ascending
