/-!
# Proofs/Text/Span — how far a test goes

A reader takes the front of a text for as long as a test holds and goes on behind it.  What it takes
is known when the test fails on the first element behind, and that is where it always stops.
-/

namespace RegistryProxy.Span

variable {α : Type} {p : α → Bool} {front rest : List α}

/-- A test that holds on the front and stops there takes the front. -/
theorem takeWhile_append (hfront : ∀ x ∈ front, p x = true)
    (hrest : ∀ x ∈ rest.head?, p x = false) : (front ++ rest).takeWhile p = front := by
  rw [List.takeWhile_append_of_pos hfront]
  cases rest with
  | nil => exact List.append_nil front
  | cons x rest =>
    rw [List.takeWhile_cons_of_neg (Bool.eq_false_iff.1 (hrest x rfl)), List.append_nil]

/-- Such a test leaves the rest. -/
theorem dropWhile_append (hfront : ∀ x ∈ front, p x = true)
    (hrest : ∀ x ∈ rest.head?, p x = false) : (front ++ rest).dropWhile p = rest := by
  rw [List.dropWhile_append_of_pos hfront]
  cases rest with
  | nil => rfl
  | cons x rest => exact List.dropWhile_cons_of_neg (Bool.eq_false_iff.1 (hrest x rfl))

/-- A test stops where it fails. -/
theorem head?_dropWhile (p : α → Bool) (xs : List α) :
    ∀ x ∈ (xs.dropWhile p).head?, p x = false := by
  intro x hx
  have hhead := List.head?_dropWhile_not p xs
  rwa [Option.mem_def.1 hx] at hhead

end RegistryProxy.Span
