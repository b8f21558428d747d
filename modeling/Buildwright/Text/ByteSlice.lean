-- SUMMARY: Places in texts that count bytes.

/-!
# Places in bytes

A place in a text is the number of bytes in front of it. Some places lie within a character: a text cannot
be cut there.
-/
namespace Buildwright.Text

/-- The characters of a text with their places, from the place `n` on. -/
def placed (n : Nat) : List Char → List (Nat × Char)
  | [] => []
  | c :: cs => (n, c) :: placed (n + c.utf8Size) cs

/-- The characters behind the first `n` bytes. -/
def dropBytes? (n : Nat) : List Char → Option (List Char)
  | [] => if n = 0 then some [] else none
  | c :: cs =>
    if n = 0 then some (c :: cs)
    else if n < c.utf8Size then none
    else dropBytes? (n - c.utf8Size) cs

/-- The characters in the first `n` bytes. -/
def takeBytes? (n : Nat) : List Char → Option (List Char)
  | [] => if n = 0 then some [] else none
  | c :: cs =>
    if n = 0 then some []
    else if n < c.utf8Size then none
    else (takeBytes? (n - c.utf8Size) cs).map (c :: ·)

/-- A cut loses nothing. -/
theorem append_of_cut {n : Nat} {s left right : List Char} (hl : takeBytes? n s = some left)
    (hr : dropBytes? n s = some right) : s = left ++ right := by
  induction s generalizing n left with
  | nil =>
    by_cases h : n = 0 <;> simp_all [takeBytes?, dropBytes?]
  | cons c cs ih =>
    simp only [takeBytes?, dropBytes?] at hl hr
    by_cases h0 : n = 0
    · simp_all
    · by_cases h1 : n < c.utf8Size
      · simp [h0, h1] at hl
      · simp only [h0, h1, if_false, Option.map_eq_some_iff] at hl hr
        obtain ⟨a, ha, rfl⟩ := hl
        simp [ih ha hr]

end Buildwright.Text
