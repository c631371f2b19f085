/-
  Meshcop.Lib.Blocks — blocks of one width, back to back.

  A generator that hands out one block after another and is cut at some length hands out the
  front of one infinite stream.  `backToBack` is that stream; its first block stands before the
  stream of the others, which is all that an induction over the generator's turns needs.
-/

import Mathlib.Data.Stream.Init

namespace Lib

variable {α : Type*} {width : Nat}

/-- Blocks of one width, back to back without end. -/
def backToBack (blocks : Nat → List α) (hpos : 0 < width)
    (hsized : ∀ i, (blocks i).length = width) : Stream' α :=
  fun k => (blocks (k / width)).get ⟨k % width, by rw [hsized]; exact Nat.mod_lt k hpos⟩

/-- Item `k` stands in block `k / width`. -/
theorem getElem?_block {blocks : Nat → List α} (hpos : 0 < width)
    (hsized : ∀ i, (blocks i).length = width) (k : Nat) :
    (blocks (k / width))[k % width]? = some ((backToBack blocks hpos hsized).get k) :=
  List.getElem?_eq_getElem _

/-- **The first block stands before the others.** -/
theorem backToBack_eq_append {blocks : Nat → List α} (hpos : 0 < width)
    (hsized : ∀ i, (blocks i).length = width) : backToBack blocks hpos hsized =
      blocks 0 ++ₛ backToBack (fun i => blocks (i + 1)) hpos (fun i => hsized (i + 1)) := by
  apply Stream'.ext
  intro k
  apply Option.some.inj
  rw [← getElem?_block hpos hsized]
  by_cases hfirst : k < width
  · have hlt : k < (blocks 0).length := by rw [hsized]; exact hfirst
    rw [Stream'.get_append_left _ _ _ hlt, Nat.div_eq_of_lt hfirst, Nat.mod_eq_of_lt hfirst]
    exact List.getElem?_eq_getElem hlt
  -- the block behind the first, one index earlier
  obtain ⟨j, rfl⟩ := Nat.exists_eq_add_of_le (Nat.le_of_not_lt hfirst)
  have hget := Stream'.get_append_right j (blocks 0)
    (backToBack (fun i => blocks (i + 1)) hpos fun i => hsized (i + 1))
  rw [hsized] at hget
  rw [hget, ← getElem?_block hpos (fun i => hsized (i + 1)), Nat.add_div_left j hpos,
    Nat.add_mod_left]

end Lib
