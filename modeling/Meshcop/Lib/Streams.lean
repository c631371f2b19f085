/-
  Meshcop.Lib.Streams — byte strings that are items written one after the other.

  A loop that reads one item, goes on behind it and stops at the end of the input parses a
  concatenation of items.  What an item looks like is given by a relation `Item a written`; the
  reader of one item is `Delimited` if it takes exactly an item off the front of any input.
  Then the loop is exact:

    * `Written Item as input` — the input is the items `as`, each written in some form;
    * `written_iff_mapM`, `foldlM_nil_eq_ok_iff` — items written by an encoder;
    * `Loop.eq_ok_iff`        — the loop returns `as` exactly if the input is `as` written;
    * `Delimited.cancel`      — items in front of a rest: the rest is the rest of the items.
-/

import Meshcop.Lib.Computation

namespace Lib

variable {β ε α : Type}

/-! ## §1. Items one after the other. -/

/-- The input is the given items, each written in a form that `Item` allows. -/
inductive Written (Item : α → List β → Prop) : List α → List β → Prop where
  | nil : Written Item [] []
  | cons {a : α} {written : List β} {as : List α} {rest : List β} (head : Item a written)
      (tail : Written Item as rest) : Written Item (a :: as) (written ++ rest)

namespace Written

variable {Item : α → List β → Prop} {as cs : List α} {input rest : List β}

theorem append (h : Written Item as input) (h' : Written Item cs rest) :
    Written Item (as ++ cs) (input ++ rest) := by
  induction h with
  | nil => exact h'
  | cons head tail ih =>
    rw [List.append_assoc]
    exact .cons head ih

/-- Items of which every written form is one the other relation allows too. -/
theorem mono {Item' : α → List β → Prop} (h : Written Item as input)
    (hitem : ∀ a ∈ as, ∀ written, Item a written → Item' a written) :
    Written Item' as input := by
  induction h with
  | nil => exact .nil
  | cons head tail ih =>
    refine .cons (hitem _ List.mem_cons_self _ head) (ih fun a ha => ?_)
    exact hitem a (List.mem_cons_of_mem _ ha)

/-- What holds of every item that can be written holds of every item that is. -/
theorem forall_mem {P : α → Prop} (h : Written Item as input)
    (hitem : ∀ a written, Item a written → P a) : ∀ a ∈ as, P a := by
  induction h with
  | nil => exact List.forall_mem_nil _
  | cons head tail ih =>
    intro a ha
    rcases List.mem_cons.mp ha with rfl | ha
    · exact hitem _ _ head
    · exact ih a ha

end Written

/-- Items that an encoder writes are written one after the other. -/
theorem written_iff_mapM {f : α → Except ε (List β)} {as : List α} {input : List β} :
    Written (fun a written => f a = .ok written) as input ↔
      ∃ pieces, as.mapM f = .ok pieces ∧ input = pieces.flatten := by
  constructor
  · intro h
    induction h with
    | nil => exact ⟨[], rfl, rfl⟩
    | @cons a written as rest head tail ih =>
      obtain ⟨pieces, hpieces, rfl⟩ := ih
      refine ⟨written :: pieces, ?_, rfl⟩
      rw [List.mapM_cons, head, hpieces]
      rfl
  · rintro ⟨pieces, hpieces, rfl⟩
    induction as generalizing pieces with
    | nil =>
      cases hpieces
      exact .nil
    | cons a as ih =>
      rw [List.mapM_cons] at hpieces
      obtain ⟨first, hfirst, hpieces⟩ := bind_eq_ok.mp hpieces
      obtain ⟨rest, hrest, hpieces⟩ := bind_eq_ok.mp hpieces
      cases hpieces
      exact .cons hfirst (ih rest hrest)

/-- The same for an encoder's loop, behind what was written before it. -/
theorem foldlM_eq_ok_iff {f : α → Except ε (List β)} {as : List α} {out input : List β} :
    as.foldlM (fun out a => do
        let written ← f a
        return out ++ written) out = .ok input ↔
      ∃ tail, input = out ++ tail ∧ Written (fun a written => f a = .ok written) as tail := by
  induction as generalizing out with
  | nil =>
    constructor
    · intro h
      cases h
      exact ⟨[], (List.append_nil _).symm, .nil⟩
    · rintro ⟨tail, rfl, hwritten⟩
      cases hwritten
      rw [List.append_nil]
      rfl
  | cons a as ih =>
    rw [List.foldlM_cons]
    constructor
    · intro h
      obtain ⟨front, hfront, h⟩ := bind_eq_ok.mp h
      obtain ⟨first, hfirst, hout⟩ := bind_eq_ok.mp hfront
      cases hout
      obtain ⟨tail, rfl, htail⟩ := ih.mp h
      exact ⟨first ++ tail, List.append_assoc .., .cons hfirst htail⟩
    · rintro ⟨tail, rfl, hwritten⟩
      cases hwritten with
      | @cons _ first _ tail hfirst htail =>
        rw [hfirst]
        exact ih.mpr ⟨tail, (List.append_assoc ..).symm, htail⟩

/-- A loop that starts with nothing written. -/
theorem foldlM_nil_eq_ok_iff {f : α → Except ε (List β)} {as : List α} {input : List β} :
    as.foldlM (fun out a => do
        let written ← f a
        return out ++ written) [] = .ok input ↔
      Written (fun a written => f a = .ok written) as input := by
  rw [foldlM_eq_ok_iff]
  constructor
  · rintro ⟨tail, rfl, htail⟩
    exact htail
  · intro h
    exact ⟨input, rfl, h⟩

/-! ## §2. Readers of one item. -/

/-- The reader takes exactly one item off the front of the input, whatever follows it. -/
structure Delimited (one : List β → Except ε (α × List β)) (Item : α → List β → Prop) : Prop where
  reads : ∀ {a written} (rest : List β), Item a written → one (written ++ rest) = .ok (a, rest)
  sound : ∀ {input a rest}, one input = .ok (a, rest) → ∃ written, Item a written ∧
    input = written ++ rest
  nonempty : ∀ {a written}, Item a written → written ≠ []

/-- One way only to take items off the front: the rest of the input is the rest of the items.  The
    whole may be written in forms of a narrower kind. -/
theorem Delimited.cancel {one : List β → Except ε (α × List β)} {Item Item' : α → List β → Prop}
    (hone : Delimited one Item) (hitem : ∀ a written, Item' a written → Item a written)
    {as : List α} {input : List β} (h : Written Item as input) :
    ∀ {cs : List α} {rest : List β}, Written Item' cs (input ++ rest) →
      ∃ bs, cs = as ++ bs ∧ Written Item' bs rest := by
  induction h with
  | nil => exact fun {cs} {rest} h' => ⟨cs, rfl, h'⟩
  | @cons a written as tail head _ ih =>
    intro cs rest h'
    rw [List.append_assoc] at h'
    have hread := hone.reads (tail ++ rest) head
    generalize hinput : written ++ (tail ++ rest) = whole at h' hread
    cases h' with
    | nil => exact absurd (List.append_eq_nil_iff.mp hinput).1 (hone.nonempty head)
    | @cons c written' cs rest' head' tail' =>
      -- the reader has one result on the whole input
      rw [hone.reads rest' (hitem _ _ head')] at hread
      cases hread
      obtain ⟨bs, rfl, hbs⟩ := ih tail'
      exact ⟨bs, rfl, hbs⟩

/-! ## §3. Loops over the input. -/

/-- A loop that reads an item a turn until the input is used up, on some fuel. -/
structure Loop (one : List β → Except ε (α × List β))
    (loop : Nat → List β → Except ε (List α)) : Prop where
  stop : ∀ fuel, loop fuel [] = .ok []
  turn : ∀ fuel b bs, loop (fuel + 1) (b :: bs) = (do
    let (a, rest) ← one (b :: bs)
    let as ← loop fuel rest
    return a :: as)

namespace Loop

variable {one : List β → Except ε (α × List β)} {loop : Nat → List β → Except ε (List α)}
  {Item : α → List β → Prop}

/-- **The loop is exact.**  With as much fuel as there is input it returns the items the input is
    made of, and nothing else. -/
theorem eq_ok_iff (hloop : Loop one loop) (hone : Delimited one Item) {fuel : Nat}
    {input : List β} (hfuel : input.length ≤ fuel) {as : List α} :
    loop fuel input = .ok as ↔ Written Item as input := by
  constructor
  · intro h
    induction fuel generalizing input as with
    | zero =>
      rw [List.eq_nil_of_length_eq_zero (Nat.le_zero.mp hfuel), hloop.stop] at *
      cases h
      exact .nil
    | succ fuel ih =>
      cases input with
      | nil =>
        rw [hloop.stop] at h
        cases h
        exact .nil
      | cons b bs =>
        rw [hloop.turn] at h
        obtain ⟨⟨a, rest⟩, ha, h⟩ := bind_eq_ok.mp h
        obtain ⟨as', has, h⟩ := bind_eq_ok.mp h
        cases h
        obtain ⟨written, hitem, hinput⟩ := hone.sound ha
        have hpos := List.length_pos_iff.mpr (hone.nonempty hitem)
        rw [hinput, List.length_append] at hfuel
        rw [hinput]
        exact .cons hitem (ih (by omega) has)
  · intro h
    induction h generalizing fuel with
    | nil => exact hloop.stop fuel
    | @cons a written as rest head tail ih =>
      have hpos := List.length_pos_iff.mpr (hone.nonempty head)
      rw [List.length_append] at hfuel
      obtain ⟨fuel, rfl⟩ : ∃ k, fuel = k + 1 := ⟨fuel - 1, by omega⟩
      have hread := hone.reads rest head
      generalize hwhole : written ++ rest = whole at hread ⊢
      cases whole with
      | nil => exact absurd (List.append_eq_nil_iff.mp hwhole).1 (hone.nonempty head)
      | cons b bs =>
        rw [hloop.turn, hread]
        show (loop fuel rest >>= _) = _
        rw [ih (by omega)]
        rfl

end Loop

end Lib
