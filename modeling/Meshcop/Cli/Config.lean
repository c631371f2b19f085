/-
  Meshcop.Cli.Config — comments in a configuration file
  (`ot-commissioner-cli/src/cli/config.rs`, `strip_json_comments`).

  The scanner works on the bytes of the text and gives out every byte it keeps as a character of
  its own.  Its decisions are those of a scanner over characters, since no byte of a longer
  character looks like a quote, a backslash, a slash or a star; but such a character comes out as
  several.

  Main results:
    * `stripFrom_bytesOf`       — what comes out, from every state of the scanner;
    * `comments_stripped_iff`   — when that is the text without its comments.
-/

import Meshcop.Lib.Bytes

namespace Meshcop

open Lib

/-! ## §1. The scanner. -/

/-- Behind a block comment, whose opening was passed. -/
def skipBlock : Bytes → Bytes
  | b :: c :: rest => if b = 0x2a ∧ c = 0x2f then rest else skipBlock (c :: rest)
  | _ => []

theorem length_skipBlock_le (bytes : Bytes) : (skipBlock bytes).length ≤ bytes.length := by
  fun_induction skipBlock bytes with
  | case1 b c rest _ => exact Nat.le_add_right _ 2
  | case2 b c rest _ ih => exact Nat.le_trans ih (Nat.le_succ _)
  | case3 => exact Nat.zero_le _

/-- The loop of the scanner, with what is left of the text; the characters it pushes. -/
def stripFrom (inString : Bool) : Bytes → List Char
  | [] => []
  | b :: rest =>
    if inString then
      -- an escaped byte, if there is one, goes with its backslash
      if b = 0x5c then
        Char.ofUInt8 b :: ((rest.take 1).map Char.ofUInt8 ++ stripFrom true (rest.drop 1))
      else Char.ofUInt8 b :: stripFrom (b ≠ 0x22) rest
    else if b = 0x22 then '"' :: stripFrom true rest
    else if b = 0x2f ∧ rest.head? = some 0x2f then
      stripFrom false (rest.dropWhile (· ≠ 0x0a))
    else if b = 0x2f ∧ rest.head? = some 0x2a then stripFrom false (skipBlock rest.tail)
    else Char.ofUInt8 b :: stripFrom false rest
  termination_by bytes => bytes.length
  decreasing_by
    all_goals simp only [List.length_cons, List.length_drop]
    · omega
    · omega
    · omega
    · exact Nat.lt_succ_of_le (List.dropWhile_suffix _).length_le
    · have h := length_skipBlock_le rest.tail
      rw [List.length_tail] at h
      omega
    · omega

/-- The UTF-8 bytes of a text. -/
def bytesOf (text : List Char) : Bytes := text.flatMap String.utf8EncodeChar

def stripJsonComments (text : List Char) : List Char := stripFrom false (bytesOf text)

/-! ## §2. Comments in a text. -/

/-- Where a character of a text stands. -/
inductive Region where
  | code
  | literal
  | line
  | block
  deriving DecidableEq

/-- The characters of a text with where they stand, entered in the given region.  A string literal
    ends at the first quote that no backslash escapes, a line comment before the end of its line
    and a block comment with its closing marker. -/
def regions : Region → List Char → List (Char × Region)
  | _, [] => []
  | .code, '"' :: rest => ('"', .literal) :: regions .literal rest
  | .code, '/' :: '/' :: rest => ('/', .line) :: ('/', .line) :: regions .line rest
  | .code, '/' :: '*' :: rest => ('/', .block) :: ('*', .block) :: regions .block rest
  | .code, c :: rest => (c, .code) :: regions .code rest
  | .literal, '\\' :: c :: rest => ('\\', .literal) :: (c, .literal) :: regions .literal rest
  | .literal, '"' :: rest => ('"', .literal) :: regions .code rest
  | .literal, c :: rest => (c, .literal) :: regions .literal rest
  | .line, '\n' :: rest => ('\n', .code) :: regions .code rest
  | .line, c :: rest => (c, .line) :: regions .line rest
  | .block, '*' :: '/' :: rest => ('*', .block) :: ('/', .block) :: regions .code rest
  | .block, c :: rest => (c, .block) :: regions .block rest

/-- What of a text, entered in a region, is outside comments. -/
def outside (region : Region) (text : List Char) : List Char :=
  ((regions region text).filter fun entry => entry.2 = .code ∨ entry.2 = .literal).map Prod.fst

theorem regions_map_fst (region : Region) (text : List Char) :
    (regions region text).map Prod.fst = text := by
  fun_induction regions region text <;> simp_all

/-! ## §3. Bytes of characters. -/

open String (utf8EncodeChar)

/-- A character is one byte below 128, or several from there on. -/
theorem utf8EncodeChar_cases (c : Char) :
    (c.toNat < 128 ∧ utf8EncodeChar c = [UInt8.ofNat c.toNat]) ∨
      (128 ≤ c.toNat ∧ 1 < (utf8EncodeChar c).length ∧ ∀ b ∈ utf8EncodeChar c, 128 ≤ b.toNat) := by
  by_cases hascii : c.toNat < 128
  · exact Or.inl ⟨hascii, if_pos (Nat.le_of_lt_succ hascii)⟩
  · refine Or.inr ⟨Nat.le_of_not_lt hascii, ?_⟩
    unfold utf8EncodeChar
    have hwide : ¬ c.val.toNat ≤ 0x7f := fun h => hascii (Nat.lt_succ_of_le h)
    dsimp only
    rw [if_neg hwide]
    split
    · simp only [List.length_cons, List.forall_mem_cons, UInt8.toNat_ofNat']
      exact ⟨by decide, by omega, by omega, List.forall_mem_nil _⟩
    · split
      · simp only [List.length_cons, List.forall_mem_cons, UInt8.toNat_ofNat']
        exact ⟨by decide, by omega, by omega, by omega, List.forall_mem_nil _⟩
      · simp only [List.length_cons, List.forall_mem_cons, UInt8.toNat_ofNat']
        exact ⟨by decide, by omega, by omega, by omega, by omega, List.forall_mem_nil _⟩

/-- No byte of another character is a given ASCII one. -/
theorem ne_of_mem_utf8EncodeChar {c d : Char} (hd : d.toNat < 128) (hne : c ≠ d) {b : UInt8}
    (hb : b ∈ utf8EncodeChar c) : b ≠ UInt8.ofNat d.toNat := by
  have hbyte : (UInt8.ofNat d.toNat).toNat = d.toNat := by
    rw [UInt8.toNat_ofNat', Nat.mod_eq_of_lt (by omega)]
  rintro rfl
  rcases utf8EncodeChar_cases c with ⟨hc, henc⟩ | ⟨-, -, hhigh⟩
  · rw [henc, List.mem_singleton] at hb
    have hsame := congrArg UInt8.toNat hb
    rw [hbyte, UInt8.toNat_ofNat', Nat.mod_eq_of_lt (by omega)] at hsame
    exact hne (Char.toNat_inj.mp hsame.symm)
  · have hlow := hhigh _ hb
    omega

/-- The bytes of a character behind its first one. -/
theorem utf8EncodeChar_eq_cons (c : Char) :
    ∃ b tail, utf8EncodeChar c = b :: tail ∧ ∀ x ∈ tail, x ≠ 0x5c ∧ x ≠ 0x22 := by
  rcases utf8EncodeChar_cases c with ⟨-, henc⟩ | ⟨-, -, hhigh⟩
  · exact ⟨_, [], henc, List.forall_mem_nil _⟩
  · obtain ⟨b, tail, henc⟩ := List.exists_cons_of_ne_nil (String.utf8EncodeChar_ne_nil (c := c))
    refine ⟨b, tail, henc, fun x hx => ?_⟩
    have hx := hhigh x (by rw [henc]; exact List.mem_cons_of_mem _ hx)
    constructor
    · rintro rfl
      exact absurd hx (by decide)
    · rintro rfl
      exact absurd hx (by decide)

theorem head_bytesOf {d : Char} (hd : d.toNat < 128) {text : List Char}
    (h : (bytesOf text).head? = some (UInt8.ofNat d.toNat)) : text.head? = some d := by
  cases text with
  | nil => cases h
  | cons c rest =>
    by_contra hne
    have hne : c ≠ d := fun hsame => hne (congrArg some hsame)
    rw [bytesOf, List.flatMap_cons, List.head?_append_of_ne_nil _ String.utf8EncodeChar_ne_nil] at h
    exact ne_of_mem_utf8EncodeChar hd hne (List.mem_of_head? h) rfl

section Runs

variable {run : Bytes}

theorem stripFrom_literal (h : ∀ b ∈ run, b ≠ 0x5c ∧ b ≠ 0x22) (rest : Bytes) :
    stripFrom true (run ++ rest) = run.map Char.ofUInt8 ++ stripFrom true rest := by
  induction run with
  | nil => rfl
  | cons b run ih =>
    obtain ⟨⟨hescape, hquote⟩, h⟩ := List.forall_mem_cons.mp h
    rw [List.cons_append, stripFrom, if_pos rfl, if_neg hescape, decide_eq_true hquote, ih h]
    rfl

theorem stripFrom_code (h : ∀ b ∈ run, b ≠ 0x22 ∧ b ≠ 0x2f) (rest : Bytes) :
    stripFrom false (run ++ rest) = run.map Char.ofUInt8 ++ stripFrom false rest := by
  induction run with
  | nil => rfl
  | cons b run ih =>
    obtain ⟨⟨hquote, hslash⟩, h⟩ := List.forall_mem_cons.mp h
    rw [List.cons_append, stripFrom, if_neg Bool.false_ne_true, if_neg hquote,
      if_neg (fun hline => hslash hline.1), if_neg (fun hblock => hslash hblock.1), ih h]
    rfl

theorem skipBlock_cons {b : UInt8} {rest : Bytes} (h : ¬ (b = 0x2a ∧ rest.head? = some 0x2f)) :
    skipBlock (b :: rest) = skipBlock rest := by
  cases rest with
  | nil => rfl
  | cons c rest =>
    rw [skipBlock, if_neg]
    rintro ⟨rfl, rfl⟩
    exact h ⟨rfl, rfl⟩

theorem skipBlock_run (h : ∀ b ∈ run, b ≠ 0x2a) (rest : Bytes) :
    skipBlock (run ++ rest) = skipBlock rest := by
  induction run with
  | nil => rfl
  | cons b run ih =>
    obtain ⟨hstar, h⟩ := List.forall_mem_cons.mp h
    rw [List.cons_append, skipBlock_cons fun hend => hstar hend.1, ih h]

end Runs

/-! ## §4. What comes out. -/

/-- A character as the scanner gives it out: each of its bytes for itself. -/
def bytewise (c : Char) : List Char := (utf8EncodeChar c).map Char.ofUInt8

/-- The scanner inside a region. -/
def stripIn : Region → Bytes → List Char
  | .code, bytes => stripFrom false bytes
  | .literal, bytes => stripFrom true bytes
  | .line, bytes => stripFrom false (bytes.dropWhile (· ≠ 0x0a))
  | .block, bytes => stripFrom false (skipBlock bytes)

theorem bytesOf_cons (c : Char) (rest : List Char) :
    bytesOf (c :: rest) = utf8EncodeChar c ++ bytesOf rest := List.flatMap_cons

/-- **What comes out** of the scanner is what is outside comments, byte by byte. -/
theorem stripIn_bytesOf (region : Region) (text : List Char) :
    stripIn region (bytesOf text) = (outside region text).flatMap bytewise := by
  unfold outside
  fun_induction regions region text with
  | case1 region => cases region <;> simp [bytesOf, stripIn, stripFrom, skipBlock]
  | case2 rest ih =>
    show stripFrom false (0x22 :: bytesOf rest) = '"' :: _
    rw [stripFrom, if_neg Bool.false_ne_true, if_pos rfl]
    exact congrArg _ ih
  | case3 rest ih =>
    show stripFrom false (0x2f :: 0x2f :: bytesOf rest) = _
    rw [stripFrom]
    exact ih
  | case4 rest ih =>
    show stripFrom false (0x2f :: 0x2a :: bytesOf rest) = _
    rw [stripFrom]
    exact ih
  | case5 c rest hquote hline hblock ih =>
    rw [bytesOf_cons]
    show stripFrom false _ = bytewise c ++ List.flatMap bytewise _
    rw [← ih]
    by_cases hslash : c = '/'
    · subst hslash
      have hnext : ∀ d : Char, d.toNat < 128 → (∀ more, rest = d :: more → False) →
          (bytesOf rest).head? ≠ some (UInt8.ofNat d.toNat) := by
        intro d hd hnone hhead
        obtain ⟨more, hmore⟩ := List.head?_eq_some_iff.mp (head_bytesOf hd hhead)
        exact hnone more hmore
      show stripFrom false (0x2f :: bytesOf rest) = _
      rw [stripFrom, if_neg Bool.false_ne_true, if_neg (by decide),
        if_neg (fun h => hnext '/' (by decide) (fun more => hline more rfl) h.2),
        if_neg (fun h => hnext '*' (by decide) (fun more => hblock more rfl) h.2)]
      rfl
    · refine stripFrom_code (fun b hb => ⟨?_, ?_⟩) _
      · exact ne_of_mem_utf8EncodeChar (d := '"') (by decide) hquote hb
      · exact ne_of_mem_utf8EncodeChar (d := '/') (by decide) hslash hb
  | case6 c rest ih =>
    obtain ⟨b, tail, henc, htail⟩ := utf8EncodeChar_eq_cons c
    rw [bytesOf_cons, bytesOf_cons]
    show stripFrom true (0x5c :: (utf8EncodeChar c ++ bytesOf rest)) =
      Char.ofUInt8 0x5c :: (bytewise c ++ List.flatMap bytewise _)
    rw [← ih, bytewise, henc, stripFrom, if_pos rfl, if_pos rfl]
    show _ :: _ :: stripFrom true (tail ++ bytesOf rest) = _
    rw [stripFrom_literal htail]
    rfl
  | case7 rest ih =>
    show stripFrom true (0x22 :: bytesOf rest) = '"' :: _
    rw [stripFrom]
    exact congrArg _ ih
  | case8 c rest hescape hquote ih =>
    rw [bytesOf_cons]
    show stripFrom true _ = bytewise c ++ List.flatMap bytewise _
    rw [← ih]
    by_cases hbackslash : c = '\\'
    · -- a backslash at the end of the text
      subst hbackslash
      cases rest with
      | nil =>
        show stripFrom true [0x5c] = _
        rw [stripFrom, if_pos rfl, if_pos rfl]
        rfl
      | cons d rest => exact (hescape d rest rfl rfl).elim
    · refine stripFrom_literal (fun b hb => ⟨?_, ?_⟩) _
      · exact ne_of_mem_utf8EncodeChar (d := '\\') (by decide) hbackslash hb
      · exact ne_of_mem_utf8EncodeChar (d := '"') (by decide) hquote hb
  | case9 rest ih =>
    show stripFrom false ([0x0a] ++ bytesOf rest) = '\n' :: _
    rw [stripFrom_code (List.forall_mem_singleton.mpr ⟨by decide, by decide⟩)]
    exact congrArg _ ih
  | case10 c rest hend ih =>
    rw [bytesOf_cons]
    show stripFrom false ((utf8EncodeChar c ++ bytesOf rest).dropWhile _) = _
    rw [List.dropWhile_append_of_pos]
    · exact ih
    · intro b hb
      exact decide_eq_true (ne_of_mem_utf8EncodeChar (d := '\n') (by decide) hend hb)
  | case11 rest ih => exact ih
  | case12 c rest hend ih =>
    rw [bytesOf_cons]
    show stripFrom false (skipBlock _) = _
    by_cases hstar : c = '*'
    · subst hstar
      show stripFrom false (skipBlock (0x2a :: bytesOf rest)) = _
      rw [skipBlock_cons]
      · exact ih
      · rintro ⟨-, hhead⟩
        obtain ⟨more, hmore⟩ := List.head?_eq_some_iff.mp (head_bytesOf (d := '/') (by decide) hhead)
        exact hend more rfl hmore
    · rw [skipBlock_run]
      · exact ih
      · exact fun b hb => ne_of_mem_utf8EncodeChar (d := '*') (by decide) hstar hb

theorem bytewise_of_lt {c : Char} (hc : c.toNat < 128) : bytewise c = [c] := by
  rcases utf8EncodeChar_cases c with ⟨-, henc⟩ | ⟨hwide, -⟩
  · rw [bytewise, henc, List.map_singleton]
    congr 1
    rw [← Char.toNat_inj]
    show (UInt8.ofNat c.toNat).toNat = c.toNat
    rw [UInt8.toNat_ofNat', Nat.mod_eq_of_lt (by omega)]
  · omega

/-- A text does not get shorter, and keeps its length only if it is ASCII. -/
theorem length_flatMap_bytewise (text : List Char) :
    text.length ≤ (text.flatMap bytewise).length ∧
      ((text.flatMap bytewise).length ≤ text.length → ∀ c ∈ text, c.toNat < 128) := by
  induction text with
  | nil => exact ⟨Nat.le_refl _, fun _ => List.forall_mem_nil _⟩
  | cons c text ih =>
    rw [List.flatMap_cons, List.length_append, List.length_cons, bytewise, List.length_map]
    rcases utf8EncodeChar_cases c with ⟨hc, henc⟩ | ⟨-, hlong, -⟩
    · rw [henc, List.length_singleton]
      refine ⟨by omega, fun hle => List.forall_mem_cons.mpr ⟨hc, ih.2 (by omega)⟩⟩
    · exact ⟨by omega, fun hle => absurd ih.1 (by omega)⟩

theorem flatMap_bytewise_eq_iff (text : List Char) :
    text.flatMap bytewise = text ↔ ∀ c ∈ text, c.toNat < 128 := by
  constructor
  · intro h
    exact (length_flatMap_bytewise text).2 (Nat.le_of_eq (congrArg List.length h))
  · intro h
    exact (List.flatMap_congr fun c hc => bytewise_of_lt (h c hc)).trans (List.flatMap_singleton' text)

/-- **Stripping comments.**  What comes out is the text without its comments exactly when nothing
    outside them is beyond ASCII; every other character comes out as one for each of its bytes.
    A text without comments comes back as it is under the same condition. -/
theorem comments_stripped_iff (text : List Char) :
    ((regions .code text).map Prod.fst = text ∧
      stripJsonComments text = (outside .code text).flatMap bytewise) ∧
    (stripJsonComments text = outside .code text ↔ ∀ c ∈ outside .code text, c.toNat < 128) ∧
    ((∀ entry ∈ regions .code text, entry.2 = .code ∨ entry.2 = .literal) →
      (stripJsonComments text = text ↔ ∀ c ∈ text, c.toNat < 128)) := by
  have hstrip : stripJsonComments text = (outside .code text).flatMap bytewise :=
    stripIn_bytesOf .code text
  rw [hstrip]
  refine ⟨⟨regions_map_fst .code text, rfl⟩, flatMap_bytewise_eq_iff _, fun hnone => ?_⟩
  have hall : outside .code text = text := by
    unfold outside
    rw [List.filter_eq_self.mpr fun entry hentry => decide_eq_true (hnone entry hentry)]
    exact regions_map_fst .code text
  rw [hall]
  exact flatMap_bytewise_eq_iff text

/-- A letter with an accent comes out as two characters. -/
theorem accent_torn : stripJsonComments ['é'] = ['Ã', '©'] ∧ outside .code ['é'] = ['é'] := by
  refine ⟨(stripIn_bytesOf .code ['é']).trans ?_, ?_⟩ <;> decide

end Meshcop
