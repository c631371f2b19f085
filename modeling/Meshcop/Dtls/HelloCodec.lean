/-
  Meshcop.Dtls.HelloCodec — hello messages survive the wire
  (`meshcop-dtls/src/hello.rs`).

  Every length a hello's encoder writes was checked against the width of its prefix, so the
  decoder's reads find what was written.  The one field without a length is the random, which
  must have its 32 bytes.

  Each read is characterised by the inputs on which it returns.  Put together these say which
  bytes decode to a given hello, and both directions of the round trip are read off that: what
  was encoded decodes, and what decodes was encoded, but that a missing extension block reads as
  an empty one.

  Main results:
    * `ClientHello.decode_eq_ok`, `ServerHello.decode_eq_ok` — the bytes of a hello, but for its
      extensions;
    * `readExtensions_eq_ok` — the bytes of an extension block;
    * `hello_codecs_exact`.
-/

import Meshcop.Dtls.Hello
import Meshcop.Lib.Reading

namespace Meshcop.Dtls

open Lib

/-! ## §1. The cursor's reads. -/

namespace Cursor

variable {input rest : Bytes}

theorem readExact_eq_ok {len : Nat} {value : Bytes} :
    readExact len input = .ok (value, rest) ↔ input = value ++ rest ∧ value.length = len :=
  take_eq_ok

theorem readU8_eq_ok {value : UInt8} : readU8 input = .ok (value, rest) ↔ input = value :: rest := by
  have hbyte (byte : UInt8) : UInt8.ofNat (ofBE [byte]) = byte := by
    have hsame : [UInt8.ofNat (ofBE [byte] / 1)] = [byte] := toBE_ofBE [byte]
    rw [Nat.div_one] at hsame
    exact (List.cons.inj hsame).1
  unfold readU8
  rw [read_bind_eq_ok]
  constructor
  · rintro ⟨bytes, behind, hexact, hvalue⟩
    obtain ⟨rfl, hlength⟩ := readExact_eq_ok.mp hexact
    obtain ⟨byte, rfl⟩ := List.length_eq_one_iff.mp hlength
    cases hvalue
    rw [hbyte]
    rfl
  · rintro rfl
    refine ⟨[value], rest, readExact_eq_ok.mpr ⟨rfl, rfl⟩, ?_⟩
    rw [hbyte]
    rfl

theorem readU16_eq_ok {value : UInt16} :
    readU16 input = .ok (value, rest) ↔ input = toBE 2 value.toNat ++ rest := by
  unfold readU16
  rw [read_bind_eq_ok]
  constructor
  · rintro ⟨bytes, behind, hexact, hvalue⟩
    obtain ⟨rfl, hlength⟩ := readExact_eq_ok.mp hexact
    cases hvalue
    have hlt : ofBE bytes < 2 ^ 16 := by
      have hbound := ofBE_lt bytes
      rw [hlength] at hbound
      omega
    rw [UInt16.toNat_ofNat', Nat.mod_eq_of_lt hlt, ← hlength, toBE_ofBE]
  · rintro rfl
    refine ⟨toBE 2 value.toNat, rest, readExact_eq_ok.mpr ⟨rfl, length_toBE _ _⟩, ?_⟩
    rw [ofBE_toBE, Nat.mod_eq_of_lt (show value.toNat < 256 ^ 2 from value.toNat_lt),
      UInt16.ofNat_toNat]
    rfl

theorem readVecU8_eq_ok {value : Bytes} : readVecU8 input = .ok (value, rest) ↔
    input = toBE 1 value.length ++ (value ++ rest) ∧ value.length ≤ 255 := by
  have hbyte (len : UInt8) : toBE 1 len.toNat = [len] := by
    show [UInt8.ofNat (len.toNat / 1)] = [len]
    rw [Nat.div_one, UInt8.ofNat_toNat]
  unfold readVecU8
  rw [read_bind_eq_ok]
  simp only [readU8_eq_ok, readExact_eq_ok]
  constructor
  · rintro ⟨len, _, rfl, rfl, hlength⟩
    have hbound := len.toNat_lt
    rw [hlength, hbyte]
    exact ⟨rfl, by omega⟩
  · rintro ⟨rfl, hfits⟩
    have hlen : (UInt8.ofNat value.length).toNat = value.length :=
      UInt8.toNat_ofNat_of_lt' (show value.length < 256 by omega)
    refine ⟨UInt8.ofNat value.length, value ++ rest, ?_, rfl, hlen.symm⟩
    rw [← hlen, hbyte, hlen]
    rfl

theorem readVecU16_eq_ok {value : Bytes} : readVecU16 input = .ok (value, rest) ↔
    input = toBE 2 value.length ++ (value ++ rest) ∧ value.length ≤ 65535 := by
  unfold readVecU16
  rw [read_bind_eq_ok]
  simp only [readU16_eq_ok, readExact_eq_ok]
  constructor
  · rintro ⟨len, _, rfl, rfl, hlength⟩
    have hbound := len.toNat_lt
    rw [hlength]
    exact ⟨rfl, by omega⟩
  · rintro ⟨rfl, hfits⟩
    have hlen : (UInt16.ofNat value.length).toNat = value.length :=
      UInt16.toNat_ofNat_of_lt' (show value.length < 65536 by omega)
    exact ⟨UInt16.ofNat value.length, value ++ rest, by rw [hlen], rfl, hlen.symm⟩

theorem finish_eq_ok {value : Unit} :
    finish input = .ok (value, rest) ↔ input = [] ∧ rest = [] := by
  unfold finish
  split <;> simp_all [eq_comm]

end Cursor

theorem validateU8Len_eq_ok {len : Nat} {field : String} {value : Unit} :
    validateU8Len len field = .ok value ↔ len ≤ 255 := by
  unfold validateU8Len
  split
  · simp only [reduceCtorEq, false_iff]
    omega
  · simp only [true_iff]
    omega

theorem validateU16Len_eq_ok {len : Nat} {field : String} {value : Unit} :
    validateU16Len len field = .ok value ↔ len ≤ 65535 := by
  unfold validateU16Len
  split
  · simp only [reduceCtorEq, false_iff]
    omega
  · simp only [true_iff]
    omega

/-! ## §2. Extensions. -/

variable {extensions : List TlsExtension} {bytes block rest : Bytes}

theorem encodeExtensions_cons_eq_ok {extension : TlsExtension} :
    encodeExtensions (extension :: extensions) = .ok block ↔ extension.data.length ≤ 65535 ∧
      ∃ tail, encodeExtensions extensions = .ok tail ∧
        block = toBE 2 extension.extensionType.toNat ++
          (toBE 2 extension.data.length ++ (extension.data ++ tail)) := by
  simp only [encodeExtensions, bind_eq_ok, validateU16Len_eq_ok, exists_const, pure, Except.pure,
    Except.ok.injEq, List.append_assoc, eq_comm (a := block)]

/-- The loop reads a block exactly if its extensions encode to that, as long as it has fuel for
    its bytes. -/
theorem readExtensionList_eq_ok {fuel : Nat} (hfuel : block.length ≤ fuel) :
    readExtensionList fuel block = .ok (extensions, rest) ↔
      encodeExtensions extensions = .ok block ∧ rest = [] := by
  have hnone (extensions : List TlsExtension) : Except.ok ([], []) = (.ok (extensions, rest) : Except Error _) ↔
      encodeExtensions extensions = .ok [] ∧ rest = [] := by
    cases extensions with
    | nil => simp [encodeExtensions, eq_comm]
    | cons extension extensions => simp [encodeExtensions_cons_eq_ok, toBE]
  induction fuel generalizing block extensions with
  | zero =>
    cases List.eq_nil_of_length_eq_zero (Nat.le_zero.mp hfuel)
    exact hnone extensions
  | succ fuel ih =>
    by_cases hempty : block = []
    · subst hempty
      exact hnone extensions
    show (if block = [] then _ else _ : Cursor _) block = _ ↔ _
    rw [if_neg hempty]
    simp only [read_bind_eq_ok, Cursor.readU16_eq_ok, Cursor.readVecU16_eq_ok, pure_eq_ok]
    constructor
    · rintro ⟨extensionType, _, rfl, data, tail, ⟨rfl, hdata⟩, extensions, _, hrest, rfl, rfl⟩
      simp only [List.length_append, length_toBE] at hfuel
      obtain ⟨hencode, rfl⟩ := (ih (by omega)).mp hrest
      exact ⟨encodeExtensions_cons_eq_ok.mpr ⟨hdata, tail, hencode, rfl⟩, rfl⟩
    · rintro ⟨h, rfl⟩
      cases extensions with
      | nil =>
        cases h
        exact absurd rfl hempty
      | cons extension extensions =>
        obtain ⟨hdata, tail, hencode, rfl⟩ := encodeExtensions_cons_eq_ok.mp h
        simp only [List.length_append, length_toBE] at hfuel
        exact ⟨extension.extensionType, _, rfl, extension.data, tail, ⟨rfl, hdata⟩, extensions, [],
          (ih (by omega)).mpr ⟨hencode, rfl⟩, rfl, rfl⟩

/-- An extension block is read from its own bytes, or from none at all. -/
theorem readExtensions_eq_ok {input : Bytes} : readExtensions input = .ok (extensions, rest) ↔
    (input = [] ∧ extensions = [] ∧ rest = []) ∨ ∃ block,
      encodeExtensions extensions = .ok block ∧ block.length ≤ 65535 ∧
        input = toBE 2 block.length ++ (block ++ rest) := by
  show (if input = [] then _ else _ : Cursor _) input = _ ↔ _
  by_cases hempty : input = []
  · rw [if_pos hempty, pure_eq_ok]
    subst hempty
    simp [toBE]
  · rw [if_neg hempty]
    simp only [read_bind_eq_ok, Cursor.readVecU16_eq_ok, hempty, false_and, false_or]
    constructor
    · rintro ⟨block, _, ⟨rfl, hfits⟩, ⟨extensions, _⟩, _, hlist, hvalue⟩
      -- the loop runs on the block alone, in a cursor of its own
      obtain ⟨hrun, rfl⟩ := lift_eq_ok.mp hlist
      cases hvalue
      exact ⟨block, ((readExtensionList_eq_ok (Nat.le_refl _)).mp hrun).1, hfits, rfl⟩
    · rintro ⟨block, hencode, hfits, rfl⟩
      exact ⟨block, rest, ⟨rfl, hfits⟩, (extensions, []), rest, lift_eq_ok.mpr
        ⟨(readExtensionList_eq_ok (Nat.le_refl _)).mpr ⟨hencode, rfl⟩, rfl⟩, rfl⟩

theorem appendExtensions_eq_ok {out : Bytes} : appendExtensions out extensions = .ok bytes ↔
    ∃ block, encodeExtensions extensions = .ok block ∧ block.length ≤ 65535 ∧
      bytes = out ++ (toBE 2 block.length ++ block) := by
  simp only [appendExtensions, bind_eq_ok, validateU16Len_eq_ok, exists_const, pure, Except.pure,
    Except.ok.injEq, List.append_assoc, eq_comm (a := bytes)]

/-- Behind a `front`, the block of a hello's extensions is read back. -/
theorem read_of_appendExtensions {front : Bytes}
    (h : appendExtensions front extensions = .ok bytes) :
    ∃ tail, bytes = front ++ tail ∧ readExtensions tail = .ok (extensions, []) := by
  obtain ⟨block, hencode, hfits, rfl⟩ := appendExtensions_eq_ok.mp h
  refine ⟨_, rfl, readExtensions_eq_ok.mpr (Or.inr ⟨block, hencode, hfits, ?_⟩)⟩
  rw [List.append_nil]

/-- Behind a `front`, a hello that was read to its end had the block its extensions encode to, or
    none at all. -/
theorem appendExtensions_of_read {front tail : Bytes}
    (h : readExtensions tail = .ok (extensions, [])) :
    appendExtensions front extensions = .ok (front ++ tail) ∨ (front ++ tail = front ∧
      extensions = [] ∧ appendExtensions front extensions = .ok (front ++ tail ++ [0, 0])) := by
  rcases readExtensions_eq_ok.mp h with ⟨rfl, rfl, -⟩ | ⟨block, hencode, hfits, rfl⟩
  · refine Or.inr ⟨List.append_nil _, rfl, ?_⟩
    show Except.ok (front ++ toBE 2 0 ++ []) = Except.ok (front ++ [] ++ [0, 0])
    rw [List.append_nil, List.append_nil]
    rfl
  · rw [List.append_nil]
    exact Or.inl (appendExtensions_eq_ok.mpr ⟨block, hencode, hfits, rfl⟩)

/-! ## §3. The three hellos. -/

/-- **A HelloVerifyRequest has one spelling.** -/
theorem HelloVerifyRequest.decode_eq_ok {hello : HelloVerifyRequest} :
    HelloVerifyRequest.decode bytes = .ok hello ↔ hello.encode = .ok bytes := by
  simp only [HelloVerifyRequest.encode, bind_eq_ok, validateU8Len_eq_ok, exists_const]
  refine run_eq_ok.trans ?_
  unfold HelloVerifyRequest.read
  simp only [read_bind_eq_ok, Cursor.readU16_eq_ok,
    Cursor.readVecU8_eq_ok, Cursor.finish_eq_ok, pure_eq_ok]
  constructor
  · rintro ⟨_, serverVersion, _, rfl, cookie, _, ⟨rfl, hcookie⟩, _, _, ⟨rfl, rfl⟩, rfl, rfl⟩
    refine ⟨hcookie, ?_⟩
    rw [List.append_nil, ← List.append_assoc]
    rfl
  · rintro ⟨hcookie, h⟩
    rw [← Except.ok.inj h]
    refine ⟨[], hello.serverVersion, _, ?_, hello.cookie, [], ⟨rfl, hcookie⟩, (), [], ⟨rfl, rfl⟩,
      rfl, rfl⟩
    rw [List.append_nil, ← List.append_assoc]

/-- The bytes of a ServerHello before its extension block. -/
def ServerHello.front (hello : ServerHello) : Bytes :=
  toBE 2 DTLS_1_2_VERSION.toNat ++ hello.random
    ++ toBE 1 hello.sessionId.length ++ hello.sessionId
    ++ toBE 2 hello.cipherSuite.toNat ++ [hello.compressionMethod]

theorem ServerHello.encode_eq_ok {hello : ServerHello} : hello.encode = .ok bytes ↔
    hello.sessionId.length ≤ 255 ∧
      appendExtensions hello.front hello.extensions = .ok bytes := by
  simp only [ServerHello.encode, bind_eq_ok, validateU8Len_eq_ok, exists_const]
  rfl

/-- **Which bytes decode to a ServerHello.** -/
theorem ServerHello.decode_eq_ok {hello : ServerHello} : ServerHello.decode bytes = .ok hello ↔
    hello.random.length = 32 ∧ hello.sessionId.length ≤ 255 ∧
      ∃ tail, bytes = hello.front ++ tail ∧ readExtensions tail = .ok (hello.extensions, []) := by
  refine run_eq_ok.trans ?_
  unfold ServerHello.read
  simp only [read_bind_eq_ok, check_eq_ok, not_not, Cursor.readU16_eq_ok,
    Cursor.readArray32, Cursor.readExact_eq_ok, Cursor.readVecU8_eq_ok, Cursor.readU8_eq_ok,
    Cursor.finish_eq_ok, pure_eq_ok]
  constructor
  · rintro ⟨_, _, _, rfl, rfl, random, _, ⟨rfl, hrandom⟩, sessionId, _, ⟨rfl, hsession⟩,
      cipherSuite, _, rfl, compressionMethod, tail, rfl, extensions, _, hextensions, _, _,
      ⟨rfl, rfl⟩, rfl, rfl⟩
    refine ⟨hrandom, hsession, tail, ?_, hextensions⟩
    simp [ServerHello.front]
  · rintro ⟨hrandom, hsession, tail, rfl, hextensions⟩
    refine ⟨[], _, _, ?_, rfl, hello.random, _, ⟨rfl, hrandom⟩, hello.sessionId, _,
      ⟨rfl, hsession⟩, hello.cipherSuite, _, rfl, hello.compressionMethod, tail, rfl,
      hello.extensions, [], hextensions, (), [], ⟨rfl, rfl⟩, rfl, rfl⟩
    simp [ServerHello.front]

/-- The bytes of a ClientHello before its extension block. -/
def ClientHello.front (hello : ClientHello) : Bytes :=
  toBE 2 DTLS_1_2_VERSION.toNat ++ hello.random
    ++ toBE 1 hello.sessionId.length ++ hello.sessionId
    ++ toBE 1 hello.cookie.length ++ hello.cookie
    ++ toBE 2 (hello.cipherSuites.length * 2)
    ++ hello.cipherSuites.flatMap (fun suite => toBE 2 suite.toNat)
    ++ toBE 1 hello.compressionMethods.length ++ hello.compressionMethods

theorem ClientHello.encode_eq_ok {hello : ClientHello} : hello.encode = .ok bytes ↔
    hello.sessionId.length ≤ 255 ∧ hello.cookie.length ≤ 255 ∧
      hello.compressionMethods.length ≤ 255 ∧ hello.cipherSuites.length * 2 ≤ 65535 ∧
      appendExtensions hello.front hello.extensions = .ok bytes := by
  simp only [ClientHello.encode, bind_eq_ok, validateU8Len_eq_ok, validateU16Len_eq_ok,
    exists_const]
  rfl

/-- The suites of a ClientHello are read back in pairs of bytes. -/
theorem ClientHello.pairs_flatMap (suites : List UInt16) :
    ClientHello.pairs (suites.flatMap (fun suite => toBE 2 suite.toNat)) = suites := by
  induction suites with
  | nil => rfl
  | cons suite suites ih =>
    have hlt : suite.toNat < 256 ^ 2 := suite.toNat_lt
    show UInt16.ofNat (ofBE (toBE 2 suite.toNat)) ::
      ClientHello.pairs (suites.flatMap fun suite => toBE 2 suite.toNat) = _
    rw [ih, ofBE_toBE, Nat.mod_eq_of_lt hlt, UInt16.ofNat_toNat]

theorem ClientHello.length_suites (suites : List UInt16) :
    (suites.flatMap (fun suite => toBE 2 suite.toNat)).length = suites.length * 2 := by
  induction suites with
  | nil => rfl
  | cons suite suites ih =>
    rw [List.flatMap_cons, List.length_append, ih, length_toBE, List.length_cons]
    omega

/-- A vector of even length is its pairs, written out again. -/
theorem ClientHello.flatMap_pairs (bytes : Bytes) (heven : bytes.length % 2 = 0) :
    (ClientHello.pairs bytes).flatMap (fun suite => toBE 2 suite.toNat) = bytes := by
  fun_induction ClientHello.pairs bytes with
  | case1 a b rest ih =>
    have hrest : rest.length % 2 = 0 := by
      rw [List.length_cons, List.length_cons] at heven
      omega
    have hlt : ofBE [a, b] < 2 ^ 16 := Nat.lt_of_lt_of_eq (ofBE_lt [a, b]) (by norm_num)
    rw [List.flatMap_cons, ih hrest, UInt16.toNat_ofNat', Nat.mod_eq_of_lt hlt]
    exact congrArg (· ++ rest) (toBE_ofBE [a, b])
  | case2 bytes hshort =>
    -- a single byte would be odd
    match bytes, hshort with
    | [], _ => rfl
    | [_], _ => cases heven
    | a :: b :: rest, hshort => exact absurd rfl (hshort a b rest)

/-- **Which bytes decode to a ClientHello.** -/
theorem ClientHello.decode_eq_ok {hello : ClientHello} : ClientHello.decode bytes = .ok hello ↔
    hello.random.length = 32 ∧ hello.sessionId.length ≤ 255 ∧ hello.cookie.length ≤ 255 ∧
      hello.compressionMethods.length ≤ 255 ∧ hello.cipherSuites.length * 2 ≤ 65535 ∧
      ∃ tail, bytes = hello.front ++ tail ∧ readExtensions tail = .ok (hello.extensions, []) := by
  refine run_eq_ok.trans ?_
  unfold ClientHello.read
  simp only [read_bind_eq_ok, check_eq_ok, not_not, Cursor.readU16_eq_ok, Cursor.readArray32,
    Cursor.readExact_eq_ok, Cursor.readVecU8_eq_ok, Cursor.readVecU16_eq_ok, Cursor.finish_eq_ok,
    pure_eq_ok]
  constructor
  · rintro ⟨_, _, _, rfl, rfl, random, _, ⟨rfl, hrandom⟩, sessionId, _, ⟨rfl, hsession⟩,
      cookie, _, ⟨rfl, hcookie⟩, cipherBytes, _, ⟨rfl, hsuites⟩, heven, compressionMethods, tail,
      ⟨rfl, hmethods⟩, extensions, _, hextensions, _, _, ⟨rfl, rfl⟩, rfl, rfl⟩
    have hpairs := ClientHello.flatMap_pairs cipherBytes heven
    have hlength : (ClientHello.pairs cipherBytes).length * 2 = cipherBytes.length := by
      rw [← ClientHello.length_suites, hpairs]
    refine ⟨hrandom, hsession, hcookie, hmethods, Nat.le_trans (Nat.le_of_eq hlength) hsuites, tail,
      ?_, hextensions⟩
    simp [ClientHello.front, hpairs, hlength]
  · rintro ⟨hrandom, hsession, hcookie, hmethods, hsuites, tail, rfl, hextensions⟩
    have hlength := ClientHello.length_suites hello.cipherSuites
    refine ⟨[], _, _, ?_, rfl, hello.random, _, ⟨rfl, hrandom⟩, hello.sessionId, _,
      ⟨rfl, hsession⟩, hello.cookie, _, ⟨rfl, hcookie⟩,
      hello.cipherSuites.flatMap (fun suite => toBE 2 suite.toNat), _, ⟨rfl, by omega⟩, by omega,
      hello.compressionMethods, tail, ⟨rfl, hmethods⟩, hello.extensions, [], hextensions, (), [],
      ⟨rfl, rfl⟩, ?_, rfl⟩
    · simp [ClientHello.front, hlength]
    · rw [ClientHello.pairs_flatMap]

/-- **The hello codecs are exact both ways.**  Every hello that encodes decodes to itself; the
    random of a ClientHello and a ServerHello is an array of 32 bytes in the source.  What decodes
    is the encoding of its value, or lacks the extension block that the encoder always writes. -/
theorem hello_codecs_exact :
    ((∀ (hello : ClientHello) (bytes : Bytes), hello.random.length = 32 →
        hello.encode = .ok bytes → ClientHello.decode bytes = .ok hello) ∧
      (∀ (hello : ServerHello) (bytes : Bytes), hello.random.length = 32 →
        hello.encode = .ok bytes → ServerHello.decode bytes = .ok hello) ∧
      (∀ (hello : HelloVerifyRequest) (bytes : Bytes),
        hello.encode = .ok bytes → HelloVerifyRequest.decode bytes = .ok hello)) ∧
    ((∀ (bytes : Bytes) (hello : ClientHello), ClientHello.decode bytes = .ok hello →
        hello.encode = .ok bytes ∨
          (bytes = hello.front ∧ hello.extensions = [] ∧ hello.encode = .ok (bytes ++ [0, 0]))) ∧
      (∀ (bytes : Bytes) (hello : ServerHello), ServerHello.decode bytes = .ok hello →
        hello.encode = .ok bytes ∨
          (bytes = hello.front ∧ hello.extensions = [] ∧ hello.encode = .ok (bytes ++ [0, 0]))) ∧
      (∀ (bytes : Bytes) (hello : HelloVerifyRequest),
        HelloVerifyRequest.decode bytes = .ok hello → hello.encode = .ok bytes)) := by
  refine ⟨⟨?_, ?_, ?_⟩, ?_, ?_, ?_⟩
  · intro hello bytes hrandom h
    obtain ⟨hsession, hcookie, hmethods, hsuites, happend⟩ := ClientHello.encode_eq_ok.mp h
    exact ClientHello.decode_eq_ok.mpr ⟨hrandom, hsession, hcookie, hmethods, hsuites,
      read_of_appendExtensions happend⟩
  · intro hello bytes hrandom h
    obtain ⟨hsession, happend⟩ := ServerHello.encode_eq_ok.mp h
    exact ServerHello.decode_eq_ok.mpr ⟨hrandom, hsession, read_of_appendExtensions happend⟩
  · exact fun hello bytes => HelloVerifyRequest.decode_eq_ok.mpr
  · intro bytes hello h
    obtain ⟨-, hsession, hcookie, hmethods, hsuites, tail, rfl, hread⟩ :=
      ClientHello.decode_eq_ok.mp h
    simp only [ClientHello.encode_eq_ok, hsession, hcookie, hmethods, hsuites, true_and]
    exact appendExtensions_of_read hread
  · intro bytes hello h
    obtain ⟨-, hsession, tail, rfl, hread⟩ := ServerHello.decode_eq_ok.mp h
    simp only [ServerHello.encode_eq_ok, hsession, true_and]
    exact appendExtensions_of_read hread
  · exact fun bytes hello => HelloVerifyRequest.decode_eq_ok.mp

end Meshcop.Dtls
