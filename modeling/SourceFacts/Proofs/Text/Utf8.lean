import SourceFacts.Text.Utf8

/-!
# Bytes of a text

The machine that reads UTF-8 gives back each character after exactly its bytes, whatever follows them.
So a text is read back from its bytes.
-/

namespace SourceFacts.Text.Utf8

theorem toNat_ofNat {n : Nat} (h : n < 256) : (UInt8.ofNat n).toNat = n := by
  rw [UInt8.toNat_ofNat']
  exact Nat.mod_eq_of_lt h

/-! ## One byte -/

theorem decodeFrom_start {b code : Nat} (hb : b < 256) {r : ByteRange} {rs : List ByteRange}
    (h : following? b = some (r :: rs)) (hcode : leadBits b = code) (bs : List UInt8) :
    decodeFrom .idle (UInt8.ofNat b :: bs) =
      decodeFrom (.within (UInt8.ofNat b) 1 code r rs) bs := by
  have hstart : start (UInt8.ofNat b) = (.within (UInt8.ofNat b) 1 code r rs, .more) := by
    rw [start, toNat_ofNat hb, h, ← hcode]
  rw [decodeFrom, hstart]
  rfl

section Continuation

variable {lead : UInt8} {seen code x : Nat} {r r' : ByteRange} {rs : List ByteRange}

theorem toNat_continuation (hx : x < 0x40) :
    (UInt8.ofNat (x + 0x80)).toNat = x + 0x80 ∧ (x + 0x80) % 0x40 = x :=
  ⟨toNat_ofNat (by omega), by omega⟩

theorem decodeFrom_more (hx : x < 0x40) (hr : r.1 ≤ x + 0x80 ∧ x + 0x80 ≤ r.2) (bs : List UInt8) :
    decodeFrom (.within lead seen code r (r' :: rs)) (UInt8.ofNat (x + 0x80) :: bs) =
      decodeFrom (.within lead (seen + 1) (code * 0x40 + x) r' rs) bs := by
  obtain ⟨hbyte, hbits⟩ := toNat_continuation hx
  have hnext : next? lead seen code r (r' :: rs) (UInt8.ofNat (x + 0x80)) =
      some (.within lead (seen + 1) (code * 0x40 + x) r' rs, .more) := by
    simp only [next?, hbyte, hbits, if_pos hr]
  rw [decodeFrom, hnext]
  rfl

theorem decodeFrom_last (hx : x < 0x40) (hr : r.1 ≤ x + 0x80 ∧ x + 0x80 ≤ r.2) (bs : List UInt8) :
    decodeFrom (.within lead seen code r []) (UInt8.ofNat (x + 0x80) :: bs) =
      Char.ofNat (code * 0x40 + x) :: decodeFrom .idle bs := by
  obtain ⟨hbyte, hbits⟩ := toNat_continuation hx
  have hnext : next? lead seen code r [] (UInt8.ofNat (x + 0x80)) =
      some (.idle, .char (Char.ofNat (code * 0x40 + x))) := by
    simp only [next?, hbyte, hbits, if_pos hr]
  rw [decodeFrom, hnext]
  rfl

end Continuation

/-! ## One character -/

section Lead

variable {v : Nat}

theorem following?_two (hlow : 0x7f < v) (hhigh : v ≤ 0x7ff) :
    following? (v / 64 % 0x20 + 0xc0) = some [continuation] := by
  unfold following?
  rw [if_neg (by omega), if_neg (by omega), if_pos (by omega)]

-- The second byte is bounded so that no shorter form and no surrogate is read.
theorem following?_three (hlow : 0x7ff < v) (hhigh : v ≤ 0xffff) (hvalid : v < 0xd800 ∨ 0xdfff < v) :
    ∃ r : ByteRange, following? (v / 4096 % 0x10 + 0xe0) = some [r, continuation] ∧
      r.1 ≤ v / 64 % 0x40 + 0x80 ∧ v / 64 % 0x40 + 0x80 ≤ r.2 := by
  unfold following? continuation
  rw [if_neg (by omega), if_neg (by omega), if_neg (by omega)]
  split
  · exact ⟨_, rfl, by dsimp only; omega⟩
  split
  · exact ⟨_, rfl, by dsimp only; omega⟩
  rw [if_pos (by omega)]
  exact ⟨_, rfl, by dsimp only; omega⟩

theorem following?_four (hlow : 0xffff < v) (hhigh : v < 0x110000) :
    ∃ r : ByteRange,
      following? (v / 262144 % 0x08 + 0xf0) = some [r, continuation, continuation] ∧
        r.1 ≤ v / 4096 % 0x40 + 0x80 ∧ v / 4096 % 0x40 + 0x80 ≤ r.2 := by
  unfold following? continuation
  rw [if_neg (by omega), if_neg (by omega), if_neg (by omega), if_neg (by omega), if_neg (by omega),
    if_neg (by omega)]
  split
  · exact ⟨_, rfl, by dsimp only; omega⟩
  split
  · exact ⟨_, rfl, by dsimp only; omega⟩
  rw [if_pos (by omega)]
  exact ⟨_, rfl, by dsimp only; omega⟩

end Lead

theorem mem_continuation {x : Nat} (hx : x < 0x40) :
    continuation.1 ≤ x + 0x80 ∧ x + 0x80 ≤ continuation.2 := by
  dsimp only [continuation]
  omega

theorem decodeFrom_utf8EncodeChar (c : Char) (bs : List UInt8) :
    decodeFrom .idle (String.utf8EncodeChar c ++ bs) = c :: decodeFrom .idle bs := by
  have hvalid : c.val.toNat < 0xd800 ∨ 0xdfff < c.val.toNat ∧ c.val.toNat < 0x110000 := c.valid
  have hc : Char.ofNat c.val.toNat = c := Char.ofNat_toNat c
  unfold String.utf8EncodeChar
  generalize c.val.toNat = v at hvalid hc
  have h64 : ∀ k, k % 0x40 < 0x40 := fun k => Nat.mod_lt k (by decide)
  have hmem : ∀ k, continuation.1 ≤ k % 0x40 + 0x80 ∧ k % 0x40 + 0x80 ≤ continuation.2 :=
    fun k => mem_continuation (h64 k)
  dsimp only
  split
  · have hfollowing : following? v = some [] := by rw [following?, if_pos (by omega)]
    have hstart : start (UInt8.ofNat v) = (.idle, .char c) := by
      rw [start, toNat_ofNat (by omega), hfollowing, hc]
    rw [List.singleton_append, decodeFrom, hstart]
    rfl
  split
  · have hcode : leadBits (v / 64 % 0x20 + 0xc0) = v / 64 := by
      unfold leadBits
      rw [if_neg (by omega), if_pos (by omega)]
      omega
    have hv : v / 64 * 0x40 + v % 0x40 = v := by omega
    simp only [List.cons_append, List.nil_append]
    rw [decodeFrom_start (by omega) (following?_two (by omega) (by omega)) hcode,
      decodeFrom_last (h64 _) (hmem _), hv, hc]
  split
  · obtain ⟨r, hfollowing, hr⟩ := following?_three (v := v) (by omega) (by omega) (by omega)
    have hcode : leadBits (v / 4096 % 0x10 + 0xe0) = v / 4096 := by
      unfold leadBits
      rw [if_neg (by omega), if_neg (by omega), if_pos (by omega)]
      omega
    have hv : (v / 4096 * 0x40 + v / 64 % 0x40) * 0x40 + v % 0x40 = v := by omega
    simp only [List.cons_append, List.nil_append]
    rw [decodeFrom_start (by omega) hfollowing hcode, decodeFrom_more (h64 _) hr,
      decodeFrom_last (h64 _) (hmem _), hv, hc]
  · obtain ⟨r, hfollowing, hr⟩ := following?_four (v := v) (by omega) (by omega)
    have hcode : leadBits (v / 262144 % 0x08 + 0xf0) = v / 262144 := by
      unfold leadBits
      rw [if_neg (by omega), if_neg (by omega), if_neg (by omega)]
      omega
    have hv : ((v / 262144 * 0x40 + v / 4096 % 0x40) * 0x40 + v / 64 % 0x40) * 0x40 + v % 0x40 = v := by
      omega
    simp only [List.cons_append, List.nil_append]
    rw [decodeFrom_start (by omega) hfollowing hcode, decodeFrom_more (h64 _) hr,
      decodeFrom_more (h64 _) (hmem _), decodeFrom_last (h64 _) (hmem _), hv, hc]

/-! ## A text -/

theorem toList_loop (bytes : ByteArray) (i : Nat) (before : List UInt8) :
    ByteArray.toList.loop bytes i before = before.reverse ++ bytes.data.toList.drop i := by
  fun_induction ByteArray.toList.loop bytes i before with
  | case1 i before h ih =>
      have hi : i < bytes.data.toList.length := by simpa using h
      rw [ih, List.drop_eq_getElem_cons hi]
      simp [ByteArray.get!, h]
  | case2 i before h =>
      have hi : bytes.data.toList.length ≤ i := by simpa using Nat.le_of_not_lt h
      rw [List.drop_eq_nil_of_le hi, List.append_nil]

theorem encode_eq_flatMap (s : String) : encode s = s.toList.flatMap String.utf8EncodeChar := by
  have hbytes : s.toUTF8 = (s.toList.flatMap String.utf8EncodeChar).toByteArray := by
    conv => lhs; rw [← String.ofList_toList (s := s)]
    rfl
  rw [encode, hbytes, ByteArray.toList, toList_loop]
  simp

theorem encode_append (s t : String) : encode (s ++ t) = encode s ++ encode t := by
  simp [encode_eq_flatMap]

/-- A text is read back from its bytes. -/
theorem decode_encode (s : String) : decode (encode s) = s := by
  have hchars : ∀ cs : List Char, decodeFrom .idle (cs.flatMap String.utf8EncodeChar) = cs := by
    intro cs
    induction cs with
    | nil => rfl
    | cons c cs ih => rw [List.flatMap_cons, decodeFrom_utf8EncodeChar, ih]
  rw [decode, encode_eq_flatMap, hchars, String.ofList_toList]

end SourceFacts.Text.Utf8
