import Mathlib.Data.List.Basic

/-!
# The order of texts in bytes

Texts are compared character by character. UTF-8 keeps that order: comparing the encodings byte
by byte gives the same result, which `utf8Bytes_lt_iff` states.
-/

namespace LayeredSchema.Text

/-- The bytes of a text in UTF-8. -/
def utf8Bytes (s : String) : List UInt8 :=
  s.toUTF8.data.toList

theorem utf8Bytes_eq_flatMap (s : String) :
    utf8Bytes s = s.toList.flatMap String.utf8EncodeChar := by
  rw [utf8Bytes, String.toUTF8_eq_toByteArray, ← String.utf8Encode_toList, List.utf8Encode,
    List.toList_data_toByteArray]

/-! ## Characters -/

private theorem ofNat_lt_ofNat {m n : Nat} (hm : m < 256) (hn : n < 256) :
    UInt8.ofNat m < UInt8.ofNat n ↔ m < n := by
  rw [UInt8.lt_iff_toNat_lt, UInt8.toNat_ofNat_of_lt' hm, UInt8.toNat_ofNat_of_lt' hn]

private theorem ofNat_eq_ofNat {m n : Nat} (hm : m < 256) (hn : n < 256) :
    UInt8.ofNat m = UInt8.ofNat n ↔ m = n := by
  rw [← UInt8.toNat_inj, UInt8.toNat_ofNat_of_lt' hm, UInt8.toNat_ofNat_of_lt' hn]

/-- The encoding of a character is smaller than that of a character with a greater code point,
whatever follows either of them: no encoding starts another one. -/
theorem utf8EncodeChar_append_lt {c d : Char} (h : c < d) (as bs : List UInt8) :
    String.utf8EncodeChar c ++ as < String.utf8EncodeChar d ++ bs := by
  have hlt : c.val.toNat < d.val.toNat := h
  have hd : d.val.toNat < 0x110000 := by
    have hvalid : d.val.toNat < 0xd800 ∨ 0xdfff < d.val.toNat ∧ d.val.toNat < 0x110000 := d.valid
    omega
  unfold String.utf8EncodeChar
  generalize c.val.toNat = v at hlt
  generalize d.val.toNat = w at hlt hd
  -- the digits of either code point to base 64, so that the bytes are linear in them
  have hdigits (n : Nat) : n / 4096 = n / 64 / 64 ∧ n / 262144 = n / 64 / 64 / 64 := by
    constructor <;> simp only [Nat.div_div_eq_div_mul]
  dsimp only
  rw [(hdigits v).1, (hdigits v).2, (hdigits w).1, (hdigits w).2]
  clear hdigits
  -- one case for each pair of lengths; the longer encoding has the greater first byte
  split_ifs
  all_goals
    simp (disch := omega) only [List.cons_append, List.nil_append, List.cons_lt_cons_iff,
      ofNat_lt_ofNat, ofNat_eq_ofNat]
    omega

/-! ## Texts -/

theorem nil_lt_utf8EncodeChar_append (c : Char) (as : List UInt8) :
    [] < String.utf8EncodeChar c ++ as := by
  have hlen : 0 < (String.utf8EncodeChar c ++ as).length := by
    have hpos := c.utf8Size_pos
    rw [List.length_append, String.length_utf8EncodeChar]
    omega
  obtain ⟨b, bs, hbs⟩ := List.exists_cons_of_length_pos hlen
  rw [hbs]
  exact List.nil_lt_cons b bs

theorem flatMap_utf8EncodeChar_lt {cs ds : List Char} (h : cs < ds) :
    cs.flatMap String.utf8EncodeChar < ds.flatMap String.utf8EncodeChar := by
  induction h with
  | nil =>
    rw [List.flatMap_nil, List.flatMap_cons]
    exact nil_lt_utf8EncodeChar_append _ _
  | rel hcd =>
    rw [List.flatMap_cons, List.flatMap_cons]
    exact utf8EncodeChar_append_lt hcd _ _
  | cons _ ih =>
    rw [List.flatMap_cons, List.flatMap_cons]
    exact List.append_left_lt ih

/-- Texts are ordered as their bytes are. -/
theorem utf8Bytes_lt_iff {s t : String} : utf8Bytes s < utf8Bytes t ↔ s < t := by
  have hmono : ∀ {s t : String}, s < t → utf8Bytes s < utf8Bytes t := by
    intro s t h
    rw [utf8Bytes_eq_flatMap, utf8Bytes_eq_flatMap]
    exact flatMap_utf8EncodeChar_lt h
  refine ⟨fun h => ?_, hmono⟩
  by_contra hst
  have hts : ¬ t < s := fun hlt => List.lt_asymm h (hmono hlt)
  have heq : s = t := String.le_antisymm (String.not_lt.mp hts) (String.not_lt.mp hst)
  rw [heq] at h
  exact List.lt_irrefl _ h

end LayeredSchema.Text
