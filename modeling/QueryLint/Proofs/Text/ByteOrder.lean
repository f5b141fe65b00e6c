import Mathlib.Data.List.Basic
import Mathlib.Data.String.Basic

/-!
# The order of texts and of their bytes

Texts are compared character by character, and bytes come from UTF-8. Main statement:
`bytes_lt_bytes_iff`. Texts are in the order of their bytes.

A character is written in one of four ways, as its code tells (`utf8EncodeChar_cases`). A smaller
code gives smaller bytes, also where it takes fewer of them.
-/

namespace QueryLint.Text

open String (utf8EncodeChar)

/-- The bytes of a text. -/
def bytes (text : String) : List UInt8 := text.toUTF8.data.toList

theorem bytes_eq_flatMap (text : String) : bytes text = text.toList.flatMap utf8EncodeChar := by
  have hencoded : text.toList.utf8Encode = text.toUTF8 := String.utf8Encode_toList
  rw [bytes, ← hencoded, List.utf8Encode]
  simp

/-- The four ways to write a character, by its code. -/
theorem utf8EncodeChar_cases (c : Char) :
    let code := c.val.toNat
    (code < 0x80 ∧ utf8EncodeChar c = [.ofNat code]) ∨
      (0x80 ≤ code ∧ code < 0x800 ∧
        utf8EncodeChar c = [.ofNat (code / 64 + 192), .ofNat (code % 64 + 128)]) ∨
      (0x800 ≤ code ∧ code < 0x10000 ∧
        utf8EncodeChar c = [.ofNat (code / 4096 + 224), .ofNat (code / 64 % 64 + 128),
          .ofNat (code % 64 + 128)]) ∨
      (0x10000 ≤ code ∧ code < 0x110000 ∧
        utf8EncodeChar c = [.ofNat (code / 262144 + 240), .ofNat (code / 4096 % 64 + 128),
          .ofNat (code / 64 % 64 + 128), .ofNat (code % 64 + 128)]) := by
  have hvalid : c.val.toNat < 0x110000 := by
    have hvalid := c.valid
    unfold UInt32.isValidChar Nat.isValidChar at hvalid
    omega
  unfold utf8EncodeChar
  generalize c.val.toNat = code at hvalid
  rcases Nat.lt_or_ge code 0x80 with hone | hone
  · exact .inl ⟨hone, if_pos (Nat.le_of_lt_succ hone)⟩
  rcases Nat.lt_or_ge code 0x800 with htwo | htwo
  · have hfirst : code / 64 % 32 = code / 64 := Nat.mod_eq_of_lt (by omega)
    refine .inr (.inl ⟨hone, htwo, ?_⟩)
    simp only [if_neg (Nat.not_le.mpr hone), if_pos (Nat.le_of_lt_succ htwo), hfirst]
  rcases Nat.lt_or_ge code 0x10000 with hthree | hthree
  · have hfirst : code / 4096 % 16 = code / 4096 := Nat.mod_eq_of_lt (by omega)
    refine .inr (.inr (.inl ⟨htwo, hthree, ?_⟩))
    simp only [if_neg (Nat.not_le.mpr hone), if_neg (Nat.not_le.mpr htwo),
      if_pos (Nat.le_of_lt_succ hthree), hfirst]
  · have hfirst : code / 262144 % 8 = code / 262144 := Nat.mod_eq_of_lt (by omega)
    refine .inr (.inr (.inr ⟨hthree, hvalid, ?_⟩))
    simp only [if_neg (Nat.not_le.mpr hone), if_neg (Nat.not_le.mpr htwo),
      if_neg (Nat.not_le.mpr hthree), hfirst]

/-- A smaller character makes smaller bytes, whatever follows. -/
theorem utf8EncodeChar_append_lt {c d : Char} (h : c < d) (left right : List UInt8) :
    utf8EncodeChar c ++ left < utf8EncodeChar d ++ right := by
  have hcode : c.val.toNat < d.val.toNat := h
  have hleft := utf8EncodeChar_cases c
  have hright := utf8EncodeChar_cases d
  generalize c.val.toNat = small, d.val.toNat = large at hcode hleft hright
  -- Bytes are compared as numbers from the first on, and none of them overflows.
  rcases hleft with ⟨hc, hc'⟩ | ⟨hc, hc₂, hc'⟩ | ⟨hc, hc₂, hc'⟩ | ⟨hc, hc₂, hc'⟩ <;>
    rcases hright with ⟨hd, hd'⟩ | ⟨hd, hd₂, hd'⟩ | ⟨hd, hd₂, hd'⟩ | ⟨hd, hd₂, hd'⟩ <;>
      rw [hc', hd'] <;>
        simp only [List.cons_append, List.nil_append, List.cons_lt_cons_iff,
          UInt8.lt_iff_toNat_lt, ← UInt8.toNat_inj, UInt8.toNat_ofNat'] <;>
          simp (disch := omega) only [Nat.mod_eq_of_lt] <;> omega

theorem flatMap_utf8EncodeChar_lt {first second : List Char} (h : first < second) :
    first.flatMap utf8EncodeChar < second.flatMap utf8EncodeChar := by
  induction first generalizing second with
  | nil =>
      cases second with
      | nil => exact absurd h (List.lt_irrefl [])
      | cons d others =>
          rw [List.flatMap_nil, List.flatMap_cons]
          cases hd : utf8EncodeChar d with
          | nil => exact absurd hd String.utf8EncodeChar_ne_nil
          | cons byte more => exact List.nil_lt_cons _ _
  | cons c rest ih =>
      cases second with
      | nil => exact absurd h (List.not_lt_nil (c :: rest))
      | cons d others =>
          rw [List.flatMap_cons, List.flatMap_cons]
          rcases List.cons_lt_cons_iff.mp h with hhead | ⟨rfl, hrest⟩
          · exact utf8EncodeChar_append_lt hhead _ _
          · exact List.append_left_lt (ih hrest)

/-- Texts are in the order of their bytes. -/
theorem bytes_lt_bytes_iff {first second : String} :
    bytes first < bytes second ↔ first < second := by
  have hmono {first second : String} (h : first < second) : bytes first < bytes second := by
    rw [bytes_eq_flatMap, bytes_eq_flatMap]
    exact flatMap_utf8EncodeChar_lt (String.lt_iff_toList_lt.mp h)
  refine ⟨fun h ↦ ?_, hmono⟩
  rcases lt_trichotomy first second with hlt | rfl | hgt
  · exact hlt
  · exact absurd h (List.lt_irrefl (bytes first))
  · exact absurd h (List.lt_asymm (hmono hgt))

end QueryLint.Text
