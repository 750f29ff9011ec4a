import Cratewright.Text.Position
import Mathlib.Data.String.Basic

/-!
# The order of texts and of their bytes

Texts are compared character by character. UTF-8 keeps that order: the bytes of two characters differ before either
ends, and where they first differ the smaller character has the smaller byte, so that nothing written behind them
matters. Main statement: one text is below another exactly when its bytes are.
-/

namespace Cratewright.Text

open String (utf8EncodeChar)

/-- The bytes of a text are those of its characters in order. -/
theorem bytes_eq_flatMap (text : String) : bytes text = text.toList.flatMap utf8EncodeChar := by
  rw [bytes, String.toUTF8, ← String.utf8Encode_toList, List.utf8Encode, List.toList_data_toByteArray]

/-- The bytes of a character are below those of a larger one, whatever follows. -/
theorem utf8EncodeChar_append_lt {c d : Char} (below : c < d) (rest others : List UInt8) :
    utf8EncodeChar c ++ rest < utf8EncodeChar d ++ others := by
  have less : c.val.toNat < d.val.toNat := below
  have bound : d.val.toNat < 0x110000 := by
    have valid := d.valid
    simp only [UInt32.isValidChar, Nat.isValidChar] at valid
    omega
  have twoDigits : ∀ n : Nat, n / 4096 = n / 64 / 64 := by omega
  have threeDigits : ∀ n : Nat, n / 262144 = n / 64 / 64 / 64 := by omega
  -- The first byte tells how many follow, so that a longer form is above every shorter one.
  rw [utf8EncodeChar, utf8EncodeChar]
  generalize c.val.toNat = small at *
  generalize d.val.toNat = large at *
  split_ifs <;> simp only [List.cons_append, List.nil_append, List.cons_lt_cons_iff, UInt8.lt_iff_toNat_lt,
    ← UInt8.toNat_inj, UInt8.toNat_ofNat', twoDigits, threeDigits] <;> omega

/-- A list of characters that comes first has bytes that come first. -/
theorem flatMap_utf8EncodeChar_lt {chars others : List Char} (below : chars < others) :
    chars.flatMap utf8EncodeChar < others.flatMap utf8EncodeChar := by
  induction chars generalizing others with
  | nil =>
    cases others with
    | nil => exact absurd below (List.not_lt_nil _)
    | cons d rest =>
      rw [List.flatMap_nil, List.flatMap_cons]
      cases encoded : utf8EncodeChar d with
      | nil => exact absurd encoded String.utf8EncodeChar_ne_nil
      | cons byte bytes => exact List.nil_lt_cons _ _
  | cons c chars ih =>
    cases others with
    | nil => exact absurd below (List.not_lt_nil _)
    | cons d others =>
      rw [List.flatMap_cons, List.flatMap_cons]
      rcases List.cons_lt_cons_iff.mp below with less | ⟨rfl, behind⟩
      · exact utf8EncodeChar_append_lt less _ _
      · exact List.append_left_lt (ih behind)

/-- Comparing texts is comparing their bytes. -/
theorem bytes_lt_iff {one other : String} : bytes one < bytes other ↔ one < other := by
  have ascends : ∀ {one other : String}, one < other → bytes one < bytes other := by
    intro one other below
    rw [bytes_eq_flatMap, bytes_eq_flatMap]
    exact flatMap_utf8EncodeChar_lt below
  refine ⟨fun below => ?_, ascends⟩
  rcases lt_trichotomy one other with less | rfl | greater
  · exact less
  · exact absurd below (List.lt_irrefl _)
  · exact absurd below (List.lt_asymm (ascends greater))

end Cratewright.Text
