import Mathlib.Data.String.Basic

/-!
# The order of texts is the order of their bytes

Texts are compared character by character.  Written as bytes they would be compared byte by byte, and
a character takes up to four of them.  Both orders are the same: of two characters the smaller one
has the smaller first byte, or the same first byte and then the smaller second one, and so on, since
the bytes of a character are the digits of its number and a longer encoding begins with a greater
byte.

**Results.**
* `encode_lt_of_lt`: the bytes of two characters, whatever follows them.
* `lt_iff_bytes_lt`: the order of two texts.
-/

namespace CodeAudit
namespace Text

/-- The bytes of a text in UTF-8. -/
def bytes
    (text : String) : List UInt8 :=
  text.toUTF8.data.toList

theorem bytes_eq_flatMap
    (text : String) :
    bytes text = text.toList.flatMap String.utf8EncodeChar := by
  have hencoded :
      text.toUTF8 = (text.toList.flatMap String.utf8EncodeChar).toByteArray :=
    String.utf8Encode_toList.symm
  rw [bytes, hencoded, List.data_toByteArray]

/-- Numbers below 256 are ordered as the bytes they stand for. -/
theorem cons_ofNat_lt_iff
    {a b : Nat}
    (ha : a < 256)
    (hb : b < 256)
    (s t : List UInt8) :
    UInt8.ofNat a :: s < UInt8.ofNat b :: t ↔ a < b ∨ a = b ∧ s < t := by
  have hvalue : ∀ n < 256, (UInt8.ofNat n).toNat = n := fun n hn => Nat.mod_eq_of_lt hn
  rw [List.cons_lt_cons_iff, UInt8.lt_iff_toNat_lt, ← UInt8.toNat_inj, hvalue a ha, hvalue b hb]

/-- The smaller number has the smaller digits in front, or the same and the smaller last digit. -/
theorem digits_lt
    {v w : Nat}
    (hlt : v < w) :
    v / 64 < w / 64 ∨ v / 64 = w / 64 ∧ v % 64 < w % 64 := by
  omega

/-- The bytes of the smaller character come first, whatever follows them. -/
theorem encode_lt_of_lt
    {c d : Char}
    (hlt : c < d)
    (s t : List UInt8) :
    String.utf8EncodeChar c ++ s < String.utf8EncodeChar d ++ t := by
  have hvalue : c.val.toNat < d.val.toNat := hlt
  have hvalid : d.val.toNat < 0x110000 := by
    have hcases := d.valid
    simp only [UInt32.isValidChar, Nat.isValidChar] at hcases
    omega
  unfold String.utf8EncodeChar
  generalize c.val.toNat = v at *
  generalize d.val.toNat = w at *
  simp only
  repeat' split
  all_goals
    simp (disch := omega) only [List.cons_append, List.nil_append, cons_ofNat_lt_iff]
  -- One byte each, or encodings of different lengths: the first bytes differ.
  any_goals (left; omega)
  · rcases digits_lt hvalue with hfirst | ⟨hfirst, hlast⟩
    · exact Or.inl (by omega)
    · exact Or.inr ⟨by omega, Or.inl (by omega)⟩
  · rcases digits_lt hvalue with hfront | ⟨hfront, hlast⟩
    · rcases digits_lt hfront with hfirst | ⟨hfirst, hsecond⟩
      · exact Or.inl (by omega)
      · exact Or.inr ⟨by omega, Or.inl (by omega)⟩
    · exact Or.inr ⟨by omega, Or.inr ⟨by omega, Or.inl (by omega)⟩⟩
  · rcases digits_lt hvalue with hfront | ⟨hfront, hlast⟩
    · rcases digits_lt hfront with hfront | ⟨hfront, hthird⟩
      · rcases digits_lt hfront with hfirst | ⟨hfirst, hsecond⟩
        · exact Or.inl (by omega)
        · exact Or.inr ⟨by omega, Or.inl (by omega)⟩
      · exact Or.inr ⟨by omega, Or.inr ⟨by omega, Or.inl (by omega)⟩⟩
    · exact Or.inr ⟨by omega, Or.inr ⟨by omega, Or.inr ⟨by omega, Or.inl (by omega)⟩⟩⟩

/-- A character takes at least one byte. -/
theorem encode_eq_cons
    (c : Char) :
    ∃ byte rest, String.utf8EncodeChar c = byte :: rest := by
  unfold String.utf8EncodeChar
  simp only
  repeat' split
  all_goals exact ⟨_, _, rfl⟩

theorem flatMap_encode_lt
    {cs ds : List Char}
    (hlt : cs < ds) :
    cs.flatMap String.utf8EncodeChar < ds.flatMap String.utf8EncodeChar := by
  induction cs generalizing ds with
  | nil =>
      cases ds with
      | nil =>
          cases hlt
      | cons d ds =>
          obtain ⟨byte, rest, hencoded⟩ := encode_eq_cons d
          rw [List.flatMap_nil, List.flatMap_cons, hencoded, List.cons_append]
          exact List.nil_lt_cons _ _
  | cons c cs ih =>
      cases ds with
      | nil =>
          cases hlt
      | cons d ds =>
          rw [List.flatMap_cons, List.flatMap_cons]
          rcases List.cons_lt_cons_iff.mp hlt with hfirst | ⟨rfl, hrest⟩
          · exact encode_lt_of_lt hfirst _ _
          · exact List.append_left_lt (ih hrest)

/-- Texts are ordered as their bytes are. -/
theorem lt_iff_bytes_lt
    {a b : String} :
    a < b ↔ bytes a < bytes b := by
  have hbytes : ∀ {a b : String}, a < b → bytes a < bytes b := by
    intro a b hlt
    rw [bytes_eq_flatMap, bytes_eq_flatMap]
    exact flatMap_encode_lt (String.lt_iff_toList_lt.mp hlt)
  refine ⟨hbytes, fun hlt => ?_⟩
  rcases lt_trichotomy a b with h | rfl | h
  · exact h
  · exact absurd hlt (List.lt_irrefl _)
  · exact absurd hlt (List.lt_asymm (hbytes h))

end Text
end CodeAudit
