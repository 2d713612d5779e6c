import Mathlib.Tactic.SplitIfs
import RequestSql.Names.Order

/-!
# The order of names as the order of their bytes

Names are compared character by character. UTF-8 keeps this order: of two characters the
one with the smaller code point has the smaller bytes at the first place where the two
differ, and no character is without bytes. So names that ascend, ascend byte by byte.

Key definition: `Names.bytes`.
Key theorems: `Names.encode_append_lt`, `Names.lt_iff_bytes_lt`.
-/

namespace RequestSql.Names

/-- The UTF-8 bytes of a name. -/
def bytes (name : String) : List UInt8 := name.toUTF8.data.toList

theorem bytes_eq_flatMap (name : String) :
    bytes name = name.toList.flatMap String.utf8EncodeChar := by
  obtain ⟨cs, rfl⟩ : ∃ cs, name = String.ofList cs := ⟨_, String.ofList_toList.symm⟩
  rw [bytes, String.toUTF8, String.toByteArray_ofList, String.toList_ofList, List.utf8Encode,
    List.data_toByteArray]

theorem code_lt (c : Char) : c.val.toNat < 1114112 := by
  rcases c.valid with h | ⟨_, h⟩
  · exact Nat.lt_trans h (by decide)
  · exact h

section Byte

variable {m n : Nat}

theorem ofNat_lt_ofNat (hm : m < 256) (hn : n < 256) :
    UInt8.ofNat m < UInt8.ofNat n ↔ m < n := by
  rw [UInt8.lt_iff_toNat_lt, UInt8.toNat_ofNat', UInt8.toNat_ofNat', Nat.mod_eq_of_lt hm,
    Nat.mod_eq_of_lt hn]

theorem ofNat_eq_ofNat (hm : m < 256) (hn : n < 256) :
    UInt8.ofNat m = UInt8.ofNat n ↔ m = n := by
  rw [← UInt8.toNat_inj, UInt8.toNat_ofNat', UInt8.toNat_ofNat', Nat.mod_eq_of_lt hm,
    Nat.mod_eq_of_lt hn]

end Byte

/-- The bytes of the smaller character come first, whatever follows the characters. -/
theorem encode_append_lt {c d : Char} (h : c < d) (cs ds : List UInt8) :
    String.utf8EncodeChar c ++ cs < String.utf8EncodeChar d ++ ds := by
  have hcd : c.val.toNat < d.val.toNat := h
  have hd := code_lt d
  unfold String.utf8EncodeChar
  generalize c.val.toNat = m at *
  generalize d.val.toNat = n at *
  -- The bytes are digits to the base 64, so each is the last digit of a further quotient.
  have hm : m / 4096 = m / 64 / 64 ∧ m / 262144 = m / 64 / 64 / 64 := by omega
  have hn : n / 4096 = n / 64 / 64 ∧ n / 262144 = n / 64 / 64 / 64 := by omega
  simp only [hm, hn]
  -- One case for every two numbers of bytes; the first digits that differ decide.
  split_ifs
  all_goals try omega
  all_goals simp only [List.cons_append, List.nil_append, List.cons_lt_cons_iff]
  all_goals simp (disch := omega) only [ofNat_lt_ofNat, ofNat_eq_ofNat]
  all_goals rcases Nat.lt_or_ge (m / 64 / 64) (n / 64 / 64) with hlt | hge
  all_goals omega

theorem flatMap_encode_lt {cs ds : List Char} (h : cs < ds) :
    cs.flatMap String.utf8EncodeChar < ds.flatMap String.utf8EncodeChar := by
  induction cs generalizing ds with
  | nil =>
    cases ds with
    | nil => exact absurd h (List.lt_irrefl [])
    | cons d ds =>
      obtain ⟨b, bs, heq⟩ := List.exists_cons_of_ne_nil (String.utf8EncodeChar_ne_nil (c := d))
      rw [List.flatMap_cons, heq]
      exact List.nil_lt_cons ..
  | cons c cs ih =>
    cases ds with
    | nil => exact absurd h (List.not_lt_nil _)
    | cons d ds =>
      rcases List.cons_lt_cons_iff.1 h with hlt | ⟨rfl, htail⟩
      · exact encode_append_lt hlt _ _
      · exact List.append_left_lt (ih htail)

/-- Names are in order exactly when their bytes are. -/
theorem lt_iff_bytes_lt {a b : String} : a < b ↔ bytes a < bytes b := by
  have hmono : ∀ {a b : String}, a < b → bytes a < bytes b := by
    intro a b h
    rw [bytes_eq_flatMap, bytes_eq_flatMap]
    exact flatMap_encode_lt h
  refine ⟨hmono, fun h => Decidable.byContradiction fun hlt => ?_⟩
  by_cases heq : a = b
  · rw [heq] at h
    exact List.lt_irrefl _ h
  · exact List.lt_asymm h (hmono (lt_of_not_lt hlt heq))

end RequestSql.Names
