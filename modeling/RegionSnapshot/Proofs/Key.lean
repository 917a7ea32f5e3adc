/-
The order of keys.  Integers come before strings, integers in the order of their
values.  Strings are compared by their characters, and their bytes compare in
the same way: the first byte of a character says how long it is, longer
characters are greater ones, and the bytes hold the digits of a code with the
highest digit in front.
-/
import RegionSnapshot.Key
import RegionSnapshot.Proofs.Utf8

namespace RegionSnapshot
namespace Utf8

/-- A greater number has a greater last digit of six bits, unless it is greater
without that digit. -/
theorem digit_lt {v w : Nat} (h : v < w) :
    v / 64 < w / 64 ∨ v / 64 = w / 64 ∧ v % 64 < w % 64 := by
  omega

/-- Numbers compare as their digits of six bits do, the highest one first. -/
theorem digits_lt {v w : Nat} (h : v < w) :
    v / 262144 < w / 262144 ∨ v / 262144 = w / 262144 ∧
      (v / 4096 % 64 < w / 4096 % 64 ∨ v / 4096 % 64 = w / 4096 % 64 ∧
        (v / 64 % 64 < w / 64 % 64 ∨ v / 64 % 64 = w / 64 % 64 ∧
          v % 64 < w % 64)) := by
  have htwo : v / 4096 = v / 64 / 64 ∧ w / 4096 = w / 64 / 64 := by omega
  have hthree : v / 262144 = v / 64 / 64 / 64 ∧
      w / 262144 = w / 64 / 64 / 64 := by omega
  rw [htwo.1, htwo.2, hthree.1, hthree.2]
  rcases digit_lt h with h | ⟨heq, h⟩
  · rcases digit_lt h with h | ⟨heq, h⟩
    · rcases digit_lt h with h | ⟨heq, h⟩
      · exact .inl h
      · exact .inr ⟨heq, .inl h⟩
    · exact .inr ⟨by rw [heq], .inr ⟨by rw [heq], .inl h⟩⟩
  · exact .inr ⟨by rw [heq], .inr ⟨by rw [heq], .inr ⟨by rw [heq], h⟩⟩⟩

theorem cons_ofNat_lt_cons_ofNat {m n : Nat} (hm : m < 256) (hn : n < 256)
    {first second : Bytes} :
    UInt8.ofNat m :: first < UInt8.ofNat n :: second ↔
      m < n ∨ m = n ∧ first < second := by
  rw [List.cons_lt_cons_iff, UInt8.lt_iff_toNat_lt, ← UInt8.toNat_inj,
    UInt8.toNat_ofNat_of_lt' hm, UInt8.toNat_ofNat_of_lt' hn]

/-- The bytes of a smaller character come first, whatever follows them. -/
theorem encodeChar_append_lt {c d : Char} (h : c < d) (first second : Bytes) :
    String.utf8EncodeChar c ++ first < String.utf8EncodeChar d ++ second := by
  have hlt : c.val.toNat < d.val.toNat := h
  have hvalid := toNat_valid d
  simp only [String.utf8EncodeChar]
  generalize c.val.toNat = v at hlt ⊢
  generalize d.val.toNat = w at hlt hvalid ⊢
  have hdigits := digits_lt hlt
  have hv : v / 262144 % 8 = v / 262144 := Nat.mod_eq_of_lt (by omega)
  have hw : w / 262144 % 8 = w / 262144 := Nat.mod_eq_of_lt (by omega)
  -- the numbers of bytes of both characters: of different ones the first byte
  -- decides, and of equal ones the digits do
  repeat' split
  all_goals
    simp (disch := omega) only [List.cons_append, cons_ofNat_lt_cons_ofNat]
    omega

theorem encodeChar_ne_nil (c : Char) : String.utf8EncodeChar c ≠ [] := by
  simp only [String.utf8EncodeChar]
  repeat' split
  all_goals exact List.cons_ne_nil _ _

theorem flatMap_encodeChar_lt {cs ds : List Char} (h : cs < ds) :
    cs.flatMap String.utf8EncodeChar < ds.flatMap String.utf8EncodeChar := by
  induction cs generalizing ds with
  | nil =>
      cases ds with
      | nil => exact absurd h (List.not_lt_nil [])
      | cons d more =>
          obtain ⟨b, bytes, hbytes⟩ :=
            List.exists_cons_of_ne_nil (encodeChar_ne_nil d)
          rw [List.flatMap_cons, hbytes]
          exact List.nil_lt_cons b _
  | cons c rest ih =>
      cases ds with
      | nil => exact absurd h (List.not_lt_nil _)
      | cons d more =>
          rw [List.flatMap_cons, List.flatMap_cons]
          rcases List.cons_lt_cons_iff.1 h with hlt | ⟨rfl, hrest⟩
          · exact encodeChar_append_lt hlt _ _
          · exact List.append_left_lt (ih hrest)

/-- Texts compare as their bytes do. -/
theorem encode_lt_encode_iff {s t : String} : encode s < encode t ↔ s < t := by
  constructor
  · intro h
    by_cases hlt : s < t
    · exact hlt
    by_cases heq : s = t
    · rw [heq] at h
      exact absurd h (List.lt_irrefl _)
    · have hback : t < s := KeyOrder.connex s t hlt heq
      have hbytes : encode t < encode s :=
        flatMap_encodeChar_lt (String.lt_iff.1 hback)
      exact absurd hbytes (List.lt_asymm h)
  · intro h
    exact flatMap_encodeChar_lt (String.lt_iff.1 h)

end Utf8

namespace Key

/-- Integers by their values, before strings by their bytes. -/
def Precedes : Key → Key → Prop
  | .int a, .int b => a.toInt < b.toInt
  | .int _, .str _ => True
  | .str _, .int _ => False
  | .str a, .str b => Utf8.encode a < Utf8.encode b

theorem precedes_iff {a b : Key} : a.Precedes b ↔ a < b := by
  cases a with
  | int a =>
      cases b with
      | int b => exact Int64.lt_iff_toInt_lt.symm
      | str b => exact Iff.rfl
  | str a =>
      cases b with
      | int b => exact Iff.rfl
      | str b => exact Utf8.encode_lt_encode_iff

end Key
end RegionSnapshot
