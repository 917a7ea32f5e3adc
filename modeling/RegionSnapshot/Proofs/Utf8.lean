/-
UTF-8 read back.  The bytes of one character take the reader from between two
characters to between two characters again, with that character read; so
decoding what encoding wrote gives the text.
-/
import RegionSnapshot.Text.Utf8

namespace RegionSnapshot
namespace Utf8

/-- A byte that writes a small number above some base. -/
theorem toNat_ofNat_add (n base : Nat) (h : n + base < 256) :
    (UInt8.ofNat (n + base)).toNat = n + base := by
  rw [UInt8.toNat_ofNat']
  exact Nat.mod_eq_of_lt h

theorem isContinuation_iff {b : UInt8} :
    isContinuation b = true ↔ 0x80 ≤ b.toNat ∧ b.toNat ≤ 0xBF := by
  simp [isContinuation, UInt8.le_iff_toNat_le]

theorem begin?_two {b : UInt8} (hlow : 0xC2 ≤ b.toNat) (hhigh : b.toNat < 0xE0) :
    begin? b = some ⟨b, b.toNat % 32, 1, 0⟩ := by
  have hlast : b.toNat ≤ 0xDF := by omega
  simp [begin?, UInt8.le_iff_toNat_le, hlow, hlast]

theorem begin?_three {b : UInt8} (hlow : 0xE0 ≤ b.toNat)
    (hhigh : b.toNat < 0xF0) : begin? b = some ⟨b, b.toNat % 16, 1, 1⟩ := by
  have hnot : ¬b.toNat ≤ 0xDF := by omega
  have hlast : b.toNat ≤ 0xEF := by omega
  simp [begin?, UInt8.le_iff_toNat_le, hnot, hlow, hlast]

theorem begin?_four {b : UInt8} (hlow : 0xF0 ≤ b.toNat)
    (hhigh : b.toNat ≤ 0xF4) : begin? b = some ⟨b, b.toNat % 8, 1, 2⟩ := by
  have hnot : ¬b.toNat ≤ 0xDF := by omega
  have hnext : ¬b.toNat ≤ 0xEF := by omega
  simp [begin?, UInt8.le_iff_toNat_le, hnot, hnext, hlow, hhigh]

/-- Second bytes: the leads of the shortest and of the last characters narrow
them down, and so does the lead before the surrogates. -/
theorem isSecond_of_toNat (lead : UInt8) {b : UInt8} (hb : isContinuation b = true)
    (hE0 : lead.toNat = 0xE0 → 0xA0 ≤ b.toNat)
    (hED : lead.toNat = 0xED → b.toNat ≤ 0x9F)
    (hF0 : lead.toNat = 0xF0 → 0x90 ≤ b.toNat)
    (hF4 : lead.toNat = 0xF4 → b.toNat ≤ 0x8F) : isSecond lead b = true := by
  have hrange := isContinuation_iff.1 hb
  simp only [isSecond]
  split
  · rename_i h
    simpa [UInt8.le_iff_toNat_le, hrange.2] using hE0 (by rw [h]; rfl)
  · split
    · rename_i h
      simpa [UInt8.le_iff_toNat_le, hrange.1] using hED (by rw [h]; rfl)
    · split
      · rename_i h
        simpa [UInt8.le_iff_toNat_le, hrange.2] using hF0 (by rw [h]; rfl)
      · split
        · rename_i h
          simpa [UInt8.le_iff_toNat_le, hrange.1] using hF4 (by rw [h]; rfl)
        · exact hb

namespace Reading

theorem step_ascii {b : UInt8} (h : b.toNat < 0x80) (index : Nat)
    (chars : List Char) :
    step ⟨index, chars, none⟩ b =
      .ok ⟨index + 1, Char.ofNat b.toNat :: chars, none⟩ := by
  have hlt : b < 0x80 := UInt8.lt_iff_toNat_lt.2 h
  simp [step, hlt]

theorem step_lead {b : UInt8} {begun : Begun} (h : 0x80 ≤ b.toNat)
    (hbegin : begin? b = some begun) (index : Nat) (chars : List Char) :
    step ⟨index, chars, none⟩ b = .ok ⟨index + 1, chars, some begun⟩ := by
  have hnot : ¬b < 0x80 := by
    rw [UInt8.lt_iff_toNat_lt]
    exact Nat.not_lt.2 h
  simp [step, hnot, hbegin]

theorem step_last {b lead : UInt8} {code seen : Nat}
    (h : Begun.accepts ⟨lead, code, seen, 0⟩ b = true) (index : Nat)
    (chars : List Char) :
    step ⟨index, chars, some ⟨lead, code, seen, 0⟩⟩ b =
      .ok ⟨index + 1, Char.ofNat (code * 64 + b.toNat % 64) :: chars, none⟩ := by
  simp [step, h]

theorem step_inner {b lead : UInt8} {code seen missing : Nat}
    (h : Begun.accepts ⟨lead, code, seen, missing + 1⟩ b = true) (index : Nat)
    (chars : List Char) :
    step ⟨index, chars, some ⟨lead, code, seen, missing + 1⟩⟩ b =
      .ok ⟨index + 1, chars,
        some ⟨lead, code * 64 + b.toNat % 64, seen + 1, missing⟩⟩ := by
  simp [step, h]

theorem foldlM_two {lead b : UInt8} (hlow : 0xC2 ≤ lead.toNat)
    (hhigh : lead.toNat < 0xE0) (hb : isContinuation b = true) (index : Nat)
    (chars : List Char) :
    [lead, b].foldlM step ⟨index, chars, none⟩ =
      .ok ⟨index + 2,
        Char.ofNat (lead.toNat % 32 * 64 + b.toNat % 64) :: chars, none⟩ := by
  have hsecond : isSecond lead b = true :=
    isSecond_of_toNat lead hb (by omega) (by omega) (by omega) (by omega)
  simp only [List.foldlM_cons, List.foldlM_nil]
  rw [step_lead (by omega) (begin?_two hlow hhigh)]
  simp only [bind, Except.bind]
  rw [step_last (by simpa [Begun.accepts] using hsecond)]
  rfl

theorem foldlM_three {lead b c : UInt8} (hlow : 0xE0 ≤ lead.toNat)
    (hhigh : lead.toNat < 0xF0) (hb : isSecond lead b = true)
    (hc : isContinuation c = true) (index : Nat) (chars : List Char) :
    [lead, b, c].foldlM step ⟨index, chars, none⟩ =
      .ok ⟨index + 3,
        Char.ofNat ((lead.toNat % 16 * 64 + b.toNat % 64) * 64 +
          c.toNat % 64) :: chars, none⟩ := by
  simp only [List.foldlM_cons, List.foldlM_nil]
  rw [step_lead (by omega) (begin?_three hlow hhigh)]
  simp only [bind, Except.bind]
  rw [step_inner (by simpa [Begun.accepts] using hb)]
  simp only
  rw [step_last (by simpa [Begun.accepts] using hc)]
  rfl

theorem foldlM_four {lead b c d : UInt8} (hlow : 0xF0 ≤ lead.toNat)
    (hhigh : lead.toNat ≤ 0xF4) (hb : isSecond lead b = true)
    (hc : isContinuation c = true) (hd : isContinuation d = true)
    (index : Nat) (chars : List Char) :
    [lead, b, c, d].foldlM step ⟨index, chars, none⟩ =
      .ok ⟨index + 4,
        Char.ofNat (((lead.toNat % 8 * 64 + b.toNat % 64) * 64 +
          c.toNat % 64) * 64 + d.toNat % 64) :: chars, none⟩ := by
  simp only [List.foldlM_cons, List.foldlM_nil]
  rw [step_lead (by omega) (begin?_four hlow hhigh)]
  simp only [bind, Except.bind]
  rw [step_inner (by simpa [Begun.accepts] using hb)]
  simp only
  rw [step_inner (by simpa [Begun.accepts] using hc)]
  simp only
  rw [step_last (by simpa [Begun.accepts] using hd)]
  rfl

end Reading

/-- A byte after the first one holds six bits of a code. -/
theorem toNat_tail (n : Nat) :
    (UInt8.ofNat (n % 64 + 0x80)).toNat = n % 64 + 0x80 :=
  toNat_ofNat_add (n % 64) 0x80 (by omega)

theorem isContinuation_tail (n : Nat) :
    isContinuation (.ofNat (n % 64 + 0x80)) = true := by
  rw [isContinuation_iff, toNat_tail]
  omega

/-- The code of a character lies on one side of the surrogates. -/
theorem toNat_valid (c : Char) :
    c.val.toNat < 0xD800 ∨ 0xDFFF < c.val.toNat ∧ c.val.toNat < 0x110000 :=
  c.valid

theorem ofNat_val_toNat (c : Char) : Char.ofNat c.val.toNat = c :=
  Char.ofNat_toNat c

/-- The bytes of one character are read as that character. -/
theorem foldlM_step_encodeChar (c : Char) (index : Nat) (chars : List Char) :
    (String.utf8EncodeChar c).foldlM Reading.step ⟨index, chars, none⟩ =
      .ok ⟨index + (String.utf8EncodeChar c).length, c :: chars, none⟩ := by
  have hvalid := toNat_valid c
  have hchar := ofNat_val_toNat c
  generalize hv : c.val.toNat = v at hvalid hchar
  have hbyte1 := toNat_tail v
  have hbyte2 := toNat_tail (v / 64)
  have hbyte3 := toNat_tail (v / 4096)
  simp only [String.utf8EncodeChar, hv]
  split
  · have hbyte : (UInt8.ofNat v).toNat = v := by
      rw [UInt8.toNat_ofNat']
      omega
    simp only [List.foldlM_cons, List.foldlM_nil]
    rw [Reading.step_ascii (by omega), hbyte, hchar]
    rfl
  · split
    · have hlead := toNat_ofNat_add (v / 64 % 32) 0xC0 (by omega)
      rw [Reading.foldlM_two (by omega) (by omega) (isContinuation_tail v)]
      have hcode : (v / 64 % 32 + 0xC0) % 32 * 64 + (v % 64 + 0x80) % 64 = v := by
        omega
      rw [hlead, hbyte1, hcode, hchar]
      rfl
    · split
      · have hlead := toNat_ofNat_add (v / 4096 % 16) 0xE0 (by omega)
        have hsecond := isSecond_of_toNat
          (.ofNat (v / 4096 % 16 + 0xE0)) (isContinuation_tail (v / 64))
          (by omega) (by omega) (by omega) (by omega)
        rw [Reading.foldlM_three (by omega) (by omega) hsecond
          (isContinuation_tail v)]
        have hcode : ((v / 4096 % 16 + 0xE0) % 16 * 64 +
            (v / 64 % 64 + 0x80) % 64) * 64 + (v % 64 + 0x80) % 64 = v := by
          omega
        rw [hlead, hbyte1, hbyte2, hcode, hchar]
        rfl
      · have hlead := toNat_ofNat_add (v / 262144 % 8) 0xF0 (by omega)
        have hsecond := isSecond_of_toNat
          (.ofNat (v / 262144 % 8 + 0xF0))
          (isContinuation_tail (v / 4096))
          (by omega) (by omega) (by omega) (by omega)
        rw [Reading.foldlM_four (by omega) (by omega) hsecond
          (isContinuation_tail (v / 64)) (isContinuation_tail v)]
        have hcode : (((v / 262144 % 8 + 0xF0) % 8 * 64 +
            (v / 4096 % 64 + 0x80) % 64) * 64 +
            (v / 64 % 64 + 0x80) % 64) * 64 + (v % 64 + 0x80) % 64 = v := by
          omega
        rw [hlead, hbyte1, hbyte2, hbyte3, hcode, hchar]
        rfl

/-- The bytes of characters are read as these characters. -/
theorem foldlM_step_encode (cs : List Char) (index : Nat) (chars : List Char) :
    ∃ next, (cs.flatMap String.utf8EncodeChar).foldlM Reading.step
      ⟨index, chars, none⟩ = .ok ⟨next, cs.reverse ++ chars, none⟩ := by
  induction cs generalizing index chars with
  | nil => exact ⟨index, rfl⟩
  | cons c rest ih =>
      obtain ⟨next, hrest⟩ :=
        ih (index + (String.utf8EncodeChar c).length) (c :: chars)
      refine ⟨next, ?_⟩
      rw [List.flatMap_cons, List.foldlM_append, foldlM_step_encodeChar]
      simpa [bind, Except.bind] using hrest

/-- Every text is read back from its bytes. -/
theorem decode_encode (s : String) : decode (encode s) = .ok s := by
  obtain ⟨next, hread⟩ := foldlM_step_encode s.toList 0 []
  rw [decode, encode, Reading.start, hread]
  simp [bind, Except.bind, Reading.finish]

end Utf8
end RegionSnapshot
