/-
Written strings read back.  Inside a string the reader takes the written form
of each character, escaped or not, for that character; the quote at the end
closes the string.
-/
import RegionSnapshot.Json.Printer
import RegionSnapshot.Json.Reader

namespace RegionSnapshot
namespace Json

theorem utf8ByteSize_ofList_cons (c : Char) (cs : List Char) :
    (String.ofList (c :: cs)).utf8ByteSize =
      c.utf8Size + (String.ofList cs).utf8ByteSize := by
  rw [String.ofList_cons, String.utf8ByteSize_append,
    String.utf8ByteSize_singleton]

/-- Of characters with one byte each there are as many as bytes. -/
theorem utf8ByteSize_ofList {cs : List Char} (h : ∀ c ∈ cs, c.utf8Size = 1) :
    (String.ofList cs).utf8ByteSize = cs.length := by
  induction cs with
  | nil => rfl
  | cons c rest ih =>
      have hrest := ih (fun d hd => h d (List.mem_cons_of_mem c hd))
      rw [utf8ByteSize_ofList_cons, h c List.mem_cons_self, hrest,
        List.length_cons, Nat.add_comm]

theorem utf8Size_digitChar {n : Nat} (h : n < 16) :
    (Nat.digitChar n).utf8Size = 1 := by
  revert n
  decide

/-- The escaped code of a control character is its number. -/
theorem hexCode?_control {n : Nat} (h : n < 32) :
    hexCode? ['0', '0', Nat.digitChar (n / 16), Nat.digitChar (n % 16)] =
      some n := by
  revert n
  decide

namespace Reading

theorem stepText_code {c : Char} {digits : List Char}
    (h : ∀ d ∈ c :: digits, d.utf8Size = 1) (hlength : digits.length < 3)
    (chars : List Char) (high : Option Nat) :
    stepText chars (.code high digits) c =
      .ok (chars, .code high (c :: digits)) := by
  have hsize : (String.ofList (c :: digits)).utf8ByteSize < 4 := by
    rw [utf8ByteSize_ofList h, List.length_cons]
    omega
  simp only [stepText, hsize, ↓reduceIte]

theorem stepText_codeEnd {c : Char} {digits : List Char}
    (h : ∀ d ∈ c :: digits, d.utf8Size = 1) (hlength : digits.length = 3)
    (chars : List Char) (high : Option Nat) :
    stepText chars (.code high digits) c =
      closeCode chars high (c :: digits) := by
  have hsize : ¬(String.ofList (c :: digits)).utf8ByteSize < 4 := by
    rw [utf8ByteSize_ofList h, List.length_cons]
    omega
  simp only [stepText, hsize, ↓reduceIte]

variable {role : Role} {stack : List Frame}

/-- A character that does not end the string leaves it open. -/
theorem step_text {c : Char} {chars next : List Char} {escape after : Escape}
    (hopen : escape ≠ .outside ∨ c ≠ '"')
    (hstep : stepText chars escape c = .ok (next, after)) :
    step ⟨.text role chars escape, stack⟩ c =
      .ok ⟨.text role next after, stack⟩ := by
  have hnot : ¬(escape = .outside ∧ c = '"') := by
    rintro ⟨houtside, hquote⟩
    exact hopen.elim (· houtside) (· hquote)
  simp [step, hnot, hstep, Except.map]

/-- A control character in the form of its code is read. -/
theorem foldlM_step_control {n : Nat} (h : n < 32) (chars : List Char) :
    ['\\', 'u', '0', '0', Nat.digitChar (n / 16),
        Nat.digitChar (n % 16)].foldlM step
      ⟨.text role chars .outside, stack⟩ =
      .ok ⟨.text role (Char.ofNat n :: chars) .outside, stack⟩ := by
  have hhigh := utf8Size_digitChar (n := n / 16) (by omega)
  have hlow := utf8Size_digitChar (n := n % 16) (by omega)
  have hzero : ('0' : Char).utf8Size = 1 := rfl
  have hfirst : ¬(0xD800 ≤ n ∧ n < 0xDC00) := by omega
  have hsecond : ¬(0xDC00 ≤ n ∧ n < 0xE000) := by omega
  have hclose : closeCode chars none
      [Nat.digitChar (n % 16), Nat.digitChar (n / 16), '0', '0'] =
      .ok (Char.ofNat n :: chars, .outside) := by
    simp [closeCode, hexCode?_control h, hfirst, hsecond]
  simp only [List.foldlM_cons, List.foldlM_nil, bind, Except.bind]
  rw [step_text (.inr (by decide)) rfl]
  simp only
  rw [step_text (.inl (by simp)) rfl]
  simp only
  rw [step_text (.inl (by simp))
    (stepText_code (by simp [hzero]) (by simp) chars none)]
  simp only
  rw [step_text (.inl (by simp))
    (stepText_code (by simp [hzero]) (by simp) chars none)]
  simp only
  rw [step_text (.inl (by simp))
    (stepText_code (by simp [hzero, hhigh]) (by simp) chars none)]
  simp only
  rw [step_text (.inl (by simp))
    ((stepText_codeEnd (by simp [hzero, hhigh, hlow]) (by simp) chars
      none).trans hclose)]
  rfl

/-- A letter after a backslash is read as the character it stands for. -/
theorem foldlM_step_escaped {letter c : Char} (hcode : letter ≠ 'u')
    (hletter : escaped? letter = some c) (chars : List Char) :
    ['\\', letter].foldlM step ⟨.text role chars .outside, stack⟩ =
      .ok ⟨.text role (c :: chars) .outside, stack⟩ := by
  have hstep : stepText chars .started letter = .ok (c :: chars, .outside) := by
    simp [stepText, hcode, hletter]
  simp only [List.foldlM_cons, List.foldlM_nil, bind, Except.bind]
  rw [step_text (.inr (by decide)) rfl]
  simp only
  rw [step_text (.inl (by simp)) hstep]
  rfl

/-- The written form of a character is read as that character. -/
theorem foldlM_step_escapeChar (c : Char) (chars : List Char) :
    (escapeChar c).foldlM step ⟨.text role chars .outside, stack⟩ =
      .ok ⟨.text role (c :: chars) .outside, stack⟩ := by
  simp only [escapeChar]
  split
  · exact foldlM_step_escaped (by decide) rfl chars
  · exact foldlM_step_escaped (by decide) rfl chars
  · exact foldlM_step_escaped (by decide) rfl chars
  · exact foldlM_step_escaped (by decide) rfl chars
  · exact foldlM_step_escaped (by decide) rfl chars
  · rename_i hquote hbackslash _ _ _
    split
    · rename_i h
      have hc : Char.ofNat 8 = c := by rw [← h, Char.ofNat_toNat]
      rw [← hc]
      exact foldlM_step_escaped (by decide) rfl chars
    · split
      · rename_i h
        have hc : Char.ofNat 12 = c := by rw [← h, Char.ofNat_toNat]
        rw [← hc]
        exact foldlM_step_escaped (by decide) rfl chars
      · split
        · rename_i h
          rw [foldlM_step_control h, Char.ofNat_toNat]
        · rename_i h
          have hne : ¬c = '\\' := hbackslash
          have hstep : stepText chars .outside c =
              .ok (c :: chars, .outside) := by
            simp [stepText, hne, h]
          simp only [List.foldlM_cons, List.foldlM_nil, bind, Except.bind]
          rw [step_text (.inr hquote) hstep]
          rfl

theorem foldlM_step_escape (cs chars : List Char) :
    (cs.flatMap escapeChar).foldlM step ⟨.text role chars .outside, stack⟩ =
      .ok ⟨.text role (cs.reverse ++ chars) .outside, stack⟩ := by
  induction cs generalizing chars with
  | nil => rfl
  | cons c rest ih =>
      rw [List.flatMap_cons, List.foldlM_append, foldlM_step_escapeChar]
      simp only [bind, Except.bind]
      rw [ih (c :: chars)]
      simp

/-- A written string, after its first quote, is read to its end. -/
theorem foldlM_step_text (s : String) (rest : List Char) :
    (s.toList.flatMap escapeChar ++ '"' :: rest).foldlM step
      ⟨.text role [] .outside, stack⟩ =
      rest.foldlM step (closeText role s.toList.reverse stack) := by
  have hclose : step ⟨.text role (s.toList.reverse ++ []) .outside, stack⟩ '"' =
      .ok (closeText role s.toList.reverse stack) := by
    simp [step]
  rw [List.foldlM_append, foldlM_step_escape]
  simp only [bind, Except.bind, List.foldlM_cons]
  rw [hclose]

end Reading
end Json
end RegionSnapshot
