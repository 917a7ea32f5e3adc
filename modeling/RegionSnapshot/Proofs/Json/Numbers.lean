/-
Written numbers read back.  A number is read on its own in the same way as
inside a container: as long as its characters last the reader keeps a draft,
and the first other character closes it.  Integers of 64 bits are always read
back; a double is read as the number that its text alone is read as.
-/
import RegionSnapshot.Json.Printer
import RegionSnapshot.Json.Reader

namespace RegionSnapshot
namespace Json

/-- A character that stands in the text of some number. -/
def isNumberChar (c : Char) : Bool :=
  c.isDigit || c == '-' || c == '+' || c == '.' || c == 'e' || c == 'E'

theorem digit?_eq_none {c : Char} (h : isNumberChar c = false) :
    digit? c = none := by
  simp only [isNumberChar, Bool.or_eq_false_iff] at h
  simp [digit?, h]

theorem isSpace_eq_false {c : Char} (h : isNumberChar c = true) :
    isSpace c = false := by
  cases hspace : isSpace c with
  | false => rfl
  | true =>
      simp only [isSpace, Bool.or_eq_true, beq_iff_eq] at hspace
      rcases hspace with ((rfl | rfl) | rfl) | rfl <;>
        simp [isNumberChar] at h

namespace Draft

/-- The draft of the first character of a number. -/
def first (c : Char) : Except ReadError Draft :=
  if c = '-' then .ok (.start .sign true [])
  else
    match digit? c with
    | some 0 => .ok (.start .zero false [0])
    | some n => .ok (.start .whole false [n])
    | none => .error .malformed

/-- The draft with one more character of a number. -/
def next (d : Draft) (c : Char) : Except ReadError Draft :=
  (d.extend? c).getD (.error .malformed)

/-- The draft of characters of a number. -/
def ofChars : List Char → Except ReadError Draft
  | [] => .error .malformed
  | c :: cs => first c >>= cs.foldlM next

/-- The number that characters write. -/
def number? (cs : List Char) : Option Number :=
  match ofChars cs with
  | .ok d => if d.isComplete then d.value? else none
  | .error _ => none

theorem first_eq_error {c : Char} {e : ReadError} (h : first c = .error e) :
    e = .malformed := by
  simp only [first] at h
  split at h
  · simp at h
  · split at h <;> simp_all

theorem extend?_eq_error {d : Draft} {c : Char} {e : ReadError}
    (h : d.extend? c = some (.error e)) : e = .malformed := by
  simp only [extend?] at h
  split at h <;> grind

theorem next_eq_error {d : Draft} {c : Char} {e : ReadError}
    (h : d.next c = .error e) : e = .malformed := by
  cases hextend : d.extend? c with
  | none =>
      simp only [next, hextend, Option.getD_none, Except.error.injEq] at h
      exact h.symm
  | some result =>
      simp only [next, hextend, Option.getD_some] at h
      exact extend?_eq_error (hextend.trans (congrArg some h))

theorem foldlM_next_eq_error {cs : List Char} {d : Draft} {e : ReadError}
    (h : cs.foldlM next d = .error e) : e = .malformed := by
  induction cs generalizing d with
  | nil => simp [pure, Except.pure] at h
  | cons c rest ih =>
      rw [List.foldlM_cons] at h
      cases hnext : d.next c with
      | error cause =>
          simp only [hnext, bind, Except.bind, Except.error.injEq] at h
          exact h ▸ next_eq_error hnext
      | ok middle =>
          simp only [hnext, bind, Except.bind] at h
          exact ih h

theorem ofChars_eq_error {cs : List Char} {e : ReadError}
    (h : ofChars cs = .error e) : e = .malformed := by
  cases cs with
  | nil =>
      simp only [ofChars, Except.error.injEq] at h
      exact h.symm
  | cons c rest =>
      cases hfirst : first c with
      | error cause =>
          simp only [ofChars, hfirst, bind, Except.bind,
            Except.error.injEq] at h
          exact h ▸ first_eq_error hfirst
      | ok d =>
          simp only [ofChars, hfirst, bind, Except.bind] at h
          exact foldlM_next_eq_error h

/-- A character that belongs to no number ends a complete draft and is a fault
in any other one. -/
theorem extend?_of_not_numberChar {c : Char} (h : isNumberChar c = false)
    (d : Draft) :
    d.extend? c = if d.isComplete then none else some (.error .malformed) := by
  have hdigit := digit?_eq_none h
  simp only [isNumberChar, Bool.or_eq_false_iff, beq_eq_false_iff_ne] at h
  obtain ⟨place, negative, whole, fraction, exponentNegative, exponent⟩ := d
  cases place <;> simp [extend?, isComplete, hdigit, h]

end Draft

namespace Reading

/-- Once a value is settled no character of a number may follow. -/
theorem stepBetween_settle {c : Char} (h : isNumberChar c = true)
    (value : Json) (stack : List Frame) :
    stepBetween (settle value stack) c = .error .malformed := by
  have hspace := isSpace_eq_false h
  have hcomma : c ≠ ',' := by
    rintro rfl
    simp [isNumberChar] at h
  have hsquare : c ≠ ']' := by
    rintro rfl
    simp [isNumberChar] at h
  have hbrace : c ≠ '\x7d' := by
    rintro rfl
    simp [isNumberChar] at h
  rcases stack with _ | ⟨frame, outer⟩
  · simp [settle, stepBetween, hspace]
  · cases frame <;>
      simp [settle, stepBetween, hspace, hcomma, hsquare, hbrace]

theorem step_number {c : Char} (h : isNumberChar c = true) (d : Draft)
    (stack : List Frame) :
    step ⟨.number d, stack⟩ c = (d.next c).map (⟨.number ·, stack⟩) := by
  cases hextend : d.extend? c with
  | some result => simp [step, Draft.next, hextend]
  | none =>
      cases hvalue : d.value? with
      | none =>
          simp [step, Draft.next, hextend, closeNumber, hvalue, bind,
            Except.bind, Except.map]
      | some n =>
          simp [step, Draft.next, hextend, closeNumber, hvalue, bind,
            Except.bind, Except.map, stepBetween_settle h]

theorem foldlM_step_number {cs : List Char}
    (h : ∀ c ∈ cs, isNumberChar c = true) (d : Draft) (stack : List Frame) :
    cs.foldlM step ⟨.number d, stack⟩ =
      (cs.foldlM Draft.next d).map (⟨.number ·, stack⟩) := by
  induction cs generalizing d with
  | nil => rfl
  | cons c rest ih =>
      have hrest := ih (fun e he => h e (List.mem_cons_of_mem c he))
      rw [List.foldlM_cons, List.foldlM_cons,
        step_number (h c List.mem_cons_self)]
      cases hnext : d.next c with
      | error e => rfl
      | ok middle => exact hrest middle

theorem step_value {c : Char} (h : isNumberChar c = true)
    (stack : List Frame) :
    step ⟨.value, stack⟩ c = (Draft.first c).map (⟨.number ·, stack⟩) := by
  have hspace := isSpace_eq_false h
  simp only [step, stepBetween, hspace, Bool.false_eq_true, ↓reduceIte]
  simp only [begin]
  split
  case h_2 => rfl
  case h_8 hminus _ _ _ _ _ =>
    have hne : c ≠ '-' := hminus
    simp only [Draft.first, hne, ↓reduceIte]
    rcases digit? c with _ | _ | n <;> rfl
  all_goals simp [isNumberChar] at h

theorem foldlM_step_value {cs : List Char}
    (h : ∀ c ∈ cs, isNumberChar c = true) (hne : cs ≠ [])
    (stack : List Frame) :
    cs.foldlM step ⟨.value, stack⟩ =
      (Draft.ofChars cs).map (⟨.number ·, stack⟩) := by
  cases cs with
  | nil => exact absurd rfl hne
  | cons c rest =>
      rw [List.foldlM_cons, step_value (h c List.mem_cons_self)]
      cases hfirst : Draft.first c with
      | error e => simp [Draft.ofChars, hfirst, bind, Except.bind, Except.map]
      | ok d =>
          simp only [Draft.ofChars, hfirst, bind, Except.bind, Except.map]
          exact foldlM_step_number
            (fun e he => h e (List.mem_cons_of_mem c he)) d stack

/-- After a value is settled a further character is read the same way,
whatever the value was read from. -/
theorem step_settle (value : Json) (stack : List Frame) (c : Char) :
    step (settle value stack) c = stepBetween (settle value stack) c := by
  rcases stack with _ | ⟨frame, outer⟩
  · rfl
  · cases frame <;> rfl

/-- The first character that belongs to no number closes the one before it. -/
theorem foldlM_step_close {c : Char} (h : isNumberChar c = false) (d : Draft)
    (rest : List Char) (stack : List Frame) :
    (c :: rest).foldlM step ⟨.number d, stack⟩ =
      match if d.isComplete then d.value? else none with
      | some n => (c :: rest).foldlM step (settle (.num n) stack)
      | none => .error .malformed := by
  have hextend := Draft.extend?_of_not_numberChar h d
  rw [List.foldlM_cons]
  cases hcomplete : d.isComplete with
  | false =>
      rw [hcomplete] at hextend
      simp [step, hextend, Except.map, bind, Except.bind]
  | true =>
      rw [hcomplete] at hextend
      cases hvalue : d.value? with
      | none =>
          simp [step, hextend, closeNumber, hvalue, bind, Except.bind]
      | some n =>
          have hstep : step ⟨.number d, stack⟩ c =
              stepBetween (settle (.num n) stack) c := by
            simp [step, hextend, closeNumber, hvalue, bind, Except.bind]
          simp only [↓reduceIte, List.foldlM_cons, hstep, step_settle]

/-- A number before another character: it is settled if its characters alone
write a number. -/
theorem foldlM_step_numeral {cs : List Char}
    (h : ∀ c ∈ cs, isNumberChar c = true) (hne : cs ≠ []) {c : Char}
    (hc : isNumberChar c = false) (rest : List Char) (stack : List Frame) :
    (cs ++ c :: rest).foldlM step ⟨.value, stack⟩ =
      match Draft.number? cs with
      | some n => (c :: rest).foldlM step (settle (.num n) stack)
      | none => .error .malformed := by
  rw [List.foldlM_append, foldlM_step_value h hne, Draft.number?]
  cases hchars : Draft.ofChars cs with
  | error e =>
      rw [Draft.ofChars_eq_error hchars]
      rfl
  | ok d => exact foldlM_step_close hc d rest stack

end Reading

namespace Draft

theorem digit?_digitChar {n : Nat} (h : n < 10) :
    digit? (Nat.digitChar n) = some n := by
  revert n
  decide

/-- Without a sign a number begins like one after a sign. -/
theorem first_eq_next {c : Char} (h : c ≠ '-') :
    first c = (start .sign false []).next c := by
  simp only [first, next, extend?, start, h, ↓reduceIte]
  rcases digit? c with _ | _ | n <;> rfl

theorem ofChars_eq_foldlM {c : Char} (h : c ≠ '-') (cs : List Char) :
    ofChars (c :: cs) = (c :: cs).foldlM next (start .sign false []) := by
  rw [ofChars, first_eq_next h, List.foldlM_cons]

/-- The digits of a positive number after a sign, or where a sign may stand,
are read as that number. -/
theorem foldlM_next_toDigits (negative : Bool) (n : Nat) (h : 0 < n) :
    ∃ digits, Literal.natOfDigits digits.reverse = n ∧
      (Nat.toDigits 10 n).foldlM next (start .sign negative []) =
        .ok (start .whole negative digits) := by
  induction n using Nat.strongRecOn with
  | ind n ih =>
      by_cases hsmall : n < 10
      · refine ⟨[n], by simp [Literal.natOfDigits], ?_⟩
        rw [Nat.toDigits_of_lt_base hsmall]
        obtain ⟨m, rfl⟩ := Nat.exists_eq_succ_of_ne_zero (Nat.ne_of_gt h)
        simp [next, extend?, start, digit?_digitChar hsmall, bind,
          Except.bind, pure, Except.pure]
      · obtain ⟨digits, hvalue, hread⟩ :=
          ih (n / 10) (by omega) (by omega)
        have hlast : n % 10 < 10 := Nat.mod_lt n (by decide)
        refine ⟨n % 10 :: digits, ?_, ?_⟩
        · simp only [Literal.natOfDigits, List.reverse_cons,
            List.foldl_append, List.foldl_cons, List.foldl_nil] at hvalue ⊢
          omega
        · rw [Nat.toDigits_of_base_le (by decide) (by omega),
            List.foldlM_append, hread]
          simp [next, extend?, start, digit?_digitChar hlast, bind,
            Except.bind, pure, Except.pure]

theorem value?_whole (negative : Bool) {digits : List Nat} {n : Nat}
    {number : Number} (hdigits : Literal.natOfDigits digits.reverse = n)
    (hpos : 0 < n)
    (hnumber : Number.ofInt? (if negative then -n else n) = some number) :
    (start .whole negative digits).value? = some number := by
  have hne : n ≠ 0 := Nat.ne_of_gt hpos
  simp [value?, start, hdigits, hne, hnumber]

/-- The digits of a positive number that fits 64 bits write it. -/
theorem number?_toDigits {n : Nat} {number : Number} (hpos : 0 < n)
    (hnumber : Number.ofInt? n = some number) :
    number? (Nat.toDigits 10 n) = some number := by
  obtain ⟨digits, hvalue, hread⟩ := foldlM_next_toDigits false n hpos
  cases hchars : Nat.toDigits 10 n with
  | nil => exact absurd hchars Nat.toDigits_ne_nil
  | cons c rest =>
      have hdigit : c.isDigit = true :=
        Nat.isDigit_of_mem_toDigits (by decide) (by decide)
          (hchars ▸ List.mem_cons_self)
      have hne : c ≠ '-' := by
        rintro rfl
        simp at hdigit
      rw [hchars] at hread
      rw [number?, ofChars_eq_foldlM hne, hread]
      exact value?_whole false hvalue hpos hnumber

/-- The digits of a positive number after a minus sign write its negative. -/
theorem number?_minus_toDigits {n : Nat} {number : Number} (hpos : 0 < n)
    (hnumber : Number.ofInt? (-n) = some number) :
    number? ('-' :: Nat.toDigits 10 n) = some number := by
  obtain ⟨digits, hvalue, hread⟩ := foldlM_next_toDigits true n hpos
  have hfirst : first '-' = .ok (start .sign true []) := rfl
  rw [number?, ofChars, hfirst]
  simp only [bind, Except.bind, hread]
  exact value?_whole true hvalue hpos hnumber

end Draft
end Json

namespace Number

theorem ofInt?_toInt (n : Int64) : ofInt? n.toInt = some (.int n) := by
  rw [ofInt?, if_pos ⟨n.minValue_le_toInt, n.toInt_le⟩, Int64.ofInt_toInt]

/-- What the text of a number alone is read as. -/
def reread? (n : Number) : Option Number :=
  match Json.parse n.text with
  | .ok (.num m) => some m
  | _ => none

end Number

namespace Json

/-- A text of number characters is read as the number that they write, or not
as a number. -/
theorem parse_eq_ok_num_iff {s : String} {n : Number}
    (h : ∀ c ∈ s.toList, isNumberChar c = true) (hne : s.toList ≠ []) :
    parse s = .ok (.num n) ↔ Draft.number? s.toList = some n := by
  rw [parse, Reading.start, Reading.foldlM_step_value h hne, Draft.number?]
  cases hchars : Draft.ofChars s.toList with
  | error e => simp [Except.map, bind, Except.bind]
  | ok d =>
      simp only [Except.map, bind, Except.bind, Reading.finish]
      cases hcomplete : d.isComplete with
      | false => simp
      | true =>
          cases hvalue : d.value? with
          | none => simp [Reading.closeNumber, hvalue]
          | some m => simp [Reading.closeNumber, hvalue, Reading.settle]

end Json

namespace Binary64

theorem isNumberChar_of_mem_toDigits {c : Char} {n : Nat}
    (h : c ∈ Nat.toDigits 10 n) : Json.isNumberChar c = true := by
  have hdigit := Nat.isDigit_of_mem_toDigits (by decide) (by decide) h
  simp [Json.isNumberChar, hdigit]

theorem mem_of_mem_dropZeros {c : Char} {digits : List Char}
    (h : c ∈ dropZeros digits) : c ∈ digits := by
  rw [dropZeros, List.mem_reverse] at h
  exact List.mem_reverse.1 ((List.dropWhile_sublist _).mem h)

theorem isNumberChar_of_mem_plain {c : Char} {digits : List Char}
    {exponent : Int} (hdigits : ∀ d ∈ digits, Json.isNumberChar d = true)
    (h : c ∈ plain digits exponent) : Json.isNumberChar c = true := by
  simp only [plain] at h
  split at h
  · simp only [List.mem_cons, List.mem_append, List.mem_replicate] at h
    rcases h with rfl | rfl | ⟨-, rfl⟩ | h
    · rfl
    · rfl
    · rfl
    · exact hdigits c h
  · simp only [List.mem_append, List.mem_cons, List.mem_replicate] at h
    rcases h with (h | ⟨-, rfl⟩) | rfl | h
    · exact hdigits c (List.mem_of_mem_take h)
    · rfl
    · rfl
    · split at h
      · rw [List.mem_singleton] at h
        subst h
        rfl
      · exact hdigits c (List.mem_of_mem_drop h)

theorem isNumberChar_of_mem_scientific {c : Char} {digits : List Char}
    {exponent : Int} (hdigits : ∀ d ∈ digits, Json.isNumberChar d = true)
    (h : c ∈ scientific digits exponent) : Json.isNumberChar c = true := by
  simp only [scientific, List.mem_append, List.mem_cons] at h
  rcases h with ((h | h) | h) | rfl | h | h
  · exact hdigits c (List.mem_of_mem_take h)
  · split at h <;> simp_all [Json.isNumberChar]
  · exact hdigits c (List.mem_of_mem_drop h)
  · rfl
  · split at h <;> simp_all [Json.isNumberChar]
  · exact isNumberChar_of_mem_toDigits h

theorem isNumberChar_of_mem_chars {x : Binary64} {c : Char}
    (h : c ∈ x.chars) : Json.isNumberChar c = true := by
  have hmagnitude : c ∈ x.magnitudeText → Json.isNumberChar c = true := by
    intro hc
    have hdigits : ∀ d ∈ dropZeros (Nat.toDigits 10 x.shortest.digits),
        Json.isNumberChar d = true :=
      fun d hd => isNumberChar_of_mem_toDigits (mem_of_mem_dropZeros hd)
    simp only [magnitudeText] at hc
    split at hc
    · simp only [List.mem_cons, List.not_mem_nil, or_false] at hc
      rcases hc with rfl | rfl | rfl <;> rfl
    · split at hc
      · exact isNumberChar_of_mem_plain hdigits hc
      · exact isNumberChar_of_mem_scientific hdigits hc
  simp only [chars] at h
  split at h
  · rcases List.mem_cons.1 h with rfl | h
    · rfl
    · exact hmagnitude h
  · exact hmagnitude h

theorem chars_ne_nil (x : Binary64) : x.chars ≠ [] := by
  have hmagnitude : x.magnitudeText ≠ [] := by
    simp only [magnitudeText]
    split
    · simp
    · split
      · simp only [plain]
        split <;> simp
      · simp [scientific]
  simp only [chars]
  split
  · simp
  · exact hmagnitude

theorem text_of_isFinite {x : Binary64} (h : x.isFinite = true) :
    x.text = .ofList x.chars := by
  have hnot : x.isNaN = false := by
    simp only [isFinite, decide_eq_true_eq] at h
    simp only [isNaN, Bool.and_eq_false_iff, beq_eq_false_iff_ne]
    exact .inl (Nat.ne_of_lt h)
  simp [text, hnot, h]

end Binary64

namespace Number

theorem toList_text_int (n : Int64) :
    (Number.int n).text.toList =
      if 0 ≤ n.toInt then Nat.toDigits 10 n.toInt.toNat
      else '-' :: Nat.toDigits 10 (-n.toInt).toNat := by
  simp only [text, Int.toString_eq_repr, Int.repr_eq_if]
  split
  · exact Nat.toList_repr
  · rw [String.toList_append, Nat.toList_repr]
    rfl

theorem toList_text_wide (n : UInt64) (h : 9223372036854775808 ≤ n.toNat) :
    (Number.wide n h).text.toList = Nat.toDigits 10 n.toNat :=
  Nat.toList_repr

/-- A written number consists of number characters. -/
theorem isNumberChar_of_mem_text {n : Number} {c : Char}
    (h : c ∈ n.text.toList) : Json.isNumberChar c = true := by
  cases n with
  | int n =>
      rw [toList_text_int] at h
      split at h
      · exact Binary64.isNumberChar_of_mem_toDigits h
      · rcases List.mem_cons.1 h with rfl | h
        · rfl
        · exact Binary64.isNumberChar_of_mem_toDigits h
  | wide n hn =>
      rw [toList_text_wide] at h
      exact Binary64.isNumberChar_of_mem_toDigits h
  | float x hfinite =>
      simp only [text, Binary64.text_of_isFinite hfinite,
        String.toList_ofList] at h
      exact Binary64.isNumberChar_of_mem_chars h

theorem toList_text_ne_nil (n : Number) : n.text.toList ≠ [] := by
  cases n with
  | int n =>
      rw [toList_text_int]
      split
      · exact Nat.toDigits_ne_nil
      · simp
  | wide n hn =>
      rw [toList_text_wide]
      exact Nat.toDigits_ne_nil
  | float x hfinite =>
      simp only [text, Binary64.text_of_isFinite hfinite, String.toList_ofList]
      exact x.chars_ne_nil

theorem parse_text_iff {n m : Number} :
    Json.parse n.text = .ok (.num m) ↔
      Json.Draft.number? n.text.toList = some m :=
  Json.parse_eq_ok_num_iff (fun _ => isNumberChar_of_mem_text)
    n.toList_text_ne_nil

theorem number?_text (n : Number) :
    Json.Draft.number? n.text.toList = n.reread? := by
  cases hnumber : Json.Draft.number? n.text.toList with
  | some m => rw [reread?, parse_text_iff.2 hnumber]
  | none =>
      rw [reread?]
      split
      · rename_i m hparse
        rw [parse_text_iff.1 hparse] at hnumber
        simp at hnumber
      · rfl

/-- An integer of 64 bits is read back. -/
theorem reread?_int (n : Int64) : (Number.int n).reread? = some (.int n) := by
  rw [← number?_text, toList_text_int]
  split
  · rename_i hnonneg
    by_cases hzero : n.toInt = 0
    · have hn : n = 0 := Int64.toInt.inj hzero
      subst hn
      rfl
    · have hvalue : (n.toInt.toNat : Int) = n.toInt := Int.toNat_of_nonneg hnonneg
      apply Json.Draft.number?_toDigits (by omega)
      rw [hvalue, ofInt?_toInt]
  · rename_i hneg
    have hvalue : -((-n.toInt).toNat : Int) = n.toInt := by omega
    apply Json.Draft.number?_minus_toDigits (by omega)
    rw [hvalue, ofInt?_toInt]

end Number
end RegionSnapshot
