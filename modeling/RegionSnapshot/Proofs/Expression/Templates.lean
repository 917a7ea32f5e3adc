/-
Templates one behind the other.  The scan of a template does not look at the
text that is done: behind other text it takes the same steps, and only the
offsets are greater.  So the text of two templates is that of the first one and
then that of the second one, unless a marker at the end of the first one meets a
brace.  A placeholder is replaced by its value, whatever characters that has.
-/
import RegionSnapshot.Expression.Template
import RegionSnapshot.Proofs.Expression.Faults

namespace RegionSnapshot

namespace Marker

theorem char_of_ofChar? {c : Char} {marker : Marker}
    (h : ofChar? c = some marker) : c = marker.char := by
  unfold ofChar? at h
  split at h
  · cases h
    rfl
  · cases h
    rfl
  · cases h

/-- A placeholder that is complete is not reported as an open one. -/
theorem value_ne_unterminatedTemplate (ctx : Context) (marker : Marker)
    (body : List Char) (offset : Nat) :
    marker.value ctx body ≠ .error (.unterminatedTemplate offset) := by
  cases marker with
  | expression => exact evaluate_ne_unterminatedTemplate ctx body offset
  | property =>
      simp only [value, propertyValue]
      split
      · intro h
        cases h
      · intro h
        cases h

end Marker

/-- An error of a template as it is with `count` bytes before the template. -/
def ExpressionError.behind (count : Nat) : ExpressionError → ExpressionError
  | .unterminatedTemplate offset => .unterminatedTemplate (count + offset)
  | error => error

theorem ExpressionError.behind_eq_self {count : Nat} {error : ExpressionError}
    (h : ∀ offset, error ≠ .unterminatedTemplate offset) :
    error.behind count = error := by
  cases error with
  | unterminatedTemplate offset => exact absurd rfl (h offset)
  | _ => rfl

theorem utf8ByteSize_ofList_concat (chars : List Char) (c : Char) :
    (String.ofList (chars ++ [c])).utf8ByteSize =
      (String.ofList chars).utf8ByteSize + c.utf8Size := by
  rw [String.ofList_append, String.utf8ByteSize_append,
    ← String.singleton_eq_ofList, String.utf8ByteSize_singleton]

namespace Template

/-- The result of a template with another one before it, of `count` bytes and
with the text `done`. -/
def resultBehind (count : Nat) (done : String) :
    Except ExpressionError String → Except ExpressionError String
  | .ok text => .ok (done ++ text)
  | .error error => .error (error.behind count)

def Place.behind (count : Nat) : Place → Place
  | .inside marker start body quoted =>
      .inside marker (count + start) body quoted
  | place => place

namespace Scan

variable {ctx : Context} {s moved : Scan} {c : Char}

/-- The scan with `count` bytes before the template and a text before its
text. -/
def behind (count : Nat) (done : List Char) (s : Scan) : Scan :=
  ⟨count + s.offset, s.text ++ done, s.place.behind count⟩

theorem offset_stepOutside (s : Scan) (c : Char) :
    (s.stepOutside c).offset = s.offset + c.utf8Size := by
  unfold stepOutside
  split <;> rfl

theorem marked_stepOutside {marker : Marker}
    (h : (s.stepOutside c).place = .marked marker) : c = marker.char := by
  unfold stepOutside at h
  split at h
  · rename_i found hfound
    cases h
    exact Marker.char_of_ofChar? hfound
  · cases h

theorem stepOutside_behind (count : Nat) (done : List Char) (s : Scan)
    (c : Char) :
    (s.behind count done).stepOutside c =
      (s.stepOutside c).behind count done := by
  unfold stepOutside
  split
  · simp [behind, Place.behind, Nat.add_assoc]
  · simp [behind, Place.behind, Nat.add_assoc]

/-- What a scan keeps: its offset counts the bytes that are taken, and a marker
is the last character of them. -/
structure Takes (taken : List Char) (s : Scan) : Prop where
  offset : s.offset = (String.ofList taken).utf8ByteSize
  marked : ∀ marker, s.place = .marked marker →
    taken.getLast? = some marker.char

theorem takes_start : start.Takes [] :=
  ⟨rfl, fun marker h => by cases h⟩

theorem offset_step (h : s.step ctx c = .ok moved) :
    moved.offset = s.offset + c.utf8Size := by
  unfold step at h
  split at h
  · cases h
    exact offset_stepOutside s c
  · split at h
    · cases h
      rfl
    · cases h
      exact offset_stepOutside _ c
  · split at h
    · obtain ⟨value, -, rfl⟩ := Outcome.map_eq_ok_iff.1 h
      rfl
    · cases h
      rfl

theorem marked_step (h : s.step ctx c = .ok moved) {marker : Marker}
    (hmarked : moved.place = .marked marker) : c = marker.char := by
  unfold step at h
  split at h
  · cases h
    exact marked_stepOutside hmarked
  · split at h
    · cases h
      cases hmarked
    · cases h
      exact marked_stepOutside hmarked
  · split at h
    · obtain ⟨value, -, rfl⟩ := Outcome.map_eq_ok_iff.1 h
      cases hmarked
    · cases h
      cases hmarked

theorem Takes.step {taken : List Char} (h : s.Takes taken)
    (hstep : s.step ctx c = .ok moved) : moved.Takes (taken ++ [c]) := by
  constructor
  · rw [offset_step hstep, h.offset, utf8ByteSize_ofList_concat]
  · intro marker hmarked
    rw [List.getLast?_concat, marked_step hstep hmarked]

theorem Takes.run {taken chars : List Char} (h : s.Takes taken)
    (hrun : chars.foldlM (Scan.step ctx) s = .ok moved) :
    moved.Takes (taken ++ chars) := by
  induction chars generalizing s taken with
  | nil =>
      cases hrun
      rwa [List.append_nil]
  | cons c rest ih =>
      obtain ⟨next, hstep, hrest⟩ := Outcome.bind_eq_ok_iff.1 hrun
      have hnext := ih (h.step hstep) hrest
      rwa [List.append_assoc] at hnext

/-- A marker has been taken, so that something has. -/
theorem Takes.offset_pos {taken : List Char} (h : s.Takes taken)
    {marker : Marker} (hmarked : s.place = .marked marker) : 0 < s.offset := by
  have hlast := h.marked marker hmarked
  rw [List.getLast?_eq_some_iff] at hlast
  obtain ⟨before, rfl⟩ := hlast
  rw [h.offset, utf8ByteSize_ofList_concat]
  exact Nat.lt_of_lt_of_le (Char.utf8Size_pos _) (Nat.le_add_left _ _)

/-- Behind other text a character does the same. -/
theorem step_behind {taken : List Char} (h : s.Takes taken) (count : Nat)
    (done : List Char) (c : Char) :
    (s.behind count done).step ctx c =
      (s.step ctx c).map (behind count done) := by
  obtain ⟨offset, text, place⟩ := s
  cases place with
  | outside =>
      have hstep := stepOutside_behind count done ⟨offset, text, .outside⟩ c
      simpa [step, behind, Place.behind, Except.map] using hstep
  | marked marker =>
      -- a placeholder starts at its marker, one byte back
      have hpos : 0 < offset := h.offset_pos rfl
      have hstart : count + offset - 1 = count + (offset - 1) := by omega
      have hstep := stepOutside_behind count done
        ⟨offset, marker.char :: text, .outside⟩ c
      by_cases hc : c = '\x7b'
      · simp [step, behind, Place.behind, Except.map, hc, hstart,
          Nat.add_assoc]
      · simpa [step, behind, Place.behind, Except.map, hc] using hstep
  | inside marker start body quoted =>
      by_cases hc : c = '\x7d' ∧ quoted = false
      · cases hvalue : marker.value ctx body.reverse with
        | error e =>
            simp [step, behind, Place.behind, Except.map, hc, hvalue]
        | ok value =>
            simp [step, behind, Place.behind, Except.map, hc, hvalue,
              Nat.add_assoc]
      · simp [step, behind, Place.behind, Except.map, hc, Nat.add_assoc]

theorem foldlM_behind {taken : List Char} (h : s.Takes taken) (count : Nat)
    (done : List Char) (chars : List Char) :
    chars.foldlM (step ctx) (s.behind count done) =
      (chars.foldlM (step ctx) s).map (behind count done) := by
  induction chars generalizing s taken with
  | nil => rfl
  | cons c rest ih =>
      rw [List.foldlM_cons, List.foldlM_cons, step_behind h]
      cases hstep : s.step ctx c with
      | error e => rfl
      | ok next => exact ih (h.step hstep)

theorem finish_behind (s : Scan) (count : Nat) (done : List Char) :
    (s.behind count done).finish =
      resultBehind count (.ofList done.reverse) s.finish := by
  obtain ⟨offset, text, place⟩ := s
  cases place with
  | outside => simp [behind, Place.behind, finish, resultBehind]
  | marked marker => simp [behind, Place.behind, finish, resultBehind]
  | inside marker start body quoted => rfl

/-- A character that is refused ends a placeholder without value. -/
theorem exists_of_step_error {e : ExpressionError}
    (h : s.step ctx c = .error e) :
    ∃ marker start body, s.place = .inside marker start body false ∧
      marker.value ctx body.reverse = .error e := by
  unfold step at h
  split at h
  · cases h
  · split at h
    · cases h
    · cases h
  · rename_i marker start body quoted hplace
    split at h
    · rename_i hclose
      rw [hclose.2] at hplace
      refine ⟨marker, start, body, hplace, ?_⟩
      cases hvalue : marker.value ctx body.reverse with
      | error other =>
          rw [hvalue] at h
          cases h
          rfl
      | ok value =>
          rw [hvalue] at h
          cases h
    · cases h

/-- A template that is reported as open is so at its end. -/
theorem foldlM_ne_unterminatedTemplate (s : Scan) (chars : List Char)
    (offset : Nat) :
    chars.foldlM (step ctx) s ≠ .error (.unterminatedTemplate offset) := by
  induction chars generalizing s with
  | nil =>
      intro h
      cases h
  | cons c rest ih =>
      intro h
      rcases Outcome.bind_eq_error_iff.1 h with hstep | ⟨next, -, hrest⟩
      · obtain ⟨marker, start, body, -, hvalue⟩ := exists_of_step_error hstep
        exact marker.value_ne_unterminatedTemplate ctx _ offset hvalue
      · exact ih next hrest

/-- Behind other text a template is expanded as on its own. -/
theorem expand_behind (count : Nat) (done : List Char) (template : String) :
    (template.toList.foldlM (step ctx) (start.behind count done) >>= finish) =
      resultBehind count (.ofList done.reverse) (expand ctx template) := by
  rw [expand, foldlM_behind takes_start]
  cases hrun : template.toList.foldlM (step ctx) start with
  | error e =>
      have hbehind : e.behind count = e := by
        apply ExpressionError.behind_eq_self
        rintro offset rfl
        exact foldlM_ne_unterminatedTemplate _ _ _ hrun
      change Except.error e = .error (e.behind count)
      rw [hbehind]
  | ok next => exact next.finish_behind count done

/-- A marker before anything but a brace is a character like others. -/
theorem foldlM_marked {marker : Marker} (hmarked : s.place = .marked marker)
    {chars : List Char} (hapart : chars.head? ≠ some '\x7b') :
    (chars.foldlM (step ctx) s >>= finish) =
      (chars.foldlM (step ctx) ⟨s.offset, marker.char :: s.text, .outside⟩ >>=
        finish) := by
  obtain ⟨offset, text, place⟩ := s
  subst hmarked
  cases chars with
  | nil => rfl
  | cons c rest =>
      have hc : c ≠ '\x7b' := fun heq => hapart (by rw [heq, List.head?_cons])
      have hstep : step ctx ⟨offset, text, .marked marker⟩ c =
          step ctx ⟨offset, marker.char :: text, .outside⟩ c := by
        simp [step, hc]
      rw [List.foldlM_cons, List.foldlM_cons, hstep]

/-- The scan of a template that has a text is done with it at its end, or
stands behind a marker. -/
theorem exists_of_finish {text : String} (h : s.finish = .ok text) :
    (s = start.behind s.offset s.text ∧ text = .ofList s.text.reverse) ∨
      ∃ marker, s.place = .marked marker ∧
        text = .ofList (marker.char :: s.text).reverse := by
  obtain ⟨offset, done, place⟩ := s
  cases place with
  | outside =>
      cases h
      exact .inl ⟨rfl, rfl⟩
  | marked marker =>
      cases h
      exact .inr ⟨marker, rfl, rfl⟩
  | inside marker start body quoted => cases h

end Scan

/-- The text ends with a marker. -/
def EndsMarked (template : String) : Prop :=
  template.toList.getLast? = some '$' ∨ template.toList.getLast? = some '#'

instance (template : String) : Decidable (EndsMarked template) :=
  inferInstanceAs (Decidable (_ ∨ _))

theorem expand_append_eq {ctx : Context} {first second done : String}
    (h : expand ctx first = .ok done)
    (hapart : EndsMarked first → second.toList.head? ≠ some '\x7b') :
    expand ctx (first ++ second) =
      resultBehind first.utf8ByteSize done (expand ctx second) := by
  obtain ⟨s, hrun, hfinish⟩ := Outcome.bind_eq_ok_iff.1 h
  have htakes := Scan.takes_start.run hrun
  rw [List.nil_append] at htakes
  have hoffset : s.offset = first.utf8ByteSize := by
    rw [htakes.offset, String.ofList_toList]
  have hsplit : expand ctx (first ++ second) =
      second.toList.foldlM (Scan.step ctx) s >>= Scan.finish := by
    rw [expand, String.toList_append, List.foldlM_append, hrun]
    rfl
  rw [hsplit, ← hoffset]
  -- a marker at the end may still open a placeholder
  rcases Scan.exists_of_finish hfinish with ⟨hs, rfl⟩ | ⟨marker, hmarked, rfl⟩
  · rw [hs, Scan.expand_behind]
    rfl
  · have hends : EndsMarked first := by
      have hlast := htakes.marked marker hmarked
      cases marker with
      | property => exact .inl hlast
      | expression => exact .inr hlast
    rw [Scan.foldlM_marked hmarked (hapart hends)]
    exact Scan.expand_behind s.offset (marker.char :: s.text) second

/-- The characters can stand between the braces of a placeholder: no closing
brace of them is outside single quotes, and no quote is left open. -/
def isBody (quoted : Bool) : List Char → Bool
  | [] => !quoted
  | c :: rest =>
      !(c == '\x7d' && !quoted) &&
        isBody (if c = Tokens.quote then !quoted else quoted) rest

/-- A placeholder with its marker and its braces. -/
def placeholder (marker : Marker) (body : List Char) : String :=
  .ofList ((marker.char :: '\x7b' :: body) ++ ['\x7d'])

/-- Up to the brace that closes it a body is read as it is. -/
theorem Scan.foldlM_body (ctx : Context) {body : List Char} {quoted : Bool}
    (h : isBody quoted body = true) (s : Scan) (marker : Marker) (start : Nat)
    (read : List Char) (hplace : s.place = .inside marker start read quoted) :
    ∃ moved, body.foldlM (Scan.step ctx) s = .ok moved ∧
      moved.text = s.text ∧
      moved.place = .inside marker start (body.reverse ++ read) false := by
  induction body generalizing s quoted read with
  | nil =>
      rw [isBody, Bool.not_eq_true'] at h
      subst h
      exact ⟨s, rfl, rfl, hplace⟩
  | cons c rest ih =>
      rw [isBody, Bool.and_eq_true] at h
      obtain ⟨hc, hrest⟩ := h
      have hopen : ¬ (c = '\x7d' ∧ quoted = false) := by
        rintro ⟨rfl, rfl⟩
        cases hc
      have hstep : s.step ctx c = .ok ⟨s.offset + c.utf8Size, s.text,
          .inside marker start (c :: read)
            (if c = Tokens.quote then !quoted else quoted)⟩ := by
        rw [step, hplace]
        simp only [hopen, ↓reduceIte]
      obtain ⟨moved, hrun, htext, hmoved⟩ := ih hrest
        ⟨s.offset + c.utf8Size, s.text, .inside marker start (c :: read) _⟩
        (c :: read) rfl
      refine ⟨moved, ?_, htext, ?_⟩
      · rw [List.foldlM_cons, hstep]
        exact hrun
      · rw [hmoved, List.reverse_cons, List.append_assoc, List.singleton_append]

/-- A placeholder on its own stands for its value. -/
theorem expand_placeholder (ctx : Context) (marker : Marker)
    {body : List Char} (h : isBody false body = true) :
    expand ctx (placeholder marker body) = marker.value ctx body := by
  have hmark : Scan.start.step ctx marker.char =
      .ok ⟨0 + marker.char.utf8Size, [], .marked marker⟩ := by
    cases marker <;> rfl
  obtain ⟨moved, hrun, htext, hplace⟩ := Scan.foldlM_body ctx h
    ⟨_, [], .inside marker (0 + marker.char.utf8Size - 1) [] false⟩ marker _ []
    rfl
  have hclose : (moved.step ctx '\x7d' >>= Scan.finish) =
      marker.value ctx body := by
    rw [List.append_nil] at hplace
    simp only [Scan.step, hplace, htext, List.reverse_reverse]
    cases marker.value ctx body with
    | error e => rfl
    | ok value => simp [Except.map, bind, Except.bind, Scan.finish]
  rw [expand, placeholder, String.toList_ofList, List.cons_append,
    List.foldlM_cons, hmark]
  change ((body ++ ['\x7d']).foldlM (Scan.step ctx) _ >>= Scan.finish) = _
  rw [List.foldlM_append, hrun]
  change (['\x7d'].foldlM (Scan.step ctx) moved >>= Scan.finish) = _
  rw [List.foldlM_cons]
  simp only [List.foldlM_nil, bind_pure]
  exact hclose

/-- Templates compose.  Behind a template with a text another one is expanded
as on its own, and the offset of an open placeholder counts from the start of
the whole; only a marker at the end of the first and a brace at the start of the
second must not meet.  The value of a placeholder goes into the text as it
is. -/
theorem expand_append (ctx : Context) {first done : String}
    (h : expand ctx first = .ok done) (second : String) :
    (¬ (EndsMarked first ∧ second.toList.head? = some '\x7b') →
      (∀ text, expand ctx second = .ok text →
        expand ctx (first ++ second) = .ok (done ++ text)) ∧
      (∀ offset,
        expand ctx second = .error (.unterminatedTemplate offset) →
        expand ctx (first ++ second) =
          .error (.unterminatedTemplate (offset + first.utf8ByteSize))) ∧
      (∀ error, expand ctx second = .error error →
        (∀ offset, error ≠ .unterminatedTemplate offset) →
        expand ctx (first ++ second) = .error error)) ∧
    (∀ marker body value text, isBody false body = true →
      marker.value ctx body = .ok value → expand ctx second = .ok text →
      expand ctx (first ++ (placeholder marker body ++ second)) =
        .ok (done ++ (value ++ text))) := by
  refine ⟨?_, ?_⟩
  · intro hapart
    have happend := expand_append_eq h
      (fun hends hbrace => hapart ⟨hends, hbrace⟩)
    refine ⟨?_, ?_, ?_⟩
    · intro text htext
      rw [happend, htext]
      rfl
    · intro offset hopen
      rw [happend, hopen, Nat.add_comm]
      rfl
    · intro error herror hother
      rw [happend, herror, resultBehind, ExpressionError.behind_eq_self hother]
  · intro marker body value text hbody hvalue htext
    have hplaceholder := expand_placeholder ctx marker hbody
    rw [hvalue] at hplaceholder
    have hclosed : ¬ EndsMarked (placeholder marker body) := by
      rw [EndsMarked, placeholder, String.toList_ofList, List.getLast?_concat]
      decide
    have hmarker : (placeholder marker body ++ second).toList.head? ≠
        some '\x7b' := by
      cases marker <;> simp [placeholder, Marker.char]
    have hrest : expand ctx (placeholder marker body ++ second) = _ :=
      expand_append_eq hplaceholder (fun hends => absurd hends hclosed)
    rw [expand_append_eq h (fun _ => hmarker), hrest, htext]
    rfl

/-- A property whose value looks like a placeholder. -/
def echoContext : Context :=
  ⟨.root "Orders", ⟨[("dir", "$\x7bdir\x7d'#")], [], []⟩, []⟩

theorem expand_append_echo :
    expand echoContext ("$\x7bdir\x7d" ++ "\x7b#\x7b'a'\x7d") =
        .ok ("$\x7bdir\x7d'#" ++ "\x7ba") ∧
      expand echoContext ("é$" ++ "#\x7b") =
        .error (.unterminatedTemplate (0 + 3)) ∧
      expand echoContext ("é$" ++ "$\x7bnone\x7d") =
        .error (.unknownProperty "none") ∧
      expand echoContext
          ("é$" ++ (placeholder .property "dir".toList ++ "!")) =
        .ok ("é$" ++ ("$\x7bdir\x7d'#" ++ "!")) := by
  have hvalue : expand echoContext "$\x7bdir\x7d" = .ok "$\x7bdir\x7d'#" :=
    Outcome.eq_ok_of_toOption (by decide +kernel)
  have hmarker : expand echoContext "é$" = .ok "é$" :=
    Outcome.eq_ok_of_toOption (by decide +kernel)
  refine ⟨?_, ?_, ?_, ?_⟩
  · apply ((expand_append echoContext hvalue _).1 (by decide)).1
    exact Outcome.eq_ok_of_toOption (by decide +kernel)
  · apply ((expand_append echoContext hmarker _).1 (by decide)).2.1
    rfl
  · apply ((expand_append echoContext hmarker _).1 (by decide)).2.2
    · rfl
    · intro offset heq
      cases heq
  · apply (expand_append echoContext hmarker "!").2
    · decide
    · exact Outcome.eq_ok_of_toOption (by decide +kernel)
    · exact Outcome.eq_ok_of_toOption (by decide +kernel)

end Template
end RegionSnapshot
