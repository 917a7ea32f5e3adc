/-
Bodies of placeholders.  The first closing brace outside single quotes ends the
body of a placeholder.  So a template that begins with a placeholder is expanded
in two parts: the value of the body, and behind it the rest as a template of its
own.  Where no brace ends the body, the placeholder is reported as open.
-/
import RegionSnapshot.Proofs.Expression.Templates

namespace RegionSnapshot
namespace Template

/-- The body of a placeholder and what stands behind its closing brace, when the
opening brace has been taken; `quoted` says whether a quote is open. -/
def splitBody? (quoted : Bool) : List Char → Option (List Char × List Char)
  | [] => none
  | c :: rest =>
      if c = '\x7d' ∧ quoted = false then some ([], rest)
      else
        (splitBody? (if c = Tokens.quote then !quoted else quoted) rest).map
          (fun parts => (c :: parts.1, parts.2))

/-- Whether a quote is open behind some characters. -/
def quotedBehind (quoted : Bool) : List Char → Bool
  | [] => quoted
  | c :: rest => quotedBehind (if c = Tokens.quote then !quoted else quoted) rest

/-- A text is cut exactly at the brace behind a body. -/
theorem splitBody?_eq_some_iff {quoted : Bool} {chars body rest : List Char} :
    splitBody? quoted chars = some (body, rest) ↔
      isBody quoted body = true ∧ chars = body ++ '\x7d' :: rest := by
  induction chars generalizing quoted body with
  | nil => simp [splitBody?]
  | cons c more ih =>
      by_cases hclose : c = '\x7d' ∧ quoted = false
      · obtain ⟨rfl, rfl⟩ := hclose
        cases body with
        | nil => simp [splitBody?, isBody]
        | cons first others =>
            simp only [splitBody?, isBody, and_self, ↓reduceIte,
              Option.some.injEq, Prod.mk.injEq, List.cons_append,
              List.cons.injEq]
            constructor
            · rintro ⟨hnil, -⟩
              cases hnil
            · rintro ⟨hbody, rfl, -⟩
              simp at hbody
      · rw [splitBody?, if_neg hclose, Option.map_eq_some_iff]
        cases body with
        | nil =>
            constructor
            · rintro ⟨parts, -, heq⟩
              cases heq
            · rintro ⟨hquoted, heq⟩
              rw [isBody, Bool.not_eq_true'] at hquoted
              rw [List.nil_append, List.cons.injEq] at heq
              exact absurd ⟨heq.1, hquoted⟩ hclose
        | cons first others =>
            constructor
            · rintro ⟨parts, hparts, heq⟩
              cases heq
              obtain ⟨hbody, rfl⟩ := ih.1 hparts
              refine ⟨?_, rfl⟩
              rw [isBody, hbody, Bool.and_true, Bool.not_eq_true']
              simpa using hclose
            · rintro ⟨hbody, heq⟩
              rw [List.cons_append, List.cons.injEq] at heq
              obtain ⟨rfl, rfl⟩ := heq
              rw [isBody, Bool.and_eq_true] at hbody
              exact ⟨(others, rest), ih.2 ⟨hbody.2, rfl⟩, rfl⟩

/-- Without closing braces a body ends only in what follows. -/
theorem splitBody?_append {chars : List Char} (h : '\x7d' ∉ chars)
    (quoted : Bool) (more : List Char) :
    splitBody? quoted (chars ++ more) =
      (splitBody? (quotedBehind quoted chars) more).map
        (fun parts => (chars ++ parts.1, parts.2)) := by
  induction chars generalizing quoted with
  | nil =>
      simp [quotedBehind]
  | cons c rest ih =>
      rw [List.mem_cons, not_or] at h
      have hopen : ¬ (c = '\x7d' ∧ quoted = false) :=
        fun hclose => h.1 hclose.1.symm
      rw [List.cons_append, splitBody?, if_neg hopen, ih h.2, quotedBehind,
        Option.map_map]
      rfl

/-- Each quote opens or closes, so their number decides. -/
theorem quotedBehind_eq (quoted : Bool) (chars : List Char) :
    quotedBehind quoted chars =
      (quoted ^^ decide (chars.count Tokens.quote % 2 = 1)) := by
  induction chars generalizing quoted with
  | nil => simp [quotedBehind]
  | cons c rest ih =>
      rw [quotedBehind, ih]
      by_cases hc : c = Tokens.quote
      · rcases Nat.mod_two_eq_zero_or_one (rest.count Tokens.quote) with hr | hr
        · simp [hc, hr, Nat.add_mod]
        · simp [hc, hr, Nat.add_mod]
      · simp [hc]

/-- A placeholder that is not closed is reported with the place of its start. -/
theorem Scan.foldlM_open (ctx : Context) {chars : List Char} {quoted : Bool}
    (h : splitBody? quoted chars = none) (s : Scan) (marker : Marker)
    (start : Nat) (read : List Char)
    (hplace : s.place = .inside marker start read quoted) :
    (chars.foldlM (Scan.step ctx) s >>= Scan.finish) =
      .error (.unterminatedTemplate start) := by
  induction chars generalizing s quoted read with
  | nil =>
      change s.finish = _
      rw [Scan.finish, hplace]
  | cons c rest ih =>
      rw [splitBody?] at h
      split at h
      · cases h
      · rename_i hopen
        have hstep : s.step ctx c = .ok ⟨s.offset + c.utf8Size, s.text,
            .inside marker start (c :: read)
              (if c = Tokens.quote then !quoted else quoted)⟩ := by
          rw [step, hplace]
          simp only [hopen, ↓reduceIte]
        rw [List.foldlM_cons, hstep]
        exact ih (Option.map_eq_none_iff.1 h) _ (c :: read) rfl

/-- A template that begins with a placeholder: its value, and behind it the
rest. -/
theorem expand_placeholder_append (ctx : Context) (marker : Marker)
    {body : List Char} (h : isBody false body = true) (rest : String) :
    expand ctx (placeholder marker body ++ rest) = (do
      let value ← marker.value ctx body
      resultBehind (placeholder marker body).utf8ByteSize value
        (expand ctx rest)) := by
  have halone := expand_placeholder ctx marker h
  cases hvalue : marker.value ctx body with
  | ok value =>
      rw [hvalue] at halone
      have hclosed : ¬ EndsMarked (placeholder marker body) := by
        rw [EndsMarked, placeholder, String.toList_ofList,
          List.getLast?_concat]
        decide
      exact expand_append_eq halone (fun hends => absurd hends hclosed)
  | error error =>
      rw [hvalue] at halone
      -- the scan stops at the brace, before the rest
      have hrun : (placeholder marker body).toList.foldlM (Scan.step ctx)
          Scan.start = .error error := by
        rcases Outcome.bind_eq_error_iff.1 halone with hrun | ⟨s, -, hfinish⟩
        · exact hrun
        · obtain ⟨offset, text, place⟩ := s
          cases place with
          | outside => cases hfinish
          | marked other => cases hfinish
          | inside other start read quoted =>
              cases hfinish
              exact absurd hvalue
                (marker.value_ne_unterminatedTemplate ctx body start)
      rw [expand, String.toList_append, List.foldlM_append, hrun]
      rfl

/-- A template that begins with a marker and a brace is cut at the end of the
body. -/
theorem expand_marked (ctx : Context) (marker : Marker) (chars : List Char) :
    expand ctx (.ofList (marker.char :: '\x7b' :: chars)) =
      match splitBody? false chars with
      | none => .error (.unterminatedTemplate 0)
      | some (body, rest) => (do
          let value ← marker.value ctx body
          resultBehind (placeholder marker body).utf8ByteSize value
            (expand ctx (.ofList rest))) := by
  cases hsplit : splitBody? false chars with
  | none =>
      have hmark : Scan.start.step ctx marker.char =
          .ok ⟨0 + marker.char.utf8Size, [], .marked marker⟩ := by
        cases marker <;> rfl
      have hstart : 0 + marker.char.utf8Size - 1 = 0 := by
        cases marker <;> rfl
      rw [expand, String.toList_ofList, List.foldlM_cons, hmark]
      change (chars.foldlM (Scan.step ctx) ⟨_, [], .inside marker
        (0 + marker.char.utf8Size - 1) [] false⟩ >>= Scan.finish) = _
      rw [hstart]
      exact Scan.foldlM_open ctx hsplit _ marker 0 [] rfl
  | some parts =>
      obtain ⟨body, rest⟩ := parts
      obtain ⟨hbody, rfl⟩ := splitBody?_eq_some_iff.1 hsplit
      have hwhole : String.ofList
          (marker.char :: '\x7b' :: (body ++ '\x7d' :: rest)) =
            placeholder marker body ++ .ofList rest := by
        rw [placeholder, ← String.ofList_append]
        simp
      rw [hwhole]
      exact expand_placeholder_append ctx marker hbody _

end Template
end RegionSnapshot
