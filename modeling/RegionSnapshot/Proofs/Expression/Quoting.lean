/-
Quotes in templates.  Two readers look at the quotes of an expression: the scan
of the template, which looks for the brace behind it and counts quotes, and the
reader of tokens, for which a quote begins or ends a string or is the half of a
doubled one.  They agree: after the same characters a quote is open for the one
exactly if a string is open for the other.  So no expression ends in an open
string, one without fault ends at its own brace, and every text can be written
as a string.
-/
import RegionSnapshot.Proofs.Expression.Bodies
import RegionSnapshot.Proofs.Expression.Sentences

namespace RegionSnapshot
namespace Tokens

open Template (isBody)

/-- A string is open.  One that has met a quote is not: the next character
decides whether it goes on. -/
def Partial.inString : Partial → Bool
  | .string _ _ => true
  | _ => false

theorem not_isNamePart_brace : isNamePart '\x7d' = false := by
  decide

/-- A character that belongs to a token opens or closes a string only if it is a
quote. -/
theorem inString_of_extend {before more : Partial} {c : Char}
    (h : before.extend? c = some more) :
    more.inString =
        (if c = quote then !before.inString else before.inString) ∧
      ¬ (c = '\x7d' ∧ before.inString = false) := by
  cases before with
  | between => cases h
  | name chars =>
      simp only [Partial.extend?, Option.ite_none_right_eq_some,
        Option.some.injEq] at h
      obtain ⟨hpart, rfl⟩ := h
      refine ⟨by simp [ne_quote_of_isNamePart hpart, Partial.inString], ?_⟩
      rintro ⟨rfl, -⟩
      rw [not_isNamePart_brace] at hpart
      cases hpart
  | string start chars =>
      rw [Partial.extend?] at h
      split at h
      · rename_i hc
        cases h
        simp [hc, Partial.inString]
      · rename_i hc
        cases h
        simp [hc, Partial.inString]
  | quoted start chars =>
      simp only [Partial.extend?, Option.ite_none_right_eq_some,
        Option.some.injEq] at h
      obtain ⟨rfl, rfl⟩ := h
      refine ⟨by simp [Partial.inString], ?_⟩
      rintro ⟨hbrace, -⟩
      exact absurd hbrace (by decide)

/-- What a character does not belong to is no open string, and is complete. -/
theorem fault?_close_of_extend {before : Partial} {c : Char}
    (h : before.extend? c = none) :
    before.inString = false ∧
      ∀ rest, (before.close rest).fault? = rest.fault? := by
  cases before with
  | string start chars =>
      rw [Partial.extend?] at h
      split at h
      · cases h
      · cases h
  | _ => exact ⟨rfl, fun _ => rfl⟩

/-- One character: the string that is open changes with a quote, or the
character is a fault. -/
theorem fault?_lexFrom_cons (offset : Nat) (before : Partial) (c : Char)
    (rest : List Char) :
    (∃ after : Partial,
      after.inString =
          (if c = quote then !before.inString else before.inString) ∧
        ¬ (c = '\x7d' ∧ before.inString = false) ∧
        (lexFrom offset before (c :: rest)).fault? =
          (lexFrom (offset + c.utf8Size) after rest).fault?) ∨
      (before.inString = false ∧ c ≠ quote ∧
        (lexFrom offset before (c :: rest)).fault? =
          some (.unexpectedCharacter c offset)) := by
  rw [lexFrom]
  cases hextend : before.extend? c with
  | some more =>
      obtain ⟨hstring, hbrace⟩ := inString_of_extend hextend
      exact .inl ⟨more, hstring, hbrace, rfl⟩
  | none =>
      obtain ⟨hclosed, hrest⟩ := fault?_close_of_extend hextend
      simp only [hrest, hclosed, Bool.not_false, and_true]
      by_cases hblank : Text.isBlankChar c = true
      · refine .inl ⟨.between, ?_, ?_, by rw [if_pos hblank]⟩
        · rw [if_neg (ne_quote_of_isBlankChar hblank)]
          rfl
        · rintro rfl
          exact absurd hblank (by decide)
      rw [if_neg hblank]
      by_cases hquote : c = quote
      · refine .inl ⟨.string offset [], ?_, ?_, by rw [if_pos hquote]⟩
        · rw [if_pos hquote]
          rfl
        · rintro rfl
          exact absurd hquote (by decide)
      simp only [if_neg hquote]
      by_cases hstart : isNameStart c = true
      · refine .inl ⟨.name [c], rfl, ?_, by rw [if_pos hstart]⟩
        rintro rfl
        exact absurd hstart (by decide)
      rw [if_neg hstart]
      cases hsign : Token.ofSign? c with
      | some token =>
          refine .inl ⟨.between, rfl, ?_, rfl⟩
          rintro rfl
          cases hsign
      | none => exact .inr ⟨trivial, hquote, rfl⟩

/-- A text that is read to its end without fault can be the body of a
placeholder. -/
theorem isBody_of_lexFrom {offset : Nat} (before : Partial) {chars : List Char}
    (h : (lexFrom offset before chars).fault? = none) :
    isBody before.inString chars = true := by
  induction chars generalizing offset before with
  | nil =>
      cases before with
      | string start chars => cases h
      | _ => rfl
  | cons c rest ih =>
      rcases fault?_lexFrom_cons offset before c rest with
        ⟨after, hstring, hbrace, hfault⟩ | ⟨-, -, hfault⟩
      · rw [hfault] at h
        have hrest := ih after h
        rw [hstring] at hrest
        rw [isBody, hrest, Bool.and_true, Bool.not_eq_true']
        simpa using hbrace
      · rw [hfault] at h
        cases h

theorem isBody_of_lex {source : List Char}
    (h : (lex source).fault? = none) : isBody false source = true :=
  isBody_of_lexFrom .between h

/-- The body of a placeholder leaves no string open. -/
theorem fault?_lexFrom_ne {offset : Nat} (before : Partial) {chars : List Char}
    (h : isBody before.inString chars = true) (start : Nat) :
    (lexFrom offset before chars).fault? ≠ some (.unterminatedString start) := by
  induction chars generalizing offset before with
  | nil =>
      cases before with
      | string start chars => cases h
      | _ =>
          intro hfault
          cases hfault
  | cons c rest ih =>
      rw [isBody, Bool.and_eq_true] at h
      rcases fault?_lexFrom_cons offset before c rest with
        ⟨after, hstring, -, hfault⟩ | ⟨-, -, hfault⟩
      · rw [hfault]
        apply ih
        rw [hstring]
        exact h.2
      · rw [hfault]
        intro heq
        cases heq

theorem fault?_ofList (tokens : List Token) :
    (ofList tokens).fault? = none := by
  induction tokens with
  | nil => rfl
  | cons token rest ih => exact ih

end Tokens

open Template in
theorem evaluate_ne_unterminatedString (ctx : Context) {source : List Char}
    (h : isBody false source = true) (offset : Nat) :
    evaluate ctx source ≠ .error (.unterminatedString offset) := by
  intro heq
  rcases Walk.faultsIn_run _ _ _ heq with hplain | hfault
  · cases hplain
  · exact Tokens.fault?_lexFrom_ne .between h offset hfault

open Template in
theorem Marker.value_ne_unterminatedString (ctx : Context) (marker : Marker)
    {body : List Char} (h : isBody false body = true) (offset : Nat) :
    marker.value ctx body ≠ .error (.unterminatedString offset) := by
  cases marker with
  | expression => exact evaluate_ne_unterminatedString ctx h offset
  | property =>
      simp only [value, propertyValue]
      split
      · intro heq
        cases heq
      · intro heq
        cases heq

namespace Template

namespace Scan

variable {ctx : Context} {s moved : Scan} {c : Char}

/-- What has been read of a placeholder is the start of its body. -/
def ReadsBody (s : Scan) : Prop :=
  ∀ marker start read quoted, s.place = .inside marker start read quoted →
    ∀ more, isBody false (read.reverse ++ more) = isBody quoted more

theorem readsBody_outside {offset : Nat} {text : List Char} :
    ReadsBody ⟨offset, text, .outside⟩ := by
  intro marker start read quoted h
  cases h

theorem readsBody_stepOutside (s : Scan) (c : Char) :
    (s.stepOutside c).ReadsBody := by
  intro marker start read quoted h
  unfold stepOutside at h
  split at h
  · cases h
  · cases h

theorem ReadsBody.step (h : s.ReadsBody) (hstep : s.step ctx c = .ok moved) :
    moved.ReadsBody := by
  unfold Scan.step at hstep
  split at hstep
  · cases hstep
    exact readsBody_stepOutside s c
  · split at hstep
    · cases hstep
      rintro marker start read quoted ⟨⟩ more
      rfl
    · cases hstep
      exact readsBody_stepOutside _ c
  · rename_i marker start read quoted hplace
    split at hstep
    · obtain ⟨value, -, rfl⟩ := Outcome.map_eq_ok_iff.1 hstep
      exact readsBody_outside
    · rename_i hopen
      cases hstep
      rintro _ _ _ _ ⟨⟩ more
      have hread := h marker start read quoted hplace (c :: more)
      rw [List.reverse_cons, List.append_assoc, List.singleton_append, hread,
        isBody]
      simp only [Bool.and_eq_right_iff_imp, Bool.not_eq_true']
      intro _
      simpa using hopen

/-- A placeholder that ends leaves no string open. -/
theorem ReadsBody.step_ne (h : s.ReadsBody) (offset : Nat) :
    s.step ctx c ≠ .error (.unterminatedString offset) := by
  intro hstep
  obtain ⟨marker, start, read, hplace, hvalue⟩ := exists_of_step_error hstep
  have hbody := h marker start read false hplace []
  rw [List.append_nil] at hbody
  exact marker.value_ne_unterminatedString ctx hbody offset hvalue

theorem ReadsBody.foldlM_ne (h : s.ReadsBody) (chars : List Char)
    (offset : Nat) :
    chars.foldlM (Scan.step ctx) s ≠ .error (.unterminatedString offset) := by
  induction chars generalizing s with
  | nil =>
      intro heq
      cases heq
  | cons c rest ih =>
      intro heq
      rcases Outcome.bind_eq_error_iff.1 heq with hstep | ⟨next, hstep, hrest⟩
      · exact h.step_ne offset hstep
      · exact ih (h.step hstep) hrest

end Scan

theorem expand_ne_unterminatedString (ctx : Context) (template : String)
    (offset : Nat) :
    expand ctx template ≠ .error (.unterminatedString offset) := by
  intro h
  rcases Outcome.bind_eq_error_iff.1 h with hrun | ⟨s, -, hfinish⟩
  · exact Scan.readsBody_outside.foldlM_ne _ offset hrun
  · unfold Scan.finish at hfinish
    split at hfinish
    all_goals cases hfinish

/-- The scan of a template and the reader of tokens agree on quotes.  No
template is refused for a string without end.  An expression that is read to its
end without fault is the body of its placeholder, whatever follows: exactly it
is evaluated, and if it has a text, the rest is expanded behind that text. -/
theorem expand_quoting (ctx : Context) :
    (∀ template offset,
      expand ctx template ≠ .error (.unterminatedString offset)) ∧
    ∀ source, (Tokens.lex source).fault? = none → ∀ rest : String,
      splitBody? false (source ++ '\x7d' :: rest.toList) =
          some (source, rest.toList) ∧
        expand ctx (placeholder .expression source ++ rest) = (do
          let text ← evaluate ctx source
          resultBehind (placeholder .expression source).utf8ByteSize text
            (expand ctx rest)) := by
  refine ⟨expand_ne_unterminatedString ctx, ?_⟩
  intro source hsource rest
  have hbody := Tokens.isBody_of_lex hsource
  exact ⟨splitBody?_eq_some_iff.2 ⟨hbody, rfl⟩,
    expand_placeholder_append ctx .expression hbody rest⟩

/-- A string with a brace and a quote in it, and a property. -/
def bracedSource : List Char :=
  "'a\x7db'' \x7b' + env['dir']".toList

theorem expand_quoting_braced :
    (Tokens.lex bracedSource).fault? = none ∧
      splitBody? false (bracedSource ++ '\x7d' :: "'\x7d".toList) =
        some (bracedSource, "'\x7d".toList) ∧
      expand shelfContext (placeholder .expression bracedSource ++ "'\x7d") =
        .ok "a\x7db' \x7b/data'\x7d" ∧
      expand shelfContext "#\x7b'a\x7d" ≠ .error (.unterminatedString 0) := by
  have hfault : (Tokens.lex bracedSource).fault? = none := by decide +kernel
  obtain ⟨hsplit, hexpand⟩ :=
    (expand_quoting shelfContext).2 bracedSource hfault "'\x7d"
  refine ⟨hfault, hsplit, ?_, (expand_quoting shelfContext).1 _ _⟩
  rw [hexpand]
  exact Outcome.eq_ok_of_toOption (by decide +kernel)

end Template

/-- A sum with strings added at its end. -/
def SumTree.plusStrings (sum : SumTree) (texts : List String) : SumTree :=
  texts.foldl (fun sum text => .plus sum (.primary (.string text))) sum

theorem SumTree.plusStrings_cons (sum : SumTree) (text : String)
    (rest : List String) :
    sum.plusStrings (text :: rest) =
      (SumTree.plus sum (.primary (.string text))).plusStrings rest :=
  rfl

theorem SumTree.tokens_plusStrings (sum : SumTree) (texts : List String) :
    (sum.plusStrings texts).tokens =
      sum.tokens ++ texts.flatMap (fun text => [.plus, .string text]) := by
  induction texts generalizing sum with
  | nil => simp [plusStrings]
  | cons text rest ih =>
      rw [plusStrings_cons, ih]
      simp [SumTree.tokens, ChainTree.tokens, PrimaryTree.tokens]

theorem SumTree.depth_plusStrings (sum : SumTree) (texts : List String) :
    (sum.plusStrings texts).depth = sum.depth := by
  induction texts generalizing sum with
  | nil => rfl
  | cons text rest ih =>
      rw [plusStrings_cons, ih]
      simp [SumTree.depth, ChainTree.depth, PrimaryTree.depth]

theorem SumTree.text_plusStrings (ctx : Context) {sum : SumTree}
    {done : String} (h : sum.text ctx = .ok done) (texts : List String) :
    (sum.plusStrings texts).text ctx = .ok (done ++ String.join texts) := by
  induction texts generalizing sum done with
  | nil => simp [plusStrings, h]
  | cons text rest ih =>
      have hplus : (SumTree.plus sum (.primary (.string text))).text ctx =
          .ok (done ++ text) := by
        rw [SumTree.text_plus, h]
        rfl
      rw [plusStrings_cons, ih hplus, String.join_cons, String.append_assoc]

/-- A sentence can stand in a placeholder, however it is written. -/
theorem isBody_of_written {sum : SumTree} {source : List Char}
    (h : Tokens.Written sum.tokens source) :
    Template.isBody false source = true := by
  apply Tokens.isBody_of_lex
  rw [sum.lex_of_written h, Tokens.fault?_ofList]

/-- Texts in single quotes, each quote inside them twice, with plus signs
between them. -/
def literals (texts : List String) : List Char :=
  [' ', '+', ' '].intercalate
    (texts.map (fun text => (Token.string text).spelling))

theorem literals_cons_cons (first second : String) (rest : List String) :
    literals (first :: second :: rest) =
      (Token.string first).spelling ++
        (' ' :: '+' :: ' ' :: literals (second :: rest)) := by
  simp [literals, List.intercalate]

theorem written_literals (first : String) (rest : List String) :
    Tokens.Written
      (.string first :: rest.flatMap (fun text => [.plus, .string text]))
      (literals (first :: rest)) := by
  have hblank : Text.isBlankChar ' ' = true := by decide
  have hstring : ∀ text, (Token.string text).isProper = true := fun _ => rfl
  have hplus : Token.plus.isProper = true := rfl
  induction rest generalizing first with
  | nil =>
      have hend : Tokens.Written [] [] := .done (by simp)
      have halone := hend.cons (hstring first)
      simpa [literals, List.intercalate] using halone
  | cons second rest ih =>
      rw [literals_cons_cons]
      exact ((((ih second).blank hblank).cons hplus).blank hblank).cons
        (hstring first)

/-- Every text can be written as a string.  A placeholder of strings with plus
signs between them stands for the texts, one behind the other, whatever
characters they have. -/
theorem Template.expand_literals (ctx : Context) (first : String)
    (rest : List String) :
    expand ctx (placeholder .expression (literals (first :: rest))) =
      .ok (String.join (first :: rest)) := by
  let start : SumTree := .first (.primary (.string first))
  have hstart : start.text ctx = .ok first := rfl
  have hwritten : Tokens.Written (start.plusStrings rest).tokens
      (literals (first :: rest)) := by
    rw [SumTree.tokens_plusStrings]
    exact written_literals first rest
  have hdepth : (start.plusStrings rest).depth ≤ parenthesisLimit := by
    rw [SumTree.depth_plusStrings]
    exact Nat.zero_le parenthesisLimit
  calc expand ctx (placeholder .expression (literals (first :: rest)))
    _ = evaluate ctx (literals (first :: rest)) :=
      expand_placeholder ctx .expression (isBody_of_written hwritten)
    _ = (start.plusStrings rest).text ctx :=
      evaluate_of_written ctx hdepth hwritten
    _ = .ok (first ++ String.join rest) :=
      SumTree.text_plusStrings ctx hstart rest
    _ = .ok (String.join (first :: rest)) := by rw [String.join_cons]

end RegionSnapshot
