/-
How tokens are written.  A name stands as it is, a string in single quotes with
each quote inside it written twice, and a sign as one character; blanks may
stand before each token and at the end.  Main statements: tokens that are read
from a text are written in it, and tokens of which any two neighbours have a
sign among them are read from every text in which they are written.
-/
import RegionSnapshot.Expression.Token

namespace RegionSnapshot
namespace Token

/-- A letter or an underscore, and name characters after it. -/
def isName : List Char → Bool
  | [] => false
  | c :: rest => Tokens.isNameStart c && rest.all Tokens.isNamePart

/-- A text in which each quote is written twice. -/
def doubled (text : List Char) : List Char :=
  text.flatMap (fun c => if c = Tokens.quote then [c, c] else [c])

/-- The characters of a token. -/
def spelling : Token → List Char
  | .identifier name => name.toList
  | .string text => Tokens.quote :: doubled text.toList ++ [Tokens.quote]
  | .hash => ['#']
  | .at => ['@']
  | .dot => ['.']
  | .plus => ['+']
  | .leftParen => ['(']
  | .rightParen => [')']
  | .leftBracket => ['[']
  | .rightBracket => [']']

/-- The token can be written: an identifier is a name. -/
def isProper : Token → Bool
  | .identifier name => isName name.toList
  | _ => true

def isSign : Token → Bool
  | .identifier _ => false
  | .string _ => false
  | _ => true

theorem doubled_cons_quote (text : List Char) :
    doubled (Tokens.quote :: text) =
      Tokens.quote :: Tokens.quote :: doubled text := by
  simp [doubled]

theorem doubled_cons {c : Char} (hc : c ≠ Tokens.quote) (text : List Char) :
    doubled (c :: text) = c :: doubled text := by
  simp [doubled, hc]

/-- A sign is written as the character from which it is read. -/
theorem spelling_of_ofSign? {c : Char} {token : Token}
    (h : ofSign? c = some token) :
    token.spelling = [c] ∧ token.isProper = true := by
  unfold ofSign? at h
  split at h
  all_goals first | (cases h; exact ⟨rfl, rfl⟩) | cases h

theorem ofSign?_of_isSign {token : Token} (h : token.isSign = true) :
    ∃ c, token.spelling = [c] ∧ ofSign? c = some token ∧
      Text.isBlankChar c = false ∧ Tokens.isNamePart c = false ∧
      Tokens.isNameStart c = false ∧ c ≠ Tokens.quote := by
  cases token
  case identifier => cases h
  case string => cases h
  all_goals exact ⟨_, rfl, rfl, by decide, by decide, by decide, by decide⟩

end Token

namespace Tokens

/-- The tokens of a list, up to the end of the text. -/
def ofList : List Token → Tokens
  | [] => .done
  | token :: rest => .next token (ofList rest)

/-- The tokens up to the end or to the first fault. -/
def list : Tokens → List Token
  | .done => []
  | .fault _ => []
  | .next token rest => token :: rest.list

theorem ofList_injective {first second : List Token}
    (h : ofList first = ofList second) : first = second := by
  induction first generalizing second with
  | nil =>
      cases second with
      | nil => rfl
      | cons token rest => cases h
  | cons token rest ih =>
      cases second with
      | nil => cases h
      | cons other more =>
          simp only [ofList, next.injEq] at h
          rw [h.1, ih h.2]

@[simp]
theorem list_ofList (tokens : List Token) : (ofList tokens).list = tokens := by
  induction tokens with
  | nil => rfl
  | cons token rest ih => rw [ofList, list, ih]

@[simp]
theorem ready_ofList (tokens : List Token) :
    (ofList tokens).ready = .ok () := by
  cases tokens <;> rfl

/-- A text in which tokens are written, with any blanks before each of them and
at the end. -/
inductive Written : List Token → List Char → Prop
  | done {blanks : List Char}
      (hblanks : ∀ c ∈ blanks, Text.isBlankChar c = true) :
      Written [] blanks
  | token {token : Token} {rest : List Token} {blanks chars : List Char}
      (hblanks : ∀ c ∈ blanks, Text.isBlankChar c = true)
      (hproper : token.isProper = true) (hrest : Written rest chars) :
      Written (token :: rest) (blanks ++ (token.spelling ++ chars))

/-- Of any two neighbours one is a sign. -/
def Parted : List Token → Prop
  | first :: second :: rest =>
      (first.isSign = true ∨ second.isSign = true) ∧ Parted (second :: rest)
  | _ => True

theorem Parted.tail {token : Token} {rest : List Token}
    (h : Parted (token :: rest)) : Parted rest := by
  cases rest with
  | nil => exact h
  | cons second rest => exact h.2

theorem toNat_of_isNamePart {c : Char} (h : isNamePart c = true) :
    (48 ≤ c.toNat ∧ c.toNat ≤ 57) ∨ (65 ≤ c.toNat ∧ c.toNat ≤ 90) ∨
      (97 ≤ c.toNat ∧ c.toNat ≤ 122) ∨ c.toNat = 95 ∨ c.toNat = 45 := by
  change ((decide (c.val ≥ 65 ∧ c.val ≤ 90) || c.val ≥ 97 && c.val ≤ 122) ||
    (c.val ≥ 48 && c.val ≤ 57) || c == '_' || c == '-') = true at h
  simp only [Bool.or_eq_true, Bool.and_eq_true, decide_eq_true_eq,
    UInt32.le_iff_toNat_le, ge_iff_le, beq_iff_eq] at h
  change ((((65 ≤ c.toNat ∧ c.toNat ≤ 90) ∨ (97 ≤ c.toNat ∧ c.toNat ≤ 122)) ∨
    (48 ≤ c.toNat ∧ c.toNat ≤ 57)) ∨ c = '_') ∨ c = '-' at h
  rcases h with (((h | h) | h) | rfl) | rfl
  · omega
  · omega
  · omega
  · decide
  · decide

theorem isNamePart_of_isNameStart {c : Char} (h : isNameStart c = true) :
    isNamePart c = true := by
  simp only [isNameStart, isNamePart, Char.isAlphanum, Bool.or_eq_true] at h ⊢
  rcases h with h | h
  · exact .inl (.inl (.inl h))
  · exact .inl (.inr h)

theorem not_isBlankChar_of_isNamePart {c : Char} (h : isNamePart c = true) :
    Text.isBlankChar c = false := by
  have hrange := toNat_of_isNamePart h
  simp only [Text.isBlankChar, Bool.or_eq_false_iff, Bool.and_eq_false_iff,
    decide_eq_false_iff_not, beq_eq_false_iff_ne]
  omega

theorem not_isNamePart_of_isBlankChar {c : Char}
    (h : Text.isBlankChar c = true) : isNamePart c = false := by
  rw [Bool.eq_false_iff]
  intro hpart
  rw [not_isBlankChar_of_isNamePart hpart] at h
  cases h

theorem ne_quote_of_isNamePart {c : Char} (h : isNamePart c = true) :
    c ≠ quote := by
  rintro rfl
  exact absurd h (by decide)

theorem ne_quote_of_isBlankChar {c : Char} (h : Text.isBlankChar c = true) :
    c ≠ quote := by
  rintro rfl
  exact absurd h (by decide)

namespace Written

/-- One more blank in front. -/
theorem blank {tokens : List Token} {chars : List Char}
    (h : Written tokens chars) {c : Char} (hc : Text.isBlankChar c = true) :
    Written tokens (c :: chars) := by
  cases h with
  | done hblanks => exact .done (List.forall_mem_cons.2 ⟨hc, hblanks⟩)
  | token hblanks hproper hrest =>
      exact .token (List.forall_mem_cons.2 ⟨hc, hblanks⟩) hproper hrest

/-- A token in front, without blanks. -/
theorem cons {token : Token} {rest : List Token} {chars : List Char}
    (hproper : token.isProper = true) (h : Written rest chars) :
    Written (token :: rest) (token.spelling ++ chars) :=
  .token (fun _ hc => absurd hc List.not_mem_nil) hproper h

/-- Unless a name or a string comes first, a text goes on with a character that
belongs to no name and to no string before it. -/
theorem head?_apart {tokens : List Token} {chars : List Char}
    (h : Written tokens chars)
    (hsign : ∀ token ∈ tokens.head?, token.isSign = true) :
    ∀ c ∈ chars.head?, isNamePart c = false ∧ c ≠ quote := by
  have hblank : ∀ c, Text.isBlankChar c = true →
      isNamePart c = false ∧ c ≠ quote := fun c hc =>
    ⟨not_isNamePart_of_isBlankChar hc, ne_quote_of_isBlankChar hc⟩
  intro c hc
  cases h with
  | done hblanks => exact hblank c (hblanks c (List.mem_of_mem_head? hc))
  | @token token rest blanks more hblanks hproper hrest =>
      cases blanks with
      | cons first others =>
          rw [List.cons_append, List.head?_cons, Option.mem_some_iff] at hc
          subst hc
          exact hblank _ (hblanks _ List.mem_cons_self)
      | nil =>
          obtain ⟨sign, hspelling, -, -, hpart, -, hquote⟩ :=
            Token.ofSign?_of_isSign (hsign token rfl)
          rw [hspelling] at hc
          rw [List.nil_append, List.singleton_append, List.head?_cons,
            Option.mem_some_iff] at hc
          subst hc
          exact ⟨hpart, hquote⟩

end Written

theorem lexFrom_between (offset : Nat) (c : Char) (rest : List Char) :
    lexFrom offset .between (c :: rest) =
      if Text.isBlankChar c then lexFrom (offset + c.utf8Size) .between rest
      else if c = quote then
        lexFrom (offset + c.utf8Size) (.string offset []) rest
      else if isNameStart c then lexFrom (offset + c.utf8Size) (.name [c]) rest
      else
        match Token.ofSign? c with
        | some token =>
            .next token (lexFrom (offset + c.utf8Size) .between rest)
        | none => .fault (.unexpectedCharacter c offset) :=
  rfl

/-- What is begun is complete where the next character does not belong to it. -/
theorem lexFrom_close {before : Partial} {chars : List Char}
    (h : ∀ c ∈ chars.head?, before.extend? c = none) (offset : Nat) :
    lexFrom offset before chars =
      before.close (lexFrom offset .between chars) := by
  cases chars with
  | nil => rfl
  | cons c rest =>
      have hc : before.extend? c = none := h c rfl
      rw [lexFrom, hc]
      exact congrArg before.close (lexFrom_between offset c rest).symm

/-- Blanks before a token do not count. -/
theorem exists_lexFrom_blanks {blanks : List Char}
    (h : ∀ c ∈ blanks, Text.isBlankChar c = true) (offset : Nat)
    (chars : List Char) :
    ∃ later, lexFrom offset .between (blanks ++ chars) =
      lexFrom later .between chars := by
  induction blanks generalizing offset with
  | nil => exact ⟨offset, rfl⟩
  | cons c rest ih =>
      rw [List.forall_mem_cons] at h
      obtain ⟨later, hlater⟩ := ih h.2 (offset + c.utf8Size)
      refine ⟨later, ?_⟩
      rw [List.cons_append, lexFrom_between, if_pos h.1, hlater]

theorem exists_lexFrom_name {part : List Char}
    (h : ∀ c ∈ part, isNamePart c = true) (offset : Nat)
    (done chars : List Char) :
    ∃ later, lexFrom offset (.name done) (part ++ chars) =
      lexFrom later (.name (part.reverse ++ done)) chars := by
  induction part generalizing offset done with
  | nil => exact ⟨offset, rfl⟩
  | cons c rest ih =>
      rw [List.forall_mem_cons] at h
      obtain ⟨later, hlater⟩ := ih h.2 (offset + c.utf8Size) (c :: done)
      refine ⟨later, ?_⟩
      simp only [List.cons_append, lexFrom, Partial.extend?, h.1, ↓reduceIte,
        hlater, List.reverse_cons, List.append_assoc, List.nil_append]

theorem exists_lexFrom_string (text : List Char) (offset start : Nat)
    (done chars : List Char) :
    ∃ later, lexFrom offset (.string start done)
        (Token.doubled text ++ quote :: chars) =
      lexFrom later (.quoted start (text.reverse ++ done)) chars := by
  induction text generalizing offset done with
  | nil => exact ⟨offset + quote.utf8Size, by
      simp [Token.doubled, lexFrom, Partial.extend?]⟩
  | cons c rest ih =>
      by_cases hc : c = quote
      · subst hc
        obtain ⟨later, hlater⟩ :=
          ih (offset + quote.utf8Size + quote.utf8Size) (quote :: done)
        refine ⟨later, ?_⟩
        simp only [Token.doubled_cons_quote, List.cons_append, lexFrom,
          Partial.extend?, ↓reduceIte, hlater, List.reverse_cons,
          List.append_assoc, List.nil_append]
      · obtain ⟨later, hlater⟩ := ih (offset + c.utf8Size) (c :: done)
        refine ⟨later, ?_⟩
        simp only [Token.doubled_cons hc, List.cons_append, lexFrom,
          Partial.extend?, hc, ↓reduceIte, hlater, List.reverse_cons,
          List.append_assoc, List.nil_append]

/-- A token is read from its characters, if what follows cannot be taken for a
part of it. -/
theorem exists_lexFrom_spelling {token : Token}
    (hproper : token.isProper = true) {chars : List Char}
    (h : token.isSign = true ∨
      ∀ c ∈ chars.head?, isNamePart c = false ∧ c ≠ quote) (offset : Nat) :
    ∃ later, lexFrom offset .between (token.spelling ++ chars) =
      .next token (lexFrom later .between chars) := by
  cases token
  case identifier name =>
    have hafter := h.resolve_left Bool.false_ne_true
    have hname : ∃ c rest, name.toList = c :: rest ∧ isNameStart c = true ∧
        ∀ d ∈ rest, isNamePart d = true := by
      rw [Token.isProper] at hproper
      cases hchars : name.toList with
      | nil =>
          rw [hchars] at hproper
          cases hproper
      | cons c rest =>
          rw [hchars, Token.isName, Bool.and_eq_true,
            List.all_eq_true] at hproper
          exact ⟨c, rest, rfl, hproper⟩
    obtain ⟨c, rest, hchars, hstart, hrest⟩ := hname
    have hpart := isNamePart_of_isNameStart hstart
    obtain ⟨later, hlater⟩ :=
      exists_lexFrom_name hrest (offset + c.utf8Size) [c] chars
    refine ⟨later, ?_⟩
    rw [Token.spelling, hchars, List.cons_append, lexFrom_between,
      not_isBlankChar_of_isNamePart hpart, if_neg Bool.false_ne_true,
      if_neg (ne_quote_of_isNamePart hpart), if_pos hstart, hlater,
      lexFrom_close]
    · simp [Partial.close, ← hchars]
    · intro d hd
      simp [Partial.extend?, (hafter d hd).1]
  case string text =>
    have hafter := h.resolve_left Bool.false_ne_true
    obtain ⟨later, hlater⟩ := exists_lexFrom_string text.toList
      (offset + quote.utf8Size) offset [] chars
    have hblank : Text.isBlankChar quote = false := by decide
    refine ⟨later, ?_⟩
    simp only [Token.spelling, List.cons_append, List.append_assoc,
      List.nil_append, lexFrom_between, hblank, Bool.false_eq_true,
      ↓reduceIte, hlater]
    rw [lexFrom_close]
    · simp [Partial.close]
    · intro d hd
      simp [Partial.extend?, (hafter d hd).2]
  all_goals exact ⟨_, rfl⟩

/-- Tokens with a sign among any two neighbours are read from every text in
which they are written. -/
theorem lexFrom_of_written {tokens : List Token} {chars : List Char}
    (h : Written tokens chars) (hparted : Parted tokens) (offset : Nat) :
    lexFrom offset .between chars = ofList tokens := by
  induction h generalizing offset with
  | @done blanks hblanks =>
      obtain ⟨later, hlater⟩ := exists_lexFrom_blanks hblanks offset []
      rw [List.append_nil] at hlater
      rw [hlater]
      rfl
  | @token token rest blanks chars hblanks hproper hrest ih =>
      have happart : token.isSign = true ∨
          ∀ c ∈ chars.head?, isNamePart c = false ∧ c ≠ quote := by
        by_cases hsign : token.isSign = true
        · exact .inl hsign
        · refine .inr (hrest.head?_apart ?_)
          intro second hsecond
          cases rest with
          | nil => cases hsecond
          | cons other more =>
              cases hsecond
              exact hparted.1.resolve_left hsign
      obtain ⟨later, hlater⟩ := exists_lexFrom_blanks hblanks offset
        (token.spelling ++ chars)
      obtain ⟨last, hlast⟩ := exists_lexFrom_spelling hproper happart later
      rw [hlater, hlast, ih hparted.tail]
      rfl

/-- The tokens that a text makes with the token that is begun before it. -/
def Completes : Partial → List Token → List Char → Prop
  | .between, tokens, chars => Written tokens chars
  | .name read, tokens, chars =>
      ∃ part rest after, chars = part ++ rest ∧
        (∀ c ∈ part, isNamePart c = true) ∧
        tokens = .identifier (.ofList (read.reverse ++ part)) :: after ∧
        Written after rest
  | .string _ read, tokens, chars =>
      ∃ text rest after, chars = Token.doubled text ++ quote :: rest ∧
        tokens = .string (.ofList (read.reverse ++ text)) :: after ∧
        Written after rest
  | .quoted _ read, tokens, chars =>
      ∃ text rest after, quote :: chars = Token.doubled text ++ quote :: rest ∧
        tokens = .string (.ofList (read.reverse ++ text)) :: after ∧
        Written after rest

theorem completes_of_extend {before more : Partial} {c : Char}
    (hextend : before.extend? c = some more) {tokens : List Token}
    {chars : List Char} (h : Completes more tokens chars) :
    Completes before tokens (c :: chars) := by
  cases before with
  | between => cases hextend
  | name read =>
      simp only [Partial.extend?, Option.ite_none_right_eq_some,
        Option.some.injEq] at hextend
      obtain ⟨hpart, rfl⟩ := hextend
      obtain ⟨part, rest, after, rfl, hall, rfl, hwritten⟩ := h
      exact ⟨c :: part, rest, after, rfl, List.forall_mem_cons.2 ⟨hpart, hall⟩,
        by simp, hwritten⟩
  | string start read =>
      by_cases hc : c = quote
      · simp only [Partial.extend?, hc, ↓reduceIte,
          Option.some.injEq] at hextend
        subst hextend hc
        exact h
      · simp only [Partial.extend?, hc, ↓reduceIte,
          Option.some.injEq] at hextend
        subst hextend
        obtain ⟨text, rest, after, rfl, rfl, hwritten⟩ := h
        exact ⟨c :: text, rest, after, by rw [Token.doubled_cons hc]; rfl,
          by simp, hwritten⟩
  | quoted start read =>
      simp only [Partial.extend?, Option.ite_none_right_eq_some,
        Option.some.injEq] at hextend
      obtain ⟨rfl, rfl⟩ := hextend
      obtain ⟨text, rest, after, rfl, rfl, hwritten⟩ := h
      exact ⟨quote :: text, rest, after, by
        rw [Token.doubled_cons_quote]
        rfl, by simp, hwritten⟩

theorem completes_of_close {before : Partial} {next : Tokens}
    {tokens : List Token} {chars : List Char}
    (hclose : before.close next = ofList tokens)
    (h : ∀ after, next = ofList after → Written after chars) :
    Completes before tokens chars := by
  have hnext : ∀ token, Tokens.next token next = ofList tokens →
      ∃ after, tokens = token :: after ∧ Written after chars := by
    intro token heq
    cases tokens with
    | nil => cases heq
    | cons first after =>
        simp only [ofList, Tokens.next.injEq] at heq
        exact ⟨after, by rw [heq.1], h after heq.2⟩
  cases before with
  | between => exact h tokens hclose
  | name read =>
      obtain ⟨after, rfl, hwritten⟩ := hnext _ hclose
      exact ⟨[], chars, after, rfl, fun _ hc => absurd hc List.not_mem_nil,
        by simp, hwritten⟩
  | string start read => cases tokens <;> cases hclose
  | quoted start read =>
      obtain ⟨after, rfl, hwritten⟩ := hnext _ hclose
      exact ⟨[], chars, after, rfl, by simp, hwritten⟩

/-- A string is written from its first quote on. -/
theorem written_of_completes_string {offset : Nat} {tokens : List Token}
    {chars : List Char} (h : Completes (.string offset []) tokens chars) :
    Written tokens (quote :: chars) := by
  obtain ⟨text, rest, after, rfl, rfl, hwritten⟩ := h
  have hproper : (Token.string (.ofList text)).isProper = true := rfl
  have hcons := hwritten.cons hproper
  simpa [Token.spelling] using hcons

/-- A name is written from its first character on. -/
theorem written_of_completes_name {c : Char} (hstart : isNameStart c = true)
    {tokens : List Token} {chars : List Char}
    (h : Completes (.name [c]) tokens chars) : Written tokens (c :: chars) := by
  obtain ⟨part, rest, after, rfl, hpart, rfl, hwritten⟩ := h
  have hproper : (Token.identifier (.ofList (c :: part))).isProper = true := by
    simp [Token.isProper, Token.isName, hstart, List.all_eq_true.2 hpart]
  have hcons := hwritten.cons hproper
  simpa [Token.spelling] using hcons

/-- Tokens that are read are written in the text. -/
theorem completes_of_lexFrom {offset : Nat} {before : Partial}
    {tokens : List Token} {chars : List Char}
    (h : lexFrom offset before chars = ofList tokens) :
    Completes before tokens chars := by
  induction chars generalizing offset before tokens with
  | nil =>
      apply completes_of_close h
      intro after hafter
      have hnil : after = [] := ofList_injective hafter.symm
      rw [hnil]
      exact .done (fun _ hc => absurd hc List.not_mem_nil)
  | cons c rest ih =>
      rw [lexFrom] at h
      split at h
      · rename_i more hmore
        exact completes_of_extend hmore (ih h)
      · apply completes_of_close h
        intro after hafter
        -- the first character of a token, or a blank
        by_cases hblank : Text.isBlankChar c = true
        · rw [if_pos hblank] at hafter
          have hrest : Written after rest := ih hafter
          exact hrest.blank hblank
        rw [if_neg hblank] at hafter
        by_cases hquote : c = quote
        · rw [if_pos hquote] at hafter
          rw [hquote]
          exact written_of_completes_string (ih hafter)
        rw [if_neg hquote] at hafter
        by_cases hstart : isNameStart c = true
        · rw [if_pos hstart] at hafter
          exact written_of_completes_name hstart (ih hafter)
        rw [if_neg hstart] at hafter
        cases hsign : Token.ofSign? c with
        | none =>
            rw [hsign] at hafter
            cases after <;> cases hafter
        | some token =>
            rw [hsign] at hafter
            cases after with
            | nil => cases hafter
            | cons first others =>
                simp only [ofList, Tokens.next.injEq] at hafter
                obtain ⟨rfl, hothers⟩ := hafter
                have hrest : Written others rest := ih hothers
                obtain ⟨hspelling, hproper⟩ := Token.spelling_of_ofSign? hsign
                have hcons := hrest.cons hproper
                rwa [hspelling] at hcons

/-- Tokens that are read from a text are written in it. -/
theorem written_of_lex {source : List Char} {tokens : List Token}
    (h : lex source = ofList tokens) : Written tokens source := by
  have hbetween : Completes .between tokens source := completes_of_lexFrom h
  exact hbetween

/-- Tokens with a sign among any two neighbours are read from the texts in
which they are written, and from no other ones. -/
theorem lex_eq_ofList_iff {source : List Char} {tokens : List Token}
    (hparted : Parted tokens) :
    lex source = ofList tokens ↔ Written tokens source :=
  ⟨written_of_lex, fun h => lexFrom_of_written h hparted 0⟩

end Tokens
end RegionSnapshot
