/-
The grammar of expressions and the meaning of its sentences.

    sum     := chain ('+' chain)*
    chain   := primary link*
    link    := '.' name | '.' name '(' ')' | '[' string ']'
    primary := string | '#' name | '@' name | 'env' | '(' sum ')'

A sentence is given by its tree.  What a tree means is said by tables: the
variables of a context, the members of a value and the methods of a text, each
by name.  The parts of a tree have their values from left to right, and the
first one without value gives the error of the whole.
-/
import RegionSnapshot.Expression.Evaluate
import RegionSnapshot.Json.Printer
import RegionSnapshot.Proofs.Entries
import RegionSnapshot.Proofs.Expression.Spelling

namespace RegionSnapshot

/-- The variables of a context. -/
def Context.variables (ctx : Context) : List (String × Operand) :=
  [("region", .region), ("regionName", .text ctx.region.name),
    ("regionPath", .text ctx.region.fullPath)]

namespace Operand

/-- The members of a value: those of the region and those of JSON objects. -/
def members (ctx : Context) : Operand → List (String × Operand)
  | .region =>
      [("name", .text ctx.region.name), ("fullPath", .text ctx.region.fullPath)]
  | .json (.obj members) =>
      members.map (fun member => (member.1, .json member.2))
  | _ => []

/-- The text, where the value is one. -/
def text? : Operand → Option String
  | .text value => some value
  | .json value => value.text?
  | _ => none

/-- The methods of a value and what they give; only texts have any. -/
def methods (value : Operand) : List (String × Operand) :=
  match value.text? with
  | some content =>
      [("toLowerCase", .text (Text.toLower content)),
        ("toUpperCase", .text (Text.toUpper content)),
        ("trim", .text (Text.trim content))]
  | none => []

/-- How a value is shown: texts as they are, and numbers and truth values as
JSON has them. -/
def shown? : Operand → Option String
  | .json (.num value) => some (Json.num value).compact
  | .json (.bool value) => some (Json.bool value).compact
  | value => value.text?

end Operand

/-- A value that has to be there. -/
def need {β : Type} (error : ExpressionError) : Option β →
    Except ExpressionError β
  | some value => .ok value
  | none => .error error

namespace Operand

theorem ofVariable_eq (ctx : Context) (name : String) :
    ofVariable ctx name =
      need (.unknownVariable name) (Entries.get? name ctx.variables) := by
  simp only [ofVariable, Context.variables, Entries.get?]
  grind [need]

theorem ofComponent_eq (ctx : Context) (name : String) :
    ofComponent ctx name = need (.unknownComponent name)
      ((Entries.get? name ctx.components).map .json) := by
  rw [ofComponent]
  cases Entries.get? name ctx.components <;> rfl

theorem member_eq (ctx : Context) (value : Operand) (name : String) :
    value.member ctx name = need (.unknownMember value.kind name)
      (Entries.get? name (value.members ctx)) := by
  cases value with
  | region =>
      simp only [member, members, Entries.get?]
      grind [need, kind]
  | text value => rfl
  | environment => rfl
  | json value =>
      cases value with
      | obj members =>
          have hmembers := Entries.get?_mapValues (fun _ => Operand.json) name
            members
          rw [member, Operand.members, hmembers]
          cases Entries.get? name members <;> rfl
      | _ => rfl

theorem call_eq (value : Operand) (method : String) :
    value.call method = need (.unknownMember value.kind method)
      (Entries.get? method value.methods) := by
  have htext : ∀ content, callText content method =
      need (.unknownMember "string" method)
        (Entries.get? method (methods (.text content))) := by
    intro content
    simp only [callText, methods, text?, Entries.get?]
    grind [need]
  cases value with
  | text content => exact htext content
  | json value =>
      cases value with
      | str content => exact htext content
      | _ => rfl
  | _ => rfl

theorem render_eq (value : Operand) :
    value.render = need (.notRenderable value.kind) value.shown? := by
  cases value with
  | json value =>
      cases value with
      | num number =>
          simp [render, shown?, Json.compact, Json.compactChars, need]
      | bool value => cases value <;> rfl
      | _ => rfl
  | _ => rfl

end Operand

/-- What is asked of a value: a member, a method, or what stands at a key. -/
inductive Link
  | member (name : String)
  | call (method : String)
  | index (key : String)
  deriving DecidableEq, Repr

namespace Link

/-- The tokens of a link. -/
def tokens : Link → List Token
  | .member name => [.dot, .identifier name]
  | .call method => [.dot, .identifier method, .leftParen, .rightParen]
  | .index key => [.leftBracket, .string key, .rightBracket]

/-- What is found along a link.  At a key the environment has properties, and
all else members. -/
def follow (ctx : Context) (value : Operand) :
    Link → Except ExpressionError Operand
  | .member name =>
      need (.unknownMember value.kind name)
        (Entries.get? name (value.members ctx))
  | .call method =>
      need (.unknownMember value.kind method)
        (Entries.get? method value.methods)
  | .index key =>
      match value with
      | .environment =>
          need (.unknownProperty key)
            ((ctx.environment.property? key).map .text)
      | value =>
          need (.unknownMember value.kind key)
            (Entries.get? key (value.members ctx))

theorem follow_index (ctx : Context) (value : Operand) (key : String) :
    follow ctx value (.index key) = value.index ctx key := by
  cases value with
  | environment =>
      rw [follow, Operand.index]
      cases ctx.environment.property? key <;> rfl
  | text content => exact (Operand.member_eq ctx (.text content) key).symm
  | json value => exact (Operand.member_eq ctx (.json value) key).symm
  | region => exact (Operand.member_eq ctx .region key).symm

end Link

mutual

/-- A sum of chains. -/
inductive SumTree
  | first (chain : ChainTree)
  | plus (sum : SumTree) (chain : ChainTree)

/-- A primary and the links after it. -/
inductive ChainTree
  | primary (primary : PrimaryTree)
  | link (chain : ChainTree) (link : Link)

/-- What stands at the start of a chain. -/
inductive PrimaryTree
  | string (text : String)
  | var (name : String)
  | component (name : String)
  | environment
  | group (sum : SumTree)

end

mutual

/-- The tokens of a sum. -/
def SumTree.tokens : SumTree → List Token
  | .first chain => chain.tokens
  | .plus sum chain => sum.tokens ++ .plus :: chain.tokens

def ChainTree.tokens : ChainTree → List Token
  | .primary primary => primary.tokens
  | .link chain link => chain.tokens ++ link.tokens

def PrimaryTree.tokens : PrimaryTree → List Token
  | .string text => [.string text]
  | .var name => [.hash, .identifier name]
  | .component name => [.at, .identifier name]
  | .environment => [.identifier "env"]
  | .group sum => .leftParen :: sum.tokens ++ [.rightParen]

end

mutual

/-- The text of a sum: the texts of its chains, one after the other. -/
def SumTree.text (ctx : Context) : SumTree → Except ExpressionError String
  | .first chain => do
      let value ← chain.value ctx
      need (.notRenderable value.kind) value.shown?
  | .plus sum chain => do
      let before ← sum.text ctx
      let value ← chain.value ctx
      let text ← need (.notRenderable value.kind) value.shown?
      return before ++ text

/-- The value of a chain: what is found along its links. -/
def ChainTree.value (ctx : Context) : ChainTree → Except ExpressionError Operand
  | .primary primary => primary.value ctx
  | .link chain link => do
      let value ← chain.value ctx
      link.follow ctx value

/-- The value of a primary. -/
def PrimaryTree.value (ctx : Context) :
    PrimaryTree → Except ExpressionError Operand
  | .string text => .ok (.text text)
  | .var name =>
      need (.unknownVariable name) (Entries.get? name ctx.variables)
  | .component name =>
      need (.unknownComponent name)
        ((Entries.get? name ctx.components).map .json)
  | .environment => .ok .environment
  | .group sum => (sum.text ctx).map .text

end

/-- The text of a chain. -/
def ChainTree.text (ctx : Context) (chain : ChainTree) :
    Except ExpressionError String := do
  let value ← chain.value ctx
  need (.notRenderable value.kind) value.shown?

/-- The chains of a sum, from left to right. -/
def SumTree.chains : SumTree → List ChainTree
  | .first chain => [chain]
  | .plus sum chain => sum.chains ++ [chain]

theorem SumTree.text_first (ctx : Context) (chain : ChainTree) :
    (SumTree.first chain).text ctx = chain.text ctx :=
  rfl

theorem SumTree.text_plus (ctx : Context) (sum : SumTree) (chain : ChainTree) :
    (SumTree.plus sum chain).text ctx = (do
      let before ← sum.text ctx
      let text ← chain.text ctx
      return before ++ text) := by
  simp only [SumTree.text, ChainTree.text, bind_assoc]

/-- The text of a sum is that of its chains, which have their texts one after
the other. -/
theorem SumTree.text_eq_join (ctx : Context) (sum : SumTree) :
    sum.text ctx = (sum.chains.mapM (ChainTree.text ctx)).map String.join := by
  cases sum with
  | first chain =>
      rw [SumTree.text_first, SumTree.chains, List.mapM_cons, List.mapM_nil]
      cases chain.text ctx with
      | error error => rfl
      | ok text => simp [Except.map, bind, Except.bind, pure, Except.pure]
  | plus sum chain =>
      rw [SumTree.text_plus, SumTree.chains, List.mapM_append, List.mapM_cons,
        List.mapM_nil, sum.text_eq_join]
      cases sum.chains.mapM (ChainTree.text ctx) with
      | error error => rfl
      | ok texts =>
          cases chain.text ctx with
          | error error => rfl
          | ok text => simp [Except.map, bind, Except.bind, pure, Except.pure]

mutual

/-- How deep groups stand in groups. -/
def SumTree.depth : SumTree → Nat
  | .first chain => chain.depth
  | .plus sum chain => max sum.depth chain.depth

def ChainTree.depth : ChainTree → Nat
  | .primary primary => primary.depth
  | .link chain _ => chain.depth

def PrimaryTree.depth : PrimaryTree → Nat
  | .group sum => sum.depth + 1
  | _ => 0

end

namespace Tokens

/-- The tokens less each opening parenthesis that is closed at once. -/
def withoutEmptyPairs : List Token → List Token
  | .leftParen :: .rightParen :: rest => withoutEmptyPairs rest
  | token :: rest => token :: withoutEmptyPairs rest
  | [] => []

/-- The number of parentheses that are open after a token. -/
def openAfter (count : Nat) : Token → Nat
  | .leftParen => count + 1
  | .rightParen => count - 1
  | _ => count

/-- The greatest number of parentheses that are open at once, when some are
open at the start. -/
def mostOpen (count : Nat) : List Token → Nat
  | [] => count
  | token :: rest => max count (mostOpen (openAfter count token) rest)

theorem le_mostOpen (count : Nat) (tokens : List Token) :
    count ≤ mostOpen count tokens := by
  cases tokens with
  | nil => exact Nat.le_refl count
  | cons token rest => exact Nat.le_max_left _ _

theorem withoutEmptyPairs_cons {token : Token} (h : token ≠ .leftParen)
    (rest : List Token) :
    withoutEmptyPairs (token :: rest) = token :: withoutEmptyPairs rest := by
  rw [withoutEmptyPairs]
  intro more heq
  exact absurd heq h

theorem withoutEmptyPairs_pair (rest : List Token) :
    withoutEmptyPairs (.leftParen :: .rightParen :: rest) =
      withoutEmptyPairs rest := by
  rw [withoutEmptyPairs]

theorem withoutEmptyPairs_leftParen {token : Token} (h : token ≠ .rightParen)
    (rest : List Token) :
    withoutEmptyPairs (.leftParen :: token :: rest) =
      .leftParen :: withoutEmptyPairs (token :: rest) := by
  rw [withoutEmptyPairs]
  intro more hleft heq
  simp at heq
  exact absurd heq.1 h

/-- A token that is no parenthesis leaves the count alone. -/
theorem mostOpen_cons {token : Token} (hleft : token ≠ .leftParen)
    (hright : token ≠ .rightParen) (count : Nat) (rest : List Token) :
    mostOpen count (withoutEmptyPairs (token :: rest)) =
      mostOpen count (withoutEmptyPairs rest) := by
  have hcount : openAfter count token = count := by
    cases token <;> first | rfl | contradiction
  rw [withoutEmptyPairs_cons hleft, mostOpen, hcount,
    Nat.max_eq_right (le_mostOpen _ _)]

theorem mostOpen_link (count : Nat) (link : Link) (rest : List Token) :
    mostOpen count (withoutEmptyPairs (link.tokens ++ rest)) =
      mostOpen count (withoutEmptyPairs rest) := by
  cases link with
  | member name => simp [Link.tokens, mostOpen_cons]
  | index key => simp [Link.tokens, mostOpen_cons]
  | call method => simp [Link.tokens, mostOpen_cons, withoutEmptyPairs_pair]

/-- A group opens one more parenthesis and closes it again. -/
theorem mostOpen_group (count : Nat) {token : Token}
    (h : token ≠ .rightParen) {inner rest : List Token} {depth : Nat}
    (hinner : mostOpen (count + 1)
        (withoutEmptyPairs (token :: inner ++ .rightParen :: rest)) =
      max (count + 1 + depth)
        (mostOpen (count + 1) (withoutEmptyPairs (.rightParen :: rest)))) :
    mostOpen count (withoutEmptyPairs
        (.leftParen :: (token :: inner) ++ .rightParen :: rest)) =
      max (count + (depth + 1)) (mostOpen count (withoutEmptyPairs rest)) := by
  have hclose : mostOpen (count + 1) (withoutEmptyPairs (.rightParen :: rest)) =
      max (count + 1) (mostOpen count (withoutEmptyPairs rest)) := by
    rw [withoutEmptyPairs_cons (by simp)]
    rfl
  rw [List.cons_append, List.cons_append, withoutEmptyPairs_leftParen h,
    mostOpen, openAfter, ← List.cons_append, hinner, hclose]
  have hle := le_mostOpen count (withoutEmptyPairs rest)
  omega

end Tokens

mutual

/-- A sum begins with a token that does not close a parenthesis. -/
theorem SumTree.exists_tokens (sum : SumTree) :
    ∃ token rest, sum.tokens = token :: rest ∧ token ≠ .rightParen := by
  cases sum with
  | first chain => exact chain.exists_tokens
  | plus sum chain =>
      obtain ⟨token, rest, htokens, hne⟩ := sum.exists_tokens
      exact ⟨token, _, by rw [SumTree.tokens, htokens, List.cons_append], hne⟩

theorem ChainTree.exists_tokens (chain : ChainTree) :
    ∃ token rest, chain.tokens = token :: rest ∧ token ≠ .rightParen := by
  cases chain with
  | primary primary =>
      cases primary with
      | group sum => exact ⟨_, _, rfl, by simp⟩
      | _ => exact ⟨_, _, rfl, by simp⟩
  | link chain link =>
      obtain ⟨token, rest, htokens, hne⟩ := chain.exists_tokens
      exact ⟨token, _, by rw [ChainTree.tokens, htokens, List.cons_append], hne⟩

end

mutual

/-- The parentheses of the groups of a sum are those that are open at once. -/
theorem SumTree.mostOpen_tokens (sum : SumTree) (count : Nat)
    (rest : List Token) :
    Tokens.mostOpen count (Tokens.withoutEmptyPairs (sum.tokens ++ rest)) =
      max (count + sum.depth)
        (Tokens.mostOpen count (Tokens.withoutEmptyPairs rest)) := by
  cases sum with
  | first chain => exact chain.mostOpen_tokens count rest
  | plus sum chain =>
      rw [SumTree.tokens, List.append_assoc, List.cons_append,
        sum.mostOpen_tokens, Tokens.mostOpen_cons (by simp) (by simp),
        chain.mostOpen_tokens, SumTree.depth]
      omega

theorem ChainTree.mostOpen_tokens (chain : ChainTree) (count : Nat)
    (rest : List Token) :
    Tokens.mostOpen count (Tokens.withoutEmptyPairs (chain.tokens ++ rest)) =
      max (count + chain.depth)
        (Tokens.mostOpen count (Tokens.withoutEmptyPairs rest)) := by
  cases chain with
  | primary primary => exact primary.mostOpen_tokens count rest
  | link chain link =>
      rw [ChainTree.tokens, List.append_assoc, chain.mostOpen_tokens,
        Tokens.mostOpen_link, ChainTree.depth]

theorem PrimaryTree.mostOpen_tokens (primary : PrimaryTree) (count : Nat)
    (rest : List Token) :
    Tokens.mostOpen count (Tokens.withoutEmptyPairs (primary.tokens ++ rest)) =
      max (count + primary.depth)
        (Tokens.mostOpen count (Tokens.withoutEmptyPairs rest)) := by
  have hle := Tokens.le_mostOpen count (Tokens.withoutEmptyPairs rest)
  cases primary with
  | group sum =>
      obtain ⟨token, inner, htokens, hne⟩ := sum.exists_tokens
      have hinner := sum.mostOpen_tokens (count + 1) (.rightParen :: rest)
      rw [htokens] at hinner
      have hgroup := Tokens.mostOpen_group count hne hinner
      simpa [PrimaryTree.tokens, PrimaryTree.depth, htokens] using hgroup
  | string text =>
      simp [PrimaryTree.tokens, PrimaryTree.depth, Tokens.mostOpen_cons, hle]
  | var name =>
      simp [PrimaryTree.tokens, PrimaryTree.depth, Tokens.mostOpen_cons, hle]
  | component name =>
      simp [PrimaryTree.tokens, PrimaryTree.depth, Tokens.mostOpen_cons, hle]
  | environment =>
      simp [PrimaryTree.tokens, PrimaryTree.depth, Tokens.mostOpen_cons, hle]

end

/-- The groups of a sentence nest as deep as parentheses are open at once. -/
theorem SumTree.mostOpen_eq_depth (sum : SumTree) :
    Tokens.mostOpen 0 (Tokens.withoutEmptyPairs sum.tokens) = sum.depth := by
  have h := sum.mostOpen_tokens 0 []
  rw [List.append_nil] at h
  rw [h]
  simp [Tokens.withoutEmptyPairs, Tokens.mostOpen]

namespace Tokens

theorem Parted.cons {token : Token} {rest : List Token} (h : Parted rest)
    (hsign : token.isSign = true ∨ ∀ next ∈ rest.head?, next.isSign = true) :
    Parted (token :: rest) := by
  cases rest with
  | nil => trivial
  | cons next rest => exact ⟨hsign.imp id (fun hall => hall next rfl), h⟩

/-- Links are parted, from what is before them and from a sign after them. -/
theorem Parted.link {rest : List Token} (h : Parted rest)
    (hsign : ∀ next ∈ rest.head?, next.isSign = true) (link : Link) :
    Parted (link.tokens ++ rest) ∧
      ∀ next ∈ (link.tokens ++ rest).head?, next.isSign = true := by
  cases link with
  | member name =>
      exact ⟨(h.cons (.inr hsign)).cons (.inl rfl),
        by simp [Link.tokens, Token.isSign]⟩
  | call method =>
      have hpair : Parted (.leftParen :: .rightParen :: rest) :=
        (h.cons (.inl rfl)).cons (.inl rfl)
      exact ⟨(hpair.cons (.inr (by simp [Token.isSign]))).cons (.inl rfl),
        by simp [Link.tokens, Token.isSign]⟩
  | index key =>
      have hclose : Parted (.rightBracket :: rest) := h.cons (.inl rfl)
      exact ⟨(hclose.cons (.inr (by simp [Token.isSign]))).cons (.inl rfl),
        by simp [Link.tokens, Token.isSign]⟩

end Tokens

mutual

/-- No two names or strings of a sum are neighbours. -/
theorem SumTree.parted (sum : SumTree) {rest : List Token}
    (h : Tokens.Parted rest) (hsign : ∀ next ∈ rest.head?, next.isSign = true) :
    Tokens.Parted (sum.tokens ++ rest) := by
  cases sum with
  | first chain => exact chain.parted h hsign
  | plus sum chain =>
      rw [SumTree.tokens, List.append_assoc, List.cons_append]
      exact sum.parted ((chain.parted h hsign).cons (.inl rfl))
        (by simp [Token.isSign])

theorem ChainTree.parted (chain : ChainTree) {rest : List Token}
    (h : Tokens.Parted rest) (hsign : ∀ next ∈ rest.head?, next.isSign = true) :
    Tokens.Parted (chain.tokens ++ rest) := by
  cases chain with
  | primary primary => exact primary.parted h hsign
  | link chain link =>
      obtain ⟨hlink, hnext⟩ := h.link hsign link
      rw [ChainTree.tokens, List.append_assoc]
      exact chain.parted hlink hnext

theorem PrimaryTree.parted (primary : PrimaryTree) {rest : List Token}
    (h : Tokens.Parted rest) (hsign : ∀ next ∈ rest.head?, next.isSign = true) :
    Tokens.Parted (primary.tokens ++ rest) := by
  cases primary with
  | string text => exact h.cons (.inr hsign)
  | var name => exact (h.cons (.inr hsign)).cons (.inl rfl)
  | component name => exact (h.cons (.inr hsign)).cons (.inl rfl)
  | environment => exact h.cons (.inr hsign)
  | group sum =>
      have hclose : Tokens.Parted (.rightParen :: rest) := h.cons (.inl rfl)
      rw [PrimaryTree.tokens, List.cons_append, List.cons_append,
        List.append_assoc]
      exact (sum.parted hclose (by simp [Token.isSign])).cons (.inl rfl)

end

end RegionSnapshot
