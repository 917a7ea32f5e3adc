/-
The evaluation of expressions against their grammar.  A walk over the tokens of
a tree has the value of the tree and then goes on with the tokens after it; and
the tokens over which a walk comes to its end make a tree.  So an expression has
a text exactly if it is written from a sentence with at most 32 groups open at
once, and that text is the meaning of the sentence.
-/
import RegionSnapshot.Proofs.Expression.Grammar
import RegionSnapshot.Proofs.Outcome

namespace RegionSnapshot
namespace Walk

variable {ctx : Context}

theorem run_cons (ctx : Context) (w : Walk) (token : Token)
    (rest : List Token) :
    w.run ctx (.ofList (token :: rest)) =
      w.step ctx (.ok ()) token >>= fun moved =>
        moved.run ctx (.ofList rest) := by
  rw [Tokens.ofList, run, Tokens.ready_ofList]

theorem run_of_step {w moved : Walk} {token : Token}
    (h : w.step ctx (.ok ()) token = .ok moved) (rest : List Token) :
    w.run ctx (.ofList (token :: rest)) = moved.run ctx (.ofList rest) := by
  rw [run_cons, h]
  rfl

/-- A token with which a value is found, or not. -/
theorem run_of_found {w : Walk} {token : Token}
    {value : Except ExpressionError Operand} {done : String}
    {outer : List String}
    (h : w.step ctx (.ok ()) token =
      value >>= fun found => .ok ⟨.after found, done, outer⟩)
    (rest : List Token) :
    w.run ctx (.ofList (token :: rest)) = value >>= fun found =>
      (⟨.after found, done, outer⟩ : Walk).run ctx (.ofList rest) := by
  rw [run_cons, h, bind_assoc]
  rfl

/-- After the name of a member stands what is found, unless a parenthesis makes
it a method. -/
theorem run_named (value : Operand) (name done : String)
    (outer : List String) {rest : List Token}
    (h : rest.head? ≠ some .leftParen) :
    (⟨.named value name, done, outer⟩ : Walk).run ctx (.ofList rest) =
      value.member ctx name >>= fun found =>
        (⟨.after found, done, outer⟩ : Walk).run ctx (.ofList rest) := by
  cases rest with
  | nil => rfl
  | cons token rest =>
      have hstep : (⟨.named value name, done, outer⟩ : Walk).step ctx (.ok ())
          token = value.member ctx name >>= fun found =>
            (⟨.after found, done, outer⟩ : Walk).step ctx (.ok ()) token := by
        cases token with
        | leftParen => exact absurd rfl h
        | _ => rfl
      simp only [run_cons, hstep, bind_assoc]

/-- After a link stands what is found along it. -/
theorem run_link (value : Operand) (link : Link) (done : String)
    (outer : List String) {rest : List Token}
    (h : rest.head? ≠ some .leftParen) :
    (⟨.after value, done, outer⟩ : Walk).run ctx
        (.ofList (link.tokens ++ rest)) =
      link.follow ctx value >>= fun found =>
        (⟨.after found, done, outer⟩ : Walk).run ctx (.ofList rest) := by
  cases link with
  | member name =>
      rw [Link.follow, ← Operand.member_eq]
      calc _ = (⟨.member value, done, outer⟩ : Walk).run ctx
            (.ofList (.identifier name :: rest)) := run_of_step rfl _
        _ = (⟨.named value name, done, outer⟩ : Walk).run ctx
            (.ofList rest) := run_of_step rfl _
        _ = _ := run_named value name done outer h
  | call method =>
      rw [Link.follow, ← Operand.call_eq]
      calc _ = (⟨.member value, done, outer⟩ : Walk).run ctx
            (.ofList
              (.identifier method :: .leftParen :: .rightParen :: rest)) :=
                run_of_step rfl _
        _ = (⟨.named value method, done, outer⟩ : Walk).run ctx
            (.ofList (.leftParen :: .rightParen :: rest)) := run_of_step rfl _
        _ = (⟨.arguments value method, done, outer⟩ : Walk).run ctx
            (.ofList (.rightParen :: rest)) := run_of_step rfl _
        _ = _ := run_of_found rfl rest
  | index key =>
      rw [Link.follow_index]
      calc _ = (⟨.key value, done, outer⟩ : Walk).run ctx
            (.ofList (.string key :: .rightBracket :: rest)) :=
              run_of_step rfl _
        _ = (⟨.keyed value key, done, outer⟩ : Walk).run ctx
            (.ofList (.rightBracket :: rest)) := run_of_step rfl _
        _ = _ := run_of_found rfl rest

/-- A chain is over where a sum goes on or ends. -/
def EndsChain (rest : List Token) : Prop :=
  ∀ token ∈ rest.head?, token = .plus ∨ token = .rightParen

theorem EndsChain.head?_ne {rest : List Token} (h : EndsChain rest) :
    rest.head? ≠ some .leftParen := by
  intro hhead
  rcases h .leftParen hhead with heq | heq
  · cases heq
  · cases heq

/-- After a chain its text is put behind what is done. -/
theorem run_after (value : Operand) (done : String) (outer : List String)
    {rest : List Token} (h : EndsChain rest) :
    (⟨.after value, done, outer⟩ : Walk).run ctx (.ofList rest) =
      value.render >>= fun text =>
        (⟨.after (.text (done ++ text)), "", outer⟩ : Walk).run ctx
          (.ofList rest) := by
  have hshown : ∀ text, (⟨.after (.text (done ++ text)), "", outer⟩ :
      Walk).finishOperand (.text (done ++ text)) = .ok (done ++ text) := by
    intro text
    simp [finishOperand, Operand.render, Except.map]
  rcases rest with _ | ⟨token, rest⟩
  · simp only [Tokens.ofList, run, finish, finishAfter, hshown]
    rw [finishOperand]
    cases value.render <;> rfl
  · simp only [run_cons]
    rcases h token rfl with rfl | rfl
    · simp only [step, stepAfter, hshown]
      rw [finishOperand]
      cases value.render <;> rfl
    · simp only [step, stepAfter, hshown]
      rw [finishOperand]
      cases value.render <;> rfl

mutual

/-- A walk over a sum puts its text behind what is done. -/
theorem run_sum (sum : SumTree) (done : String) (outer : List String)
    (hdepth : outer.length + sum.depth ≤ parenthesisLimit) {rest : List Token}
    (h : EndsChain rest) :
    (⟨.operand, done, outer⟩ : Walk).run ctx (.ofList (sum.tokens ++ rest)) =
      sum.text ctx >>= fun text =>
        (⟨.after (.text (done ++ text)), "", outer⟩ : Walk).run ctx
          (.ofList rest) := by
  cases sum with
  | first chain =>
      rw [SumTree.tokens, run_chain chain done outer hdepth h.head?_ne,
        SumTree.text_first, ChainTree.text]
      simp only [run_after _ done outer h, Operand.render_eq, bind_assoc]
  | plus sum chain =>
      rw [SumTree.depth] at hdepth
      have hplus : EndsChain (.plus :: (chain.tokens ++ rest)) := by
        intro token htoken
        cases htoken
        exact .inl rfl
      have hstep : ∀ before : String,
          (⟨.after (.text (done ++ before)), "", outer⟩ : Walk).run ctx
              (.ofList (.plus :: (chain.tokens ++ rest))) =
            chain.text ctx >>= fun text =>
              (⟨.after (.text (done ++ (before ++ text))), "", outer⟩ :
                Walk).run ctx (.ofList rest) := by
        intro before
        have hmoved : (⟨.after (.text (done ++ before)), "", outer⟩ :
            Walk).step ctx (.ok ()) .plus =
              .ok ⟨.operand, done ++ before, outer⟩ := by
          simp [step, stepAfter, finishOperand, Operand.render, Except.map,
            bind, Except.bind, pure, Except.pure]
        rw [run_of_step hmoved, run_chain chain _ outer (by omega) h.head?_ne,
          ChainTree.text]
        simp only [run_after _ (done ++ before) outer h, Operand.render_eq,
          bind_assoc, String.append_assoc]
      rw [SumTree.tokens, List.append_assoc, List.cons_append,
        run_sum sum done outer (by omega) hplus, SumTree.text_plus]
      simp only [hstep, bind_assoc, pure_bind]

/-- A walk over a chain comes to its value. -/
theorem run_chain (chain : ChainTree) (done : String) (outer : List String)
    (hdepth : outer.length + chain.depth ≤ parenthesisLimit)
    {rest : List Token} (h : rest.head? ≠ some .leftParen) :
    (⟨.operand, done, outer⟩ : Walk).run ctx (.ofList (chain.tokens ++ rest)) =
      chain.value ctx >>= fun value =>
        (⟨.after value, done, outer⟩ : Walk).run ctx (.ofList rest) := by
  cases chain with
  | primary primary => exact run_primary primary done outer hdepth rest
  | link chain link =>
      have hlink : (link.tokens ++ rest).head? ≠ some .leftParen := by
        cases link <;> simp [Link.tokens]
      rw [ChainTree.tokens, List.append_assoc,
        run_chain chain done outer hdepth hlink, ChainTree.value]
      simp only [run_link _ link done outer h, bind_assoc]

/-- A walk over a primary comes to its value. -/
theorem run_primary (primary : PrimaryTree) (done : String)
    (outer : List String)
    (hdepth : outer.length + primary.depth ≤ parenthesisLimit)
    (rest : List Token) :
    (⟨.operand, done, outer⟩ : Walk).run ctx
        (.ofList (primary.tokens ++ rest)) =
      primary.value ctx >>= fun value =>
        (⟨.after value, done, outer⟩ : Walk).run ctx (.ofList rest) := by
  cases primary with
  | string text => exact run_of_step rfl rest
  | environment => exact run_of_step rfl rest
  | var name =>
      rw [PrimaryTree.value, ← Operand.ofVariable_eq]
      calc _ = (⟨.variable, done, outer⟩ : Walk).run ctx
            (.ofList (.identifier name :: rest)) := run_of_step rfl _
        _ = _ := run_of_found rfl rest
  | component name =>
      rw [PrimaryTree.value, ← Operand.ofComponent_eq]
      calc _ = (⟨.component, done, outer⟩ : Walk).run ctx
            (.ofList (.identifier name :: rest)) := run_of_step rfl _
        _ = _ := run_of_found rfl rest
  | group sum =>
      rw [PrimaryTree.depth] at hdepth
      have hopen : (⟨.operand, done, outer⟩ : Walk).step ctx (.ok ())
          .leftParen = .ok ⟨.operand, "", done :: outer⟩ := by
        have hne : outer.length ≠ parenthesisLimit := by omega
        simp [step, stepOperand, hne, bind, Except.bind, pure, Except.pure]
      have hclose : EndsChain (.rightParen :: rest) := by
        intro token htoken
        cases htoken
        exact .inr rfl
      have hdeeper : (done :: outer).length + sum.depth ≤ parenthesisLimit := by
        rw [List.length_cons]
        omega
      have hstep : ∀ text : String,
          (⟨.after (.text ("" ++ text)), "", done :: outer⟩ : Walk).run ctx
              (.ofList (.rightParen :: rest)) =
            (⟨.after (.text text), done, outer⟩ : Walk).run ctx
              (.ofList rest) := by
        intro text
        apply run_of_step
        simp [step, stepAfter, finishOperand, Operand.render, Except.map,
          bind, Except.bind, pure, Except.pure]
      rw [PrimaryTree.tokens, List.cons_append, List.cons_append,
        List.append_assoc, run_of_step hopen]
      change run ctx _ (.ofList (sum.tokens ++ .rightParen :: rest)) = _
      rw [run_sum sum "" (done :: outer) hdeeper hclose, PrimaryTree.value]
      simp only [hstep]
      cases sum.text ctx <;> rfl

end

end Walk

/-- Tokens before a chain, with some groups open. -/
inductive Opened : List Token → Nat → Prop
  | start : Opened [] 0
  | plus {before : List Token} {count : Nat} (h : Opened before count)
      {chain : ChainTree} (hdepth : count + chain.depth ≤ parenthesisLimit) :
      Opened (before ++ chain.tokens ++ [.plus]) count
  | group {before : List Token} {count : Nat} (h : Opened before count)
      (hcount : count < parenthesisLimit) :
      Opened (before ++ [.leftParen]) (count + 1)

/-- Tokens up to the end of a chain, with some groups open. -/
def Chained (tokens : List Token) (count : Nat) : Prop :=
  ∃ before chain, Opened before count ∧
    count + ChainTree.depth chain ≤ parenthesisLimit ∧
    tokens = before ++ chain.tokens

/-- What stands before a sum: nothing, or the parenthesis that opens it. -/
def Enclosed (before : List Token) (count : Nat) : Prop :=
  before = [] ∧ count = 0 ∨ ∃ outer fewer, Opened outer fewer ∧
    count = fewer + 1 ∧ before = outer ++ [.leftParen]

/-- A chain is the last one of a sum. -/
theorem Opened.exists_sum {before : List Token} {count : Nat}
    (h : Opened before count) {chain : ChainTree}
    (hdepth : count + chain.depth ≤ parenthesisLimit) :
    ∃ lead sum, Enclosed lead count ∧
      count + SumTree.depth sum ≤ parenthesisLimit ∧
      before ++ chain.tokens = lead ++ sum.tokens := by
  induction h generalizing chain with
  | start => exact ⟨[], .first chain, .inl ⟨rfl, rfl⟩, hdepth, rfl⟩
  | @plus before count h last hlast ih =>
      obtain ⟨lead, sum, hlead, hsum, htokens⟩ := ih hlast
      refine ⟨lead, .plus sum chain, hlead, ?_, ?_⟩
      · rw [SumTree.depth]
        omega
      · rw [htokens, SumTree.tokens]
        simp
  | @group before count h hcount ih =>
      exact ⟨before ++ [.leftParen], .first chain,
        .inr ⟨before, count, h, rfl, rfl⟩, hdepth, rfl⟩

theorem Opened.le {before : List Token} {count : Nat}
    (h : Opened before count) : count ≤ parenthesisLimit := by
  induction h with
  | start => exact Nat.zero_le parenthesisLimit
  | plus h hdepth ih => exact ih
  | group h hcount ih => exact hcount

theorem Opened.chained {before : List Token} {count : Nat}
    (h : Opened before count) (primary : PrimaryTree)
    (hdepth : primary.depth = 0) :
    Chained (before ++ primary.tokens) count := by
  refine ⟨before, .primary primary, h, ?_, rfl⟩
  rw [ChainTree.depth, hdepth]
  exact h.le

namespace Chained

theorem link {tokens : List Token} {count : Nat} (h : Chained tokens count)
    (link : Link) : Chained (tokens ++ link.tokens) count := by
  obtain ⟨before, chain, hbefore, hdepth, rfl⟩ := h
  exact ⟨before, .link chain link, hbefore, hdepth,
    by rw [ChainTree.tokens, List.append_assoc]⟩

theorem plus {tokens : List Token} {count : Nat} (h : Chained tokens count) :
    Opened (tokens ++ [.plus]) count := by
  obtain ⟨before, chain, hbefore, hdepth, rfl⟩ := h
  exact hbefore.plus hdepth

/-- A parenthesis that closes makes a group of the sum before it. -/
theorem close {tokens : List Token} {count : Nat}
    (h : Chained tokens (count + 1)) :
    Chained (tokens ++ [.rightParen]) count := by
  obtain ⟨before, chain, hbefore, hdepth, rfl⟩ := h
  obtain ⟨lead, sum, hlead, hsum, htokens⟩ := hbefore.exists_sum hdepth
  rcases hlead with ⟨-, hzero⟩ | ⟨outer, fewer, houter, hcount, rfl⟩
  · omega
  · obtain rfl : count = fewer := by omega
    refine ⟨outer, .primary (.group sum), houter, ?_, ?_⟩
    · rw [ChainTree.depth, PrimaryTree.depth]
      omega
    · rw [htokens, ChainTree.tokens, PrimaryTree.tokens]
      simp

/-- Without an open group the tokens are those of a sum. -/
theorem exists_sum {tokens : List Token} (h : Chained tokens 0) :
    ∃ sum, SumTree.depth sum ≤ parenthesisLimit ∧ tokens = sum.tokens := by
  obtain ⟨before, chain, hbefore, hdepth, rfl⟩ := h
  obtain ⟨lead, sum, hlead, hsum, htokens⟩ := hbefore.exists_sum hdepth
  rcases hlead with ⟨rfl, -⟩ | ⟨outer, fewer, -, hcount, -⟩
  · exact ⟨sum, by omega, htokens⟩
  · omega

end Chained

namespace Walk

/-- The tokens that a walk has taken, by the place at which it stands. -/
def Reads (tokens : List Token) (w : Walk) : Prop :=
  let count := w.outer.length
  match w.position with
  | .operand => Opened tokens count
  | .variable => ∃ before, Opened before count ∧ tokens = before ++ [.hash]
  | .component => ∃ before, Opened before count ∧ tokens = before ++ [.at]
  | .after _ => Chained tokens count
  | .member _ => ∃ before, Chained before count ∧ tokens = before ++ [.dot]
  | .named _ name => ∃ before, Chained before count ∧
      tokens = before ++ [.dot, .identifier name]
  | .arguments _ name => ∃ before, Chained before count ∧
      tokens = before ++ [.dot, .identifier name, .leftParen]
  | .key _ => ∃ before, Chained before count ∧ tokens = before ++ [.leftBracket]
  | .keyed _ key => ∃ before, Chained before count ∧
      tokens = before ++ [.leftBracket, .string key]

variable {w moved : Walk} {ready : Except ExpressionError Unit}
  {token : Token} {tokens : List Token}

/-- What a token can do at the place of an operand. -/
theorem stepOperand_cases (h : w.stepOperand ready token = .ok moved) :
    (∃ text, token = .string text ∧ moved = w.goTo (.after (.text text))) ∨
      (token = .hash ∧ moved = w.goTo .variable) ∨
      (token = .at ∧ moved = w.goTo .component) ∨
      (token = .identifier "env" ∧ moved = w.goTo (.after .environment)) ∨
      (token = .leftParen ∧ w.outer.length ≠ parenthesisLimit ∧
        moved = ⟨.operand, "", w.done :: w.outer⟩) := by
  unfold stepOperand at h
  obtain ⟨-, -, htoken⟩ := Outcome.bind_eq_ok_iff.1 h
  split at htoken
  · rename_i text
    cases htoken
    exact .inl ⟨text, rfl, rfl⟩
  · cases htoken
    exact .inr (.inl ⟨rfl, rfl⟩)
  · cases htoken
    exact .inr (.inr (.inl ⟨rfl, rfl⟩))
  · split at htoken
    · cases htoken
    · rename_i hlimit
      cases htoken
      exact .inr (.inr (.inr (.inr ⟨rfl, hlimit, rfl⟩)))
  · split at htoken
    · rename_i hname
      cases htoken
      exact .inr (.inr (.inr (.inl ⟨by rw [hname], rfl⟩)))
    · cases htoken
  · cases htoken

/-- What a token can do after an operand. -/
theorem stepAfter_cases {value : Operand}
    (h : w.stepAfter value ready token = .ok moved) :
    (token = .dot ∧ moved = w.goTo (.member value)) ∨
      (token = .leftBracket ∧ moved = w.goTo (.key value)) ∨
      (token = .plus ∧ ∃ done, moved = ⟨.operand, done, w.outer⟩) ∨
      (token = .rightParen ∧ ∃ text before outer,
        w.outer = before :: outer ∧ moved = ⟨.after text, before, outer⟩) := by
  unfold stepAfter at h
  split at h
  · obtain ⟨-, -, hmoved⟩ := Outcome.bind_eq_ok_iff.1 h
    cases hmoved
    exact .inl ⟨rfl, rfl⟩
  · obtain ⟨-, -, hmoved⟩ := Outcome.bind_eq_ok_iff.1 h
    cases hmoved
    exact .inr (.inl ⟨rfl, rfl⟩)
  · obtain ⟨done, -, hready⟩ := Outcome.bind_eq_ok_iff.1 h
    obtain ⟨-, -, hmoved⟩ := Outcome.bind_eq_ok_iff.1 hready
    cases hmoved
    exact .inr (.inr (.inl ⟨rfl, done, rfl⟩))
  · obtain ⟨done, -, hclose⟩ := Outcome.bind_eq_ok_iff.1 h
    cases houter : w.outer with
    | nil =>
        rw [houter] at hclose
        cases hclose
    | cons before outer =>
        rw [houter] at hclose
        cases token with
        | rightParen =>
            obtain ⟨-, -, hmoved⟩ := Outcome.bind_eq_ok_iff.1 hclose
            cases hmoved
            exact .inr (.inr (.inr ⟨rfl, .text done, before, outer, rfl, rfl⟩))
        | _ => cases hclose

theorem Reads.stepOperand (h : Opened tokens w.outer.length)
    (hstep : w.stepOperand ready token = .ok moved) :
    moved.Reads (tokens ++ [token]) := by
  rcases stepOperand_cases hstep with ⟨text, rfl, rfl⟩ | ⟨rfl, rfl⟩ |
    ⟨rfl, rfl⟩ | ⟨rfl, rfl⟩ | ⟨rfl, hlimit, rfl⟩
  · exact h.chained (.string text) rfl
  · exact ⟨tokens, h, rfl⟩
  · exact ⟨tokens, h, rfl⟩
  · exact h.chained .environment rfl
  · exact h.group (Nat.lt_of_le_of_ne h.le hlimit)

theorem Reads.stepAfter {value : Operand} (h : Chained tokens w.outer.length)
    (hstep : w.stepAfter value ready token = .ok moved) :
    moved.Reads (tokens ++ [token]) := by
  rcases stepAfter_cases hstep with ⟨rfl, rfl⟩ | ⟨rfl, rfl⟩ |
    ⟨rfl, done, rfl⟩ | ⟨rfl, text, before, outer, houter, rfl⟩
  · exact ⟨tokens, h, rfl⟩
  · exact ⟨tokens, h, rfl⟩
  · exact h.plus
  · rw [houter, List.length_cons] at h
    exact h.close

/-- A token that is taken keeps what a walk has read. -/
theorem Reads.step {ctx : Context} (h : w.Reads tokens)
    (hstep : w.step ctx ready token = .ok moved) :
    moved.Reads (tokens ++ [token]) := by
  obtain ⟨position, done, outer⟩ := w
  cases position with
  | operand => exact Reads.stepOperand h hstep
  | after value => exact Reads.stepAfter h hstep
  | «variable» =>
      obtain ⟨before, hbefore, rfl⟩ := h
      cases token with
      | identifier name =>
          obtain ⟨-, -, hvalue⟩ := Outcome.bind_eq_ok_iff.1 hstep
          obtain ⟨value, -, hmoved⟩ := Outcome.bind_eq_ok_iff.1 hvalue
          cases hmoved
          rw [List.append_assoc]
          exact hbefore.chained (.var name) rfl
      | _ => cases hstep
  | component =>
      obtain ⟨before, hbefore, rfl⟩ := h
      cases token with
      | identifier name =>
          obtain ⟨-, -, hvalue⟩ := Outcome.bind_eq_ok_iff.1 hstep
          obtain ⟨value, -, hmoved⟩ := Outcome.bind_eq_ok_iff.1 hvalue
          cases hmoved
          rw [List.append_assoc]
          exact hbefore.chained (.component name) rfl
      | _ => cases hstep
  | member value =>
      obtain ⟨before, hbefore, rfl⟩ := h
      cases token with
      | identifier name =>
          obtain ⟨-, -, hmoved⟩ := Outcome.bind_eq_ok_iff.1 hstep
          cases hmoved
          exact ⟨before, hbefore, by simp⟩
      | _ => cases hstep
  | named value name =>
      obtain ⟨before, hbefore, rfl⟩ := h
      by_cases hparen : token = .leftParen
      · subst hparen
        obtain ⟨-, -, hmoved⟩ := Outcome.bind_eq_ok_iff.1 hstep
        cases hmoved
        exact ⟨before, hbefore, by simp⟩
      · have hafter : ∃ found, (⟨.named value name, done, outer⟩ :
            Walk).stepAfter found ready token = .ok moved := by
          cases token with
          | leftParen => exact absurd rfl hparen
          | _ =>
              obtain ⟨found, -, hfound⟩ := Outcome.bind_eq_ok_iff.1 hstep
              exact ⟨found, hfound⟩
        obtain ⟨found, hfound⟩ := hafter
        exact Reads.stepAfter (hbefore.link (.member name)) hfound
  | arguments value name =>
      obtain ⟨before, hbefore, rfl⟩ := h
      cases token with
      | rightParen =>
          obtain ⟨-, -, hvalue⟩ := Outcome.bind_eq_ok_iff.1 hstep
          obtain ⟨found, -, hmoved⟩ := Outcome.bind_eq_ok_iff.1 hvalue
          cases hmoved
          rw [List.append_assoc]
          exact hbefore.link (.call name)
      | _ => cases hstep
  | key value =>
      obtain ⟨before, hbefore, rfl⟩ := h
      cases token with
      | string key =>
          obtain ⟨-, -, hmoved⟩ := Outcome.bind_eq_ok_iff.1 hstep
          cases hmoved
          exact ⟨before, hbefore, by simp⟩
      | _ =>
          obtain ⟨-, -, hmoved⟩ := Outcome.bind_eq_ok_iff.1 hstep
          cases hmoved
  | keyed value key =>
      obtain ⟨before, hbefore, rfl⟩ := h
      cases token with
      | rightBracket =>
          obtain ⟨-, -, hvalue⟩ := Outcome.bind_eq_ok_iff.1 hstep
          obtain ⟨found, -, hmoved⟩ := Outcome.bind_eq_ok_iff.1 hvalue
          cases hmoved
          rw [List.append_assoc]
          exact hbefore.link (.index key)
      | _ => cases hstep

/-- A walk that comes to its end after a chain has read a sum. -/
theorem exists_sum_of_finishAfter {value : Operand} {text : String}
    (h : Chained tokens w.outer.length)
    (hfinish : w.finishAfter value = .ok text) :
    ∃ sum : SumTree, sum.depth ≤ parenthesisLimit ∧ tokens = sum.tokens := by
  obtain ⟨done, -, hdone⟩ := Outcome.bind_eq_ok_iff.1 hfinish
  cases houter : w.outer with
  | nil =>
      rw [houter] at h
      exact h.exists_sum
  | cons before outer =>
      rw [houter] at hdone
      cases hdone

/-- A walk that comes to its end has read a sum. -/
theorem Reads.exists_sum {ctx : Context} {text : String} (h : w.Reads tokens)
    (hfinish : w.finish ctx = .ok text) :
    ∃ sum : SumTree, sum.depth ≤ parenthesisLimit ∧ tokens = sum.tokens := by
  obtain ⟨position, done, outer⟩ := w
  cases position with
  | after value => exact exists_sum_of_finishAfter h hfinish
  | named value name =>
      obtain ⟨before, hbefore, rfl⟩ := h
      obtain ⟨found, -, hfound⟩ := Outcome.bind_eq_ok_iff.1 hfinish
      exact exists_sum_of_finishAfter (hbefore.link (.member name)) hfound
  | _ => cases hfinish

/-- The tokens of a walk that comes to an end are those of a sum. -/
theorem Reads.run {ctx : Context} {more : Tokens} {text : String}
    (h : w.Reads tokens) (hrun : w.run ctx more = .ok text) :
    ∃ rest, more = .ofList rest ∧
      ∃ sum : SumTree, sum.depth ≤ parenthesisLimit ∧
        tokens ++ rest = sum.tokens := by
  induction more generalizing w tokens with
  | done =>
      refine ⟨[], rfl, ?_⟩
      rw [List.append_nil]
      exact h.exists_sum hrun
  | fault error => cases hrun
  | next token more ih =>
      obtain ⟨moved, hstep, hmoved⟩ := Outcome.bind_eq_ok_iff.1 hrun
      obtain ⟨rest, rfl, sum, hdepth, htokens⟩ := ih (h.step hstep) hmoved
      refine ⟨token :: rest, rfl, sum, hdepth, ?_⟩
      rw [← htokens, List.append_assoc, List.singleton_append]

end Walk

/-- A text that has a value is written from a sentence. -/
theorem exists_sum_of_evaluate {ctx : Context} {source : List Char}
    {text : String} (h : evaluate ctx source = .ok text) :
    ∃ sum : SumTree, sum.depth ≤ parenthesisLimit ∧
      Tokens.lex source = .ofList sum.tokens := by
  have hstart : Walk.start.Reads [] := Opened.start
  obtain ⟨rest, hlex, sum, hdepth, htokens⟩ := hstart.run h
  rw [List.nil_append] at htokens
  exact ⟨sum, hdepth, by rw [hlex, htokens]⟩

/-- A sentence is read from every text in which it is written. -/
theorem SumTree.lex_of_written (sum : SumTree) {source : List Char}
    (h : Tokens.Written sum.tokens source) :
    Tokens.lex source = .ofList sum.tokens := by
  have hnone : ∀ next ∈ ([] : List Token).head?, next.isSign = true := by simp
  have hnil : Tokens.Parted [] := trivial
  have hparted := sum.parted hnil hnone
  rw [List.append_nil] at hparted
  exact (Tokens.lex_eq_ofList_iff hparted).2 h

/-- A text in which a sentence is written has the text of the sentence. -/
theorem evaluate_of_written (ctx : Context) {sum : SumTree}
    (hdepth : sum.depth ≤ parenthesisLimit) {source : List Char}
    (h : Tokens.Written sum.tokens source) :
    evaluate ctx source = sum.text ctx := by
  have hends : Walk.EndsChain [] := by simp [Walk.EndsChain]
  have hrun : Walk.start.run ctx (.ofList (sum.tokens ++ [])) = _ :=
    Walk.run_sum sum "" [] (by simpa using hdepth) hends
  rw [List.append_nil] at hrun
  rw [evaluate, sum.lex_of_written h, hrun]
  cases sum.text ctx with
  | error error => rfl
  | ok text =>
      simp [Tokens.ofList, Walk.run, Walk.finish, Walk.finishAfter,
        Walk.finishOperand, Operand.render, Except.map, bind, Except.bind,
        pure, Except.pure]

/-- Expressions have exactly the meaning of their grammar.  What has a text is
written from a sentence with at most 32 parentheses open at once, the empty
ones of methods apart, and that text is put together from the texts of the
operands.  However such a sentence is written, it has that text or, if some part
of it has no value, the error of the first such part.  No text that opens more
parentheses than that has a value. -/
theorem evaluate_exact (ctx : Context) (source : List Char) :
    (∀ text, evaluate ctx source = .ok text →
      ∃ sum : SumTree, Tokens.lex source = .ofList sum.tokens ∧
        Tokens.Written sum.tokens source ∧
        Tokens.mostOpen 0 (Tokens.withoutEmptyPairs sum.tokens) ≤ 32 ∧
        (sum.chains.mapM (ChainTree.text ctx)).map String.join = .ok text) ∧
    (∀ sum : SumTree, Tokens.Written sum.tokens source →
      Tokens.mostOpen 0 (Tokens.withoutEmptyPairs sum.tokens) ≤ 32 →
      evaluate ctx source =
        (sum.chains.mapM (ChainTree.text ctx)).map String.join) ∧
    (32 < Tokens.mostOpen 0
        (Tokens.withoutEmptyPairs (Tokens.lex source).list) →
      ∀ text, evaluate ctx source ≠ .ok text) := by
  refine ⟨?_, ?_, ?_⟩
  · intro text htext
    obtain ⟨sum, hdepth, hlex⟩ := exists_sum_of_evaluate htext
    have hwritten := Tokens.written_of_lex hlex
    refine ⟨sum, hlex, hwritten, ?_, ?_⟩
    · rw [sum.mostOpen_eq_depth]
      exact hdepth
    · rw [← sum.text_eq_join, ← evaluate_of_written ctx hdepth hwritten]
      exact htext
  · intro sum hwritten hopen
    rw [sum.mostOpen_eq_depth] at hopen
    rw [evaluate_of_written ctx hopen hwritten, sum.text_eq_join]
  · intro hopen text htext
    obtain ⟨sum, hdepth, hlex⟩ := exists_sum_of_evaluate htext
    rw [hlex, Tokens.list_ofList, sum.mostOpen_eq_depth] at hopen
    exact absurd hdepth (Nat.not_le_of_lt hopen)

/-- A region with a property and a component. -/
def shelfContext : Context :=
  ⟨.root "Orders", ⟨[("dir", "/data")], [], []⟩,
    [("shelf", .obj [("name", .str " A ")])]⟩

/-- A sum of a property and a group that is put in small letters. -/
def shelfSum : SumTree :=
  .plus (.first (.link (.primary .environment) (.index "dir")))
    (.link (.primary (.group
      (.plus (.first (.primary (.string "/'")))
        (.link (.link (.primary (.component "shelf")) (.member "name"))
          (.call "trim"))))) (.call "toLowerCase"))

/-- One way to write the sum, with blanks between some tokens. -/
def shelfSource : List Char :=
  "env[ 'dir' ] +('/'''+ @shelf.name.trim()).toLowerCase( )".toList

/-- An expression in that many groups. -/
def grouped (count : Nat) (inner : String) : List Char :=
  List.replicate count '(' ++ inner.toList ++ List.replicate count ')'

theorem evaluate_exact_shelf :
    evaluate shelfContext shelfSource = .ok "/data/'a" ∧
      (∃ sum : SumTree, Tokens.lex shelfSource = .ofList sum.tokens) ∧
      ∀ text, evaluate shelfContext (grouped 33 "'x'") ≠ .ok text := by
  have hshelf := evaluate_exact shelfContext shelfSource
  have hwritten : Tokens.Written shelfSum.tokens shelfSource :=
    Tokens.written_of_lex (by decide +kernel)
  have hvalue : evaluate shelfContext shelfSource = .ok "/data/'a" := by
    rw [hshelf.2.1 shelfSum hwritten (by decide +kernel)]
    exact Outcome.eq_ok_of_toOption (by decide +kernel)
  obtain ⟨sum, hlex, -⟩ := hshelf.1 _ hvalue
  have hdeep := (evaluate_exact shelfContext (grouped 33 "'x'")).2.2
  exact ⟨hvalue, ⟨sum, hlex⟩, hdeep (by decide +kernel)⟩

/-- The empty pair of a method is one more pair of parentheses, which does not
count. -/
theorem evaluate_grouped_call :
    evaluate shelfContext (grouped 32 "'x'.trim()") = .ok "x" ∧
      32 < Tokens.mostOpen 0 (Tokens.lex (grouped 32 "'x'.trim()")).list :=
  ⟨Outcome.eq_ok_of_toOption (by decide +kernel), by decide +kernel⟩

end RegionSnapshot
