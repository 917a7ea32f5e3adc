/-
Where errors of expressions come from.  A fault in the text of an expression is
one that its tokens end with; all other errors are about values or about a token
that stands where another kind is needed.  So no expression ends within a
placeholder.
-/
import RegionSnapshot.Proofs.Expression.Grammar
import RegionSnapshot.Proofs.Outcome

namespace RegionSnapshot

/-- An error that is found in a text before its meaning. -/
def ExpressionError.isFault : ExpressionError → Bool
  | .unexpectedCharacter _ _ => true
  | .unterminatedString _ => true
  | .unterminatedTemplate _ => true
  | _ => false

/-- The errors of a result are faults of the text only where `fault?` says
so. -/
def FaultsIn {β : Type} (fault? : Option ExpressionError)
    (x : Except ExpressionError β) : Prop :=
  ∀ e, x = .error e → e.isFault = false ∨ fault? = some e

namespace FaultsIn

variable {β γ : Type} {fault? : Option ExpressionError}

theorem ok (value : β) : FaultsIn fault? (.ok value) := by
  intro e h
  cases h

theorem error {e : ExpressionError} (h : e.isFault = false) :
    FaultsIn fault? (.error e : Except ExpressionError β) := by
  intro other hother
  cases hother
  exact .inl h

theorem bind {x : Except ExpressionError β}
    {f : β → Except ExpressionError γ} (hx : FaultsIn fault? x)
    (hf : ∀ value, FaultsIn fault? (f value)) : FaultsIn fault? (x >>= f) := by
  intro e h
  rcases Outcome.bind_eq_error_iff.1 h with hfirst | ⟨value, -, hsecond⟩
  · exact hx e hfirst
  · exact hf value e hsecond

theorem need {e : ExpressionError} (h : e.isFault = false)
    (value? : Option β) : FaultsIn fault? (need e value?) := by
  cases value? with
  | none => exact .error h
  | some value => exact .ok value

theorem map {x : Except ExpressionError β} (hx : FaultsIn fault? x)
    (f : β → γ) : FaultsIn fault? (x.map f) := by
  intro e h
  cases x with
  | error other =>
      cases h
      exact hx _ rfl
  | ok value => cases h

end FaultsIn

namespace Operand

variable {fault? : Option ExpressionError}

theorem faultsIn_render (value : Operand) : FaultsIn fault? value.render := by
  rw [render_eq]
  exact .need rfl _

theorem faultsIn_ofVariable (ctx : Context) (name : String) :
    FaultsIn fault? (ofVariable ctx name) := by
  rw [ofVariable_eq]
  exact .need rfl _

theorem faultsIn_ofComponent (ctx : Context) (name : String) :
    FaultsIn fault? (ofComponent ctx name) := by
  rw [ofComponent_eq]
  exact .need rfl _

theorem faultsIn_member (ctx : Context) (value : Operand) (name : String) :
    FaultsIn fault? (value.member ctx name) := by
  rw [member_eq]
  exact .need rfl _

theorem faultsIn_call (value : Operand) (method : String) :
    FaultsIn fault? (value.call method) := by
  rw [call_eq]
  exact .need rfl _

theorem faultsIn_index (ctx : Context) (value : Operand) (key : String) :
    FaultsIn fault? (value.index ctx key) := by
  cases value with
  | environment =>
      rw [← Link.follow_index, Link.follow]
      exact .need rfl _
  | text content => exact faultsIn_member ctx (.text content) key
  | json value => exact faultsIn_member ctx (.json value) key
  | region => exact faultsIn_member ctx .region key

end Operand

namespace Tokens

/-- The fault with which the tokens of a text end. -/
def fault? : Tokens → Option ExpressionError
  | .done => none
  | .fault error => some error
  | .next _ rest => rest.fault?

theorem faultsIn_ready (tokens : Tokens) :
    FaultsIn tokens.fault? tokens.ready := by
  cases tokens with
  | fault error =>
      intro e h
      cases h
      exact .inr rfl
  | _ => exact .ok ()

theorem fault?_close {before : Partial} {rest : Tokens} {e : ExpressionError}
    (h : (before.close rest).fault? = some e) :
    rest.fault? = some e ∨ ∃ start, e = .unterminatedString start := by
  cases before with
  | string start chars =>
      cases h
      exact .inr ⟨start, rfl⟩
  | _ => exact .inl h

/-- A text ends with a fault at a character or with an open string. -/
theorem fault?_lexFrom {offset : Nat} {before : Partial} {chars : List Char}
    {e : ExpressionError} (h : (lexFrom offset before chars).fault? = some e) :
    (∃ c place, e = .unexpectedCharacter c place) ∨
      ∃ start, e = .unterminatedString start := by
  induction chars generalizing offset before with
  | nil =>
      rcases fault?_close h with hdone | hstring
      · cases hdone
      · exact .inr hstring
  | cons c rest ih =>
      rw [lexFrom] at h
      split at h
      · exact ih h
      · rcases fault?_close h with hrest | hstring
        · repeat' split at hrest
          case h_2 =>
            cases hrest
            exact .inl ⟨c, offset, rfl⟩
          all_goals exact ih hrest
        · exact .inr hstring

end Tokens

namespace Walk

variable {ctx : Context} {ready : Except ExpressionError Unit}
  {fault? : Option ExpressionError}

theorem faultsIn_finishOperand (w : Walk) (value : Operand) :
    FaultsIn fault? (w.finishOperand value) :=
  value.faultsIn_render.map _

theorem faultsIn_stepOperand (w : Walk) (hready : FaultsIn fault? ready)
    (token : Token) : FaultsIn fault? (w.stepOperand ready token) := by
  apply hready.bind
  intro _
  split
  · exact .ok _
  · exact .ok _
  · exact .ok _
  · split
    · exact .error rfl
    · exact .ok _
  · split
    · exact .ok _
    · exact .error rfl
  · exact .error rfl

theorem faultsIn_stepAfter (w : Walk) (value : Operand)
    (hready : FaultsIn fault? ready) (token : Token) :
    FaultsIn fault? (w.stepAfter value ready token) := by
  have hshown : FaultsIn fault? (w.finishOperand value) :=
    w.faultsIn_finishOperand value
  unfold stepAfter
  split
  · exact hready.bind (fun _ => .ok _)
  · exact hready.bind (fun _ => .ok _)
  · exact hshown.bind (fun _ => hready.bind (fun _ => .ok _))
  · apply hshown.bind
    intro done
    split
    · exact hready.bind (fun _ => .ok _)
    · exact .error rfl
    · exact .error rfl

/-- One token brings no fault but that of the token after it. -/
theorem faultsIn_step (w : Walk) (hready : FaultsIn fault? ready)
    (token : Token) : FaultsIn fault? (w.step ctx ready token) := by
  unfold step
  split
  · exact w.faultsIn_stepOperand hready _
  · exact hready.bind (fun _ =>
      (Operand.faultsIn_ofVariable ctx _).bind (fun _ => .ok _))
  · exact .error rfl
  · exact hready.bind (fun _ =>
      (Operand.faultsIn_ofComponent ctx _).bind (fun _ => .ok _))
  · exact .error rfl
  · exact w.faultsIn_stepAfter _ hready _
  · exact hready.bind (fun _ => .ok _)
  · exact .error rfl
  · exact hready.bind (fun _ => .ok _)
  · exact (Operand.faultsIn_member ctx _ _).bind
      (fun _ => w.faultsIn_stepAfter _ hready _)
  · exact hready.bind (fun _ =>
      (Operand.faultsIn_call _ _).bind (fun _ => .ok _))
  · exact .error rfl
  · exact hready.bind (fun _ => .ok _)
  · exact hready.bind (fun _ => .error rfl)
  · exact hready.bind (fun _ =>
      (Operand.faultsIn_index ctx _ _).bind (fun _ => .ok _))
  · exact .error rfl

theorem faultsIn_finishAfter (w : Walk) (value : Operand) :
    FaultsIn fault? (w.finishAfter value) := by
  apply (w.faultsIn_finishOperand value).bind
  intro done
  split
  · exact .ok _
  · exact .error rfl

theorem faultsIn_finish (w : Walk) : FaultsIn fault? (w.finish ctx) := by
  unfold finish
  split
  case h_5 => exact w.faultsIn_finishAfter _
  case h_6 =>
    exact (Operand.faultsIn_member ctx _ _).bind
      (fun found => w.faultsIn_finishAfter found)
  all_goals exact .error rfl

/-- A walk brings no fault but the one that its tokens end with. -/
theorem faultsIn_run (w : Walk) (tokens : Tokens) :
    FaultsIn tokens.fault? (w.run ctx tokens) := by
  induction tokens generalizing w with
  | done => exact w.faultsIn_finish
  | fault error =>
      intro e h
      cases h
      exact .inr rfl
  | next token rest ih =>
      apply (w.faultsIn_step rest.faultsIn_ready token).bind
      intro moved
      exact ih moved

end Walk

theorem evaluate_ne_unterminatedTemplate (ctx : Context) (source : List Char)
    (offset : Nat) :
    evaluate ctx source ≠ .error (.unterminatedTemplate offset) := by
  intro h
  rcases Walk.faultsIn_run _ _ _ h with hplain | hfault
  · cases hplain
  · rcases Tokens.fault?_lexFrom hfault with ⟨c, place, heq⟩ | ⟨start, heq⟩
    · cases heq
    · cases heq

end RegionSnapshot
