/-
Defaults of properties.  A default has no quotes of its own: it is put in as it
is written.  But the scan for the closing brace counts the quotes of every
placeholder.  So a default is taken as it is written exactly if it has an even
number of quotes.  With an odd number the placeholder goes on behind its brace,
to the next one that an open quote does not hide.
-/
import RegionSnapshot.Proofs.Expression.Bodies

namespace RegionSnapshot

/-- The value of a property, and without any the default. -/
def Environment.propertyOr (env : Environment) (name default : List Char) :
    String :=
  (env.property? (.ofList name)).getD (.ofList default)

/-- A name that stands in a placeholder as it is: without outer blanks, and
without the signs that end it or hide the end. -/
structure PlainName (name : List Char) : Prop where
  trimmed : Text.trimChars name = name
  no_colon : ':' ∉ name
  no_brace : '\x7d' ∉ name
  no_quote : Tokens.quote ∉ name

/-- The name ends at its colon; what follows is the default, whatever
characters it has. -/
theorem Marker.propertyValue_default (env : Environment) {name : List Char}
    (h : PlainName name) (default : List Char) :
    propertyValue env (name ++ ':' :: default) =
      .ok (env.propertyOr name default) := by
  rw [propertyValue, Text.cutChars?_append h.no_colon]
  dsimp only
  rw [h.trimmed, Environment.propertyOr]
  cases env.property? (.ofList name) with
  | none => rfl
  | some value => rfl

namespace Template

/-- The placeholder of a property with a default. -/
def defaulted (name default : List Char) : String :=
  placeholder .property (name ++ ':' :: default)

variable {name default : List Char}

/-- Only the default can leave a quote open. -/
theorem splitBody?_defaulted (hname : PlainName name)
    (hdefault : '\x7d' ∉ default) (more : List Char) :
    splitBody? false (name ++ ':' :: (default ++ more)) =
      (splitBody? (decide (default.count Tokens.quote % 2 = 1)) more).map
        (fun parts => (name ++ ':' :: (default ++ parts.1), parts.2)) := by
  have hbrace : '\x7d' ∉ name ++ ':' :: default := by
    simp [hname.no_brace, hdefault]
  have hcolon : ':' ≠ Tokens.quote := by decide
  have hcount : (name ++ ':' :: default).count Tokens.quote =
      default.count Tokens.quote := by
    rw [List.count_append, List.count_eq_zero.2 hname.no_quote, Nat.zero_add,
      List.count_cons_of_ne hcolon]
  have hsplit := splitBody?_append hbrace false more
  rw [quotedBehind_eq, Bool.false_xor, hcount] at hsplit
  simpa using hsplit

/-- The placeholder ends at the first brace behind its default that is not
hidden; all that stands before that brace is the default. -/
theorem expand_defaulted (ctx : Context) (hname : PlainName name)
    (hdefault : '\x7d' ∉ default) (rest : String) :
    expand ctx (defaulted name default ++ rest) =
      match splitBody? (decide (default.count Tokens.quote % 2 = 1))
          ('\x7d' :: rest.toList) with
      | none => .error (.unterminatedTemplate 0)
      | some (more, after) =>
          resultBehind (defaulted name (default ++ more)).utf8ByteSize
            (ctx.environment.propertyOr name (default ++ more))
            (expand ctx (.ofList after)) := by
  have hwhole : defaulted name default ++ rest =
      .ofList (Marker.property.char :: '\x7b' ::
        (name ++ ':' :: (default ++ '\x7d' :: rest.toList))) := by
    rw [← String.toList_inj]
    simp [defaulted, placeholder]
  rw [hwhole, expand_marked, splitBody?_defaulted hname hdefault]
  cases splitBody? (decide (default.count Tokens.quote % 2 = 1))
      ('\x7d' :: rest.toList) with
  | none => rfl
  | some parts =>
      obtain ⟨more, after⟩ := parts
      dsimp only [Option.map_some]
      rw [Marker.value,
        Marker.propertyValue_default ctx.environment hname]
      rfl

/-- A default without closing brace is taken as it is written, whatever stands
behind the placeholder, exactly if it has an even number of quotes.  With an odd
number its own brace is hidden.  Then the default goes on to the next brace that
is not; without one the placeholder is reported as open, even if the property is
set. -/
theorem expand_default_iff (ctx : Context) (hname : PlainName name)
    (hdefault : '\x7d' ∉ default) :
    ((∀ rest, expand ctx (defaulted name default ++ rest) =
        resultBehind (defaulted name default).utf8ByteSize
          (ctx.environment.propertyOr name default) (expand ctx rest)) ↔
      default.count Tokens.quote % 2 = 0) ∧
    (default.count Tokens.quote % 2 = 1 → ∀ rest : String,
      expand ctx (defaulted name default ++ rest) =
        match splitBody? true rest.toList with
        | none => .error (.unterminatedTemplate 0)
        | some (more, after) =>
            resultBehind
              (defaulted name (default ++ '\x7d' :: more)).utf8ByteSize
              (ctx.environment.propertyOr name (default ++ '\x7d' :: more))
              (expand ctx (.ofList after))) := by
  refine ⟨⟨?_, ?_⟩, ?_⟩
  · intro hlaw
    rcases Nat.mod_two_eq_zero_or_one (default.count Tokens.quote) with
      heven | hodd
    · exact heven
    · -- with nothing behind it, the placeholder has no end
      have hopen := hlaw ""
      rw [expand_defaulted ctx hname hdefault, hodd] at hopen
      cases hopen
  · intro heven rest
    rw [expand_defaulted ctx hname hdefault, heven]
    simp [splitBody?]
  · intro hodd rest
    have hhidden : splitBody? true ('\x7d' :: rest.toList) =
        (splitBody? true rest.toList).map
          (fun parts => ('\x7d' :: parts.1, parts.2)) := by
      have hquote : '\x7d' ≠ Tokens.quote := by decide
      simp [splitBody?, hquote]
    rw [expand_defaulted ctx hname hdefault, decide_eq_true hodd, hhidden]
    cases splitBody? true rest.toList with
    | none => rfl
    | some parts => rfl

/-- A region without any properties. -/
def bareContext : Context :=
  ⟨.root "Orders", .empty, []⟩

/-- An apostrophe hides the brace behind it, up to the next apostrophe; two of
them hide nothing. -/
theorem expand_default_iff_apostrophe :
    PlainName "owner".toList ∧ '\x7d' ∉ "O'Brien".toList ∧
      '\x7d' ∉ "'me'".toList ∧
      expand bareContext
          (defaulted "owner".toList "O'Brien".toList ++ "/data.json") =
        .error (.unterminatedTemplate 0) ∧
      expand bareContext
          (defaulted "owner".toList "O'Brien".toList ++
            "/$\x7bcity:L'Aquila\x7d") =
        .ok "O'Brien\x7d/$\x7bcity:L'Aquila" ∧
      expand bareContext (defaulted "owner".toList "'me'".toList ++ "/#") =
        .ok "'me'/#" := by
  have hname : PlainName "owner".toList :=
    ⟨by decide +kernel, by decide, by decide, by decide⟩
  have hopen : '\x7d' ∉ "O'Brien".toList := by decide
  have hclosed : '\x7d' ∉ "'me'".toList := by decide
  have hodd := (expand_default_iff bareContext hname hopen).2 (by decide)
  have heven := (expand_default_iff bareContext hname hclosed).1.2 (by decide)
  refine ⟨hname, hopen, hclosed, ?_, ?_, ?_⟩
  · rw [hodd]
    rfl
  · rw [hodd]
    exact Outcome.eq_ok_of_toOption (by decide +kernel)
  · rw [heven]
    exact Outcome.eq_ok_of_toOption (by decide +kernel)

end Template
end RegionSnapshot
