/-
Written values read back.  Reading the text of a value gives the value again,
with each of its numbers as the number's own text is read, unless it nests too
deep.  The main equation runs the reader over the text of a value in the midst
of any containers; both the bound on nesting and the numbers that are not read
back come out of it.
-/
import RegionSnapshot.Proofs.Entries
import RegionSnapshot.Proofs.Json.Numbers
import RegionSnapshot.Proofs.Json.Strings

namespace RegionSnapshot
namespace Json

mutual

/-- How deep the containers of a value nest. -/
def depth : Json → Nat
  | .arr items => depthItems items + 1
  | .obj members => depthMembers members + 1
  | _ => 0

def depthItems : List Json → Nat
  | [] => 0
  | item :: rest => max item.depth (depthItems rest)

def depthMembers : List (String × Json) → Nat
  | [] => 0
  | (_, value) :: rest => max value.depth (depthMembers rest)

end

mutual

/-- Every number in the value is read back from its text. -/
def NumbersReadBack : Json → Prop
  | .num n => n.reread? = some n
  | .arr items => NumbersReadBackItems items
  | .obj members => NumbersReadBackMembers members
  | _ => True

def NumbersReadBackItems : List Json → Prop
  | [] => True
  | item :: rest => item.NumbersReadBack ∧ NumbersReadBackItems rest

def NumbersReadBackMembers : List (String × Json) → Prop
  | [] => True
  | (_, value) :: rest => value.NumbersReadBack ∧ NumbersReadBackMembers rest

end

mutual

/-- What the text of a value is read as where `room` more levels of containers
may be opened. -/
def reread? (room : Nat) : Json → Option Json
  | .num n => n.reread?.map .num
  | .arr items =>
      if room = 0 then none else (rereadItems? (room - 1) items).map .arr
  | .obj members =>
      if room = 0 then none else (rereadMembers? (room - 1) members).map .obj
  | json => some json

def rereadItems? (room : Nat) : List Json → Option (List Json)
  | [] => some []
  | item :: rest => do
      let first ← reread? room item
      let others ← rereadItems? room rest
      return first :: others

def rereadMembers? (room : Nat) :
    List (String × Json) → Option (List (String × Json))
  | [] => some []
  | (name, value) :: rest => do
      let first ← reread? room value
      let others ← rereadMembers? room rest
      return (name, first) :: others

end

mutual

/-- A value that fits the room and whose numbers are read back is read as
itself. -/
theorem reread?_eq_some {json : Json} {room : Nat} (hdepth : json.depth ≤ room)
    (hnumbers : json.NumbersReadBack) : reread? room json = some json := by
  match json with
  | .null | .bool _ | .str _ => rfl
  | .num n =>
      rw [NumbersReadBack] at hnumbers
      rw [reread?, hnumbers]
      rfl
  | .arr items =>
      rw [depth] at hdepth
      rw [NumbersReadBack] at hnumbers
      have hroom : room ≠ 0 := by omega
      have hitems : depthItems items ≤ room - 1 := by omega
      rw [reread?, if_neg hroom, rereadItems?_eq_some hitems hnumbers]
      rfl
  | .obj members =>
      rw [depth] at hdepth
      rw [NumbersReadBack] at hnumbers
      have hroom : room ≠ 0 := by omega
      have hmembers : depthMembers members ≤ room - 1 := by omega
      rw [reread?, if_neg hroom, rereadMembers?_eq_some hmembers hnumbers]
      rfl

theorem rereadItems?_eq_some {items : List Json} {room : Nat}
    (hdepth : depthItems items ≤ room)
    (hnumbers : NumbersReadBackItems items) :
    rereadItems? room items = some items := by
  match items with
  | [] => rfl
  | item :: rest =>
      rw [depthItems] at hdepth
      rw [NumbersReadBackItems] at hnumbers
      have hitem : item.depth ≤ room := by omega
      have hrest : depthItems rest ≤ room := by omega
      rw [rereadItems?, reread?_eq_some hitem hnumbers.1,
        rereadItems?_eq_some hrest hnumbers.2]
      rfl

theorem rereadMembers?_eq_some {members : List (String × Json)} {room : Nat}
    (hdepth : depthMembers members ≤ room)
    (hnumbers : NumbersReadBackMembers members) :
    rereadMembers? room members = some members := by
  match members with
  | [] => rfl
  | (name, value) :: rest =>
      rw [depthMembers] at hdepth
      rw [NumbersReadBackMembers] at hnumbers
      have hvalue : value.depth ≤ room := by omega
      have hrest : depthMembers rest ≤ room := by omega
      rw [rereadMembers?, reread?_eq_some hvalue hnumbers.1,
        rereadMembers?_eq_some hrest hnumbers.2]
      rfl

end

/-- The reader stands between two tokens. -/
def Phase.isBetween : Phase → Bool
  | .text _ _ _ => false
  | .number _ => false
  | .word _ _ => false
  | _ => true

/-- What follows a written value lets no number go on. -/
def EndsNumber (rest : List Char) : Prop :=
  ∃ c cs, rest = c :: cs ∧ isNumberChar c = false

namespace Reading

theorem step_space {c : Char} (h : isSpace c = true) {r : Reading}
    (hr : r.phase.isBetween = true) : step r c = .ok r := by
  obtain ⟨phase, stack⟩ := r
  cases phase <;> simp_all [step, stepBetween, Phase.isBetween]

theorem foldlM_step_spaces {blanks : List Char}
    (h : ∀ c ∈ blanks, isSpace c = true) {r : Reading}
    (hr : r.phase.isBetween = true) (rest : List Char) :
    (blanks ++ rest).foldlM step r = rest.foldlM step r := by
  induction blanks with
  | nil => rfl
  | cons c blanks ih =>
      rw [List.cons_append, List.foldlM_cons,
        step_space (h c List.mem_cons_self) hr]
      exact ih (fun d hd => h d (List.mem_cons_of_mem c hd))

theorem foldlM_step_newLine (depth : Nat) {r : Reading}
    (hr : r.phase.isBetween = true) (rest : List Char) :
    (newLine depth ++ rest).foldlM step r = rest.foldlM step r := by
  apply foldlM_step_spaces _ hr
  intro c hc
  rcases List.mem_cons.1 hc with rfl | hc
  · rfl
  · rw [List.eq_of_mem_replicate hc]
    rfl

theorem isBetween_settle (value : Json) (stack : List Frame) :
    (settle value stack).phase.isBetween = true := by
  rcases stack with _ | ⟨frame, outer⟩
  · rfl
  · cases frame <;> rfl

theorem endsNumber_newLine (depth : Nat) (rest : List Char) :
    EndsNumber (newLine depth ++ rest) :=
  ⟨'\n', _, rfl, rfl⟩

/-- A written value starts with a character that is no blank and closes no
array. -/
theorem prettyChars_head (depth : Nat) (json : Json) :
    ∃ c cs, prettyChars depth json = c :: cs ∧ isSpace c = false ∧ c ≠ ']' := by
  match json with
  | .null => exact ⟨'n', _, rfl, rfl, by decide⟩
  | .bool true => exact ⟨'t', _, rfl, rfl, by decide⟩
  | .bool false => exact ⟨'f', _, rfl, rfl, by decide⟩
  | .str s => exact ⟨'"', _, rfl, rfl, by decide⟩
  | .arr [] => exact ⟨'[', _, rfl, rfl, by decide⟩
  | .arr (_ :: _) => exact ⟨'[', _, rfl, rfl, by decide⟩
  | .obj [] => exact ⟨'\x7b', _, rfl, rfl, by decide⟩
  | .obj (_ :: _) => exact ⟨'\x7b', _, rfl, rfl, by decide⟩
  | .num n =>
      cases htext : n.text.toList with
      | nil => exact absurd htext n.toList_text_ne_nil
      | cons c cs =>
          have hc : isNumberChar c = true :=
            Number.isNumberChar_of_mem_text (htext ▸ List.mem_cons_self)
          refine ⟨c, cs, htext, isSpace_eq_false hc, ?_⟩
          rintro rfl
          simp [isNumberChar] at hc

theorem prettyItems_cons (depth : Nat) (item : Json) (items : List Json) :
    ∃ tail, prettyItems depth (item :: items) =
      newLine depth ++ (prettyChars depth item ++ tail) := by
  cases items with
  | nil => exact ⟨[], by simp [prettyItems]⟩
  | cons next more =>
      exact ⟨',' :: prettyItems depth (next :: more), by simp [prettyItems]⟩

/-- The first item of an array is read like any other one. -/
theorem foldlM_step_firstItem (depth : Nat) (item : Json) (items : List Json)
    (rest : List Char) (stack : List Frame) :
    (prettyItems depth (item :: items) ++ rest).foldlM step
        ⟨.firstItem, stack⟩ =
      (prettyItems depth (item :: items) ++ rest).foldlM step
        ⟨.value, .items [] :: stack⟩ := by
  obtain ⟨tail, htail⟩ := prettyItems_cons depth item items
  obtain ⟨c, cs, hchars, hspace, hclose⟩ := prettyChars_head depth item
  have hstep : step ⟨.firstItem, stack⟩ c =
      step ⟨.value, .items [] :: stack⟩ c := by
    simp [step, stepBetween, hspace]
  rw [htail, List.append_assoc, foldlM_step_newLine depth rfl,
    foldlM_step_newLine depth rfl, hchars, List.cons_append,
    List.cons_append, List.foldlM_cons, List.foldlM_cons, hstep]

/-- The name of a member is read up to the place of its value. -/
theorem foldlM_step_memberName {r : Reading} {done : List (String × Json)}
    {stack : List Frame} (hr : r.phase.isBetween = true)
    (hquote : step r '"' = .ok ⟨.text (.name done) [] .outside, stack⟩)
    (depth : Nat) (name : String) (rest : List Char) :
    (newLine depth ++ (quoted name ++ ':' :: ' ' :: rest)).foldlM step r =
      rest.foldlM step ⟨.value, .member done name :: stack⟩ := by
  have htext : quoted name ++ ':' :: ' ' :: rest =
      '"' :: (name.toList.flatMap escapeChar ++ '"' :: ':' :: ' ' :: rest) := by
    simp [quoted]
  have hname : closeText (.name done) name.toList.reverse stack =
      ⟨.colon done name, stack⟩ := by
    simp [closeText]
  rw [foldlM_step_newLine depth hr, htext, List.foldlM_cons, hquote]
  simp only [bind, Except.bind, foldlM_step_text, hname]
  rfl

/-- Where no more container may be opened, reading one fails. -/
theorem foldlM_step_noRoom {c : Char} (hc : c = '[' ∨ c = '\x7b')
    {stack : List Frame} (hstack : ¬stack.length < depthLimit)
    (rest : List Char) :
    (c :: rest).foldlM step ⟨.value, stack⟩ = .error .malformed := by
  have hstep : step ⟨.value, stack⟩ c =
      if stack.length < depthLimit then
        .ok ⟨if c = '[' then .firstItem else .firstName, stack⟩
      else .error .malformed := by
    rcases hc with rfl | rfl <;> rfl
  rw [List.foldlM_cons, hstep, if_neg hstack]
  rfl

/-- The items of an array on the stack leave one level less for an item. -/
theorem depthLimit_sub_cons (frame : Frame) (stack : List Frame) :
    depthLimit - (frame :: stack).length = depthLimit - stack.length - 1 := by
  rw [List.length_cons, Nat.sub_sub]

/-- An array is read as soon as its items are. -/
theorem foldlM_step_array {depth : Nat} {items : List Json}
    {stack : List Frame} {rest : List Char}
    (hitems : items ≠ [] →
      (prettyItems (depth + 1) items ++ (newLine depth ++ ']' :: rest)).foldlM
          step ⟨.value, .items [] :: stack⟩ =
        match rereadItems? (depthLimit - stack.length - 1) items with
        | some values => rest.foldlM step (settle (.arr values) stack)
        | none => .error .malformed) :
    (prettyChars depth (.arr items) ++ rest).foldlM step ⟨.value, stack⟩ =
      match reread? (depthLimit - stack.length) (.arr items) with
      | some value => rest.foldlM step (settle value stack)
      | none => .error .malformed := by
  rw [reread?]
  by_cases hroom : stack.length < depthLimit
  · have hne : depthLimit - stack.length ≠ 0 := by omega
    have hopen : step ⟨.value, stack⟩ '[' = .ok ⟨.firstItem, stack⟩ :=
      if_pos hroom
    rw [if_neg hne]
    cases items with
    | nil =>
        have htext : prettyChars depth (.arr []) ++ rest =
            '[' :: ']' :: rest := rfl
        rw [htext, List.foldlM_cons, hopen]
        rfl
    | cons item others =>
        have htext : prettyChars depth (.arr (item :: others)) ++ rest =
            '[' :: (prettyItems (depth + 1) (item :: others) ++
              (newLine depth ++ ']' :: rest)) := by
          simp [prettyChars]
        rw [htext, List.foldlM_cons, hopen]
        simp only [bind, Except.bind]
        rw [foldlM_step_firstItem, hitems (by simp)]
        cases rereadItems? (depthLimit - stack.length - 1) (item :: others) <;>
          rfl
  · have hzero : depthLimit - stack.length = 0 := by omega
    rw [if_pos hzero]
    cases items <;> exact foldlM_step_noRoom (.inl rfl) hroom _

/-- An object is read as soon as its members are. -/
theorem foldlM_step_object {depth : Nat} {members : List (String × Json)}
    {stack : List Frame} {rest : List Char}
    (hmembers : members ≠ [] →
      (prettyMembers (depth + 1) members ++
          (newLine depth ++ '\x7d' :: rest)).foldlM step ⟨.firstName, stack⟩ =
        match rereadMembers? (depthLimit - stack.length - 1) members with
        | some values => rest.foldlM step (settle (.obj values) stack)
        | none => .error .malformed) :
    (prettyChars depth (.obj members) ++ rest).foldlM step ⟨.value, stack⟩ =
      match reread? (depthLimit - stack.length) (.obj members) with
      | some value => rest.foldlM step (settle value stack)
      | none => .error .malformed := by
  rw [reread?]
  by_cases hroom : stack.length < depthLimit
  · have hne : depthLimit - stack.length ≠ 0 := by omega
    have hopen : step ⟨.value, stack⟩ '\x7b' = .ok ⟨.firstName, stack⟩ :=
      if_pos hroom
    rw [if_neg hne]
    cases members with
    | nil =>
        have htext : prettyChars depth (.obj []) ++ rest =
            '\x7b' :: '\x7d' :: rest := rfl
        rw [htext, List.foldlM_cons, hopen]
        rfl
    | cons member others =>
        have htext : prettyChars depth (.obj (member :: others)) ++ rest =
            '\x7b' :: (prettyMembers (depth + 1) (member :: others) ++
              (newLine depth ++ '\x7d' :: rest)) := by
          simp [prettyChars]
        rw [htext, List.foldlM_cons, hopen]
        simp only [bind, Except.bind]
        rw [hmembers (by simp)]
        cases rereadMembers? (depthLimit - stack.length - 1)
          (member :: others) <;> rfl
  · have hzero : depthLimit - stack.length = 0 := by omega
    rw [if_pos hzero]
    cases members <;> exact foldlM_step_noRoom (.inr rfl) hroom _

/-- The end of an array settles it. -/
theorem foldlM_step_endItems (value : Json) (done : List Json)
    (stack : List Frame) (outer : Nat) (rest : List Char) :
    (newLine outer ++ ']' :: rest).foldlM step
        (settle value (.items done :: stack)) =
      rest.foldlM step (settle (.arr (done.reverse ++ [value])) stack) := by
  rw [foldlM_step_newLine outer (isBetween_settle _ _)]
  simp [List.foldlM_cons, settle, step, stepBetween, isSpace, bind, Except.bind]

/-- The end of an object settles it; its members stand in order. -/
theorem foldlM_step_endMembers (value : Json) {done : List (String × Json)}
    {name : String} (hbefore : ∀ entry ∈ done, entry.1 < name)
    (stack : List Frame) (outer : Nat) (rest : List Char) :
    (newLine outer ++ '\x7d' :: rest).foldlM step
        (settle value (.member done name :: stack)) =
      rest.foldlM step (settle (.obj (done ++ [(name, value)])) stack) := by
  rw [foldlM_step_newLine outer (isBetween_settle _ _)]
  simp [List.foldlM_cons, settle, step, stepBetween, isSpace, bind, Except.bind,
    Entries.insert_eq_append hbefore]

/-- After a member that comes after all others the next name is read. -/
theorem step_nextMember (value : Json) {done : List (String × Json)}
    {name : String} (hbefore : ∀ entry ∈ done, entry.1 < name)
    (stack : List Frame) :
    step (settle value (.member done name :: stack)) ',' =
      .ok ⟨.name (done ++ [(name, value)]), stack⟩ := by
  simp [settle, step, stepBetween, isSpace, Entries.insert_eq_append hbefore]

mutual

/-- Reading a written value among open containers settles what its text is
read as, if anything. -/
theorem foldlM_step_pretty (depth : Nat) (json : Json) (hjson : json.Ordered)
    (stack : List Frame) (rest : List Char)
    (hrest : ∀ n, json = .num n → EndsNumber rest) :
    (prettyChars depth json ++ rest).foldlM step ⟨.value, stack⟩ =
      match reread? (depthLimit - stack.length) json with
      | some value => rest.foldlM step (settle value stack)
      | none => .error .malformed := by
  match json with
  | .null => rfl
  | .bool true => rfl
  | .bool false => rfl
  | .str s =>
      have hopen : step ⟨.value, stack⟩ '"' =
          .ok ⟨.text .value [] .outside, stack⟩ := rfl
      have htext : prettyChars depth (.str s) ++ rest =
          '"' :: (s.toList.flatMap escapeChar ++ '"' :: rest) := by
        simp [prettyChars, quoted]
      rw [htext, List.foldlM_cons, hopen]
      simp only [bind, Except.bind, foldlM_step_text, reread?]
      simp [closeText]
  | .num n =>
      obtain ⟨c, cs, rfl, hc⟩ := hrest n rfl
      rw [prettyChars, foldlM_step_numeral
        (fun _ => Number.isNumberChar_of_mem_text) n.toList_text_ne_nil hc,
        n.number?_text, reread?]
      cases n.reread? <;> rfl
  | .arr items =>
      rw [Ordered] at hjson
      apply foldlM_step_array
      intro hne
      exact foldlM_step_prettyItems (depth + 1) items hne hjson [] stack depth
        rest
  | .obj members =>
      rw [Ordered] at hjson
      apply foldlM_step_object
      intro hne
      exact foldlM_step_prettyMembers (depth + 1) members hne hjson.1 hjson.2 []
        (by simp) stack (r := ⟨.firstName, stack⟩) rfl rfl depth rest

theorem foldlM_step_prettyItems (depth : Nat) (items : List Json)
    (hne : items ≠ []) (hitems : OrderedItems items) (done : List Json)
    (stack : List Frame) (outer : Nat) (rest : List Char) :
    (prettyItems depth items ++ (newLine outer ++ ']' :: rest)).foldlM step
        ⟨.value, .items done :: stack⟩ =
      match rereadItems? (depthLimit - stack.length - 1) items with
      | some values => rest.foldlM step
          (settle (.arr (done.reverse ++ values)) stack)
      | none => .error .malformed := by
  match items with
  | [] => exact absurd rfl hne
  | [item] =>
      rw [OrderedItems] at hitems
      have htext : prettyItems depth [item] ++ (newLine outer ++ ']' :: rest) =
          newLine depth ++ (prettyChars depth item ++
            (newLine outer ++ ']' :: rest)) := by
        simp [prettyItems]
      rw [htext, foldlM_step_newLine depth rfl,
        foldlM_step_pretty depth item hitems.1 _ _
          (fun _ _ => endsNumber_newLine outer _),
        depthLimit_sub_cons, rereadItems?]
      cases reread? (depthLimit - stack.length - 1) item with
      | none => rfl
      | some value => exact foldlM_step_endItems value done stack outer rest
  | item :: next :: more =>
      rw [OrderedItems] at hitems
      have htext : prettyItems depth (item :: next :: more) ++
            (newLine outer ++ ']' :: rest) =
          newLine depth ++ (prettyChars depth item ++
            ',' :: (prettyItems depth (next :: more) ++
              (newLine outer ++ ']' :: rest))) := by
        simp [prettyItems]
      have hcomma : ∀ n, item = .num n →
          EndsNumber (',' :: (prettyItems depth (next :: more) ++
            (newLine outer ++ ']' :: rest))) :=
        fun _ _ => ⟨',', _, rfl, rfl⟩
      rw [htext, foldlM_step_newLine depth rfl,
        foldlM_step_pretty depth item hitems.1 _ _ hcomma,
        depthLimit_sub_cons, rereadItems?]
      cases reread? (depthLimit - stack.length - 1) item with
      | none => rfl
      | some value =>
          have hnext : step (settle value (.items done :: stack)) ',' =
              .ok ⟨.value, .items (value :: done) :: stack⟩ := rfl
          simp only [List.foldlM_cons, hnext, bind, Except.bind]
          rw [foldlM_step_prettyItems depth (next :: more) (by simp) hitems.2
            (value :: done) stack outer rest]
          cases rereadItems? (depthLimit - stack.length - 1) (next :: more) with
          | none => rfl
          | some values => simp

theorem foldlM_step_prettyMembers (depth : Nat)
    (members : List (String × Json)) (hne : members ≠ [])
    (hsorted : Entries.Sorted members) (hmembers : OrderedMembers members)
    (done : List (String × Json))
    (hdone : ∀ entry ∈ done, ∀ member ∈ members, entry.1 < member.1)
    (stack : List Frame) {r : Reading} (hr : r.phase.isBetween = true)
    (hquote : step r '"' = .ok ⟨.text (.name done) [] .outside, stack⟩)
    (outer : Nat) (rest : List Char) :
    (prettyMembers depth members ++ (newLine outer ++ '\x7d' :: rest)).foldlM
        step r =
      match rereadMembers? (depthLimit - stack.length - 1) members with
      | some values => rest.foldlM step (settle (.obj (done ++ values)) stack)
      | none => .error .malformed := by
  match members with
  | [] => exact absurd rfl hne
  | [(name, value)] =>
      rw [OrderedMembers] at hmembers
      have hbefore : ∀ entry ∈ done, entry.1 < name :=
        fun entry hentry => hdone entry hentry (name, value) List.mem_cons_self
      have htext : prettyMembers depth [(name, value)] ++
            (newLine outer ++ '\x7d' :: rest) =
          newLine depth ++ (quoted name ++ ':' :: ' ' ::
            (prettyChars depth value ++ (newLine outer ++ '\x7d' :: rest))) := by
        simp [prettyMembers]
      rw [htext, foldlM_step_memberName hr hquote,
        foldlM_step_pretty depth value hmembers.1 _ _
          (fun _ _ => endsNumber_newLine outer _),
        depthLimit_sub_cons, rereadMembers?]
      cases reread? (depthLimit - stack.length - 1) value with
      | none => rfl
      | some read => exact foldlM_step_endMembers read hbefore stack outer rest
  | (name, value) :: next :: more =>
      rw [OrderedMembers] at hmembers
      rw [Entries.Sorted, List.pairwise_cons] at hsorted
      have hbefore : ∀ entry ∈ done, entry.1 < name :=
        fun entry hentry => hdone entry hentry (name, value) List.mem_cons_self
      have htext : prettyMembers depth ((name, value) :: next :: more) ++
            (newLine outer ++ '\x7d' :: rest) =
          newLine depth ++ (quoted name ++ ':' :: ' ' ::
            (prettyChars depth value ++
              ',' :: (prettyMembers depth (next :: more) ++
                (newLine outer ++ '\x7d' :: rest)))) := by
        simp [prettyMembers]
      have hcomma : ∀ n, value = .num n →
          EndsNumber (',' :: (prettyMembers depth (next :: more) ++
            (newLine outer ++ '\x7d' :: rest))) :=
        fun _ _ => ⟨',', _, rfl, rfl⟩
      rw [htext, foldlM_step_memberName hr hquote,
        foldlM_step_pretty depth value hmembers.1 _ _ hcomma,
        depthLimit_sub_cons, rereadMembers?]
      cases reread? (depthLimit - stack.length - 1) value with
      | none => rfl
      | some read =>
          have hlater : ∀ entry ∈ done ++ [(name, read)],
              ∀ member ∈ next :: more, entry.1 < member.1 := by
            intro entry hentry member hmember
            rcases List.mem_append.1 hentry with hold | hnew
            · exact hdone entry hold member (List.mem_cons_of_mem _ hmember)
            · rw [List.mem_singleton] at hnew
              subst hnew
              exact hsorted.1 member hmember
          simp only [List.foldlM_cons, step_nextMember read hbefore stack, bind,
            Except.bind]
          rw [foldlM_step_prettyMembers depth (next :: more) (by simp)
            hsorted.2 hmembers.2 (done ++ [(name, read)]) hlater stack
            (r := ⟨.name (done ++ [(name, read)]), stack⟩) rfl rfl outer rest]
          cases rereadMembers? (depthLimit - stack.length - 1)
              (next :: more) with
          | none => rfl
          | some values => simp

end

end Reading

/-- The text of a value other than a bare number is read as `reread?` says. -/
theorem parse_pretty {json : Json} (hjson : json.Ordered)
    (hnumber : ∀ n, json ≠ .num n) :
    parse json.pretty =
      match reread? depthLimit json with
      | some value => .ok value
      | none => .error .malformed := by
  have hread := Reading.foldlM_step_pretty 0 json hjson [] []
    (fun n hn => absurd hn (hnumber n))
  rw [List.append_nil] at hread
  rw [parse, pretty, String.toList_ofList, Reading.start, hread]
  rw [List.length_nil, Nat.sub_zero]
  cases reread? depthLimit json <;> rfl

end Json
end RegionSnapshot
