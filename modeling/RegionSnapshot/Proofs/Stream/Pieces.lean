/-
Reading what a device gives in pieces.  Called again and again, a device gives
pieces that are not empty and fit into the buffer, is interrupted between them,
and at last is at its end or fails.  Reading it to the end gives the pieces one
behind the other, or nothing but the failure: how the bytes were cut, where the
interruptions came and how large the buffer is make no difference.
-/
import Mathlib.Data.List.ReduceOption
import RegionSnapshot.Resource.Transfer

namespace RegionSnapshot

/-- What comes of one call of read. -/
inductive ReadTurn
  | gave (piece : Bytes)
  | interrupted
  | failed (error : IoError)
  deriving DecidableEq, Repr

namespace Source

/-- One call of read with a buffer of some size, and the device after it. -/
def turn (size : Nat) (source : Source) : ReadTurn × Source :=
  match source.replies with
  | [] => (.gave (source.content.take size), ⟨source.content.drop size, []⟩)
  | .interrupted :: replies => (.interrupted, ⟨source.content, replies⟩)
  | .fails error :: replies => (.failed error, ⟨source.content, replies⟩)
  | .gives limit :: replies =>
      (.gave (source.content.take (min limit size)),
        ⟨source.content.drop (min limit size), replies⟩)

/-- Called with a buffer of some size until no more comes, the device gives
these pieces, each `none` among them being an interruption.  Then it fails with
the failure, or is at its end if there is none. -/
inductive Yields (size : Nat) :
    Source → List (Option Bytes) → Option IoError → Prop
  | ended {source next : Source} (h : source.turn size = (.gave [], next)) :
      Yields size source [] none
  | failed {source next : Source} {error : IoError}
      (h : source.turn size = (.failed error, next)) :
      Yields size source [] (some error)
  | interrupted {source next : Source} {turns : List (Option Bytes)}
      {failure : Option IoError}
      (h : source.turn size = (.interrupted, next))
      (hnext : Yields size next turns failure) :
      Yields size source (none :: turns) failure
  | gave {source next : Source} {piece : Bytes} {turns : List (Option Bytes)}
      {failure : Option IoError} (hpiece : piece ≠ [])
      (h : source.turn size = (.gave piece, next))
      (hnext : Yields size next turns failure) :
      Yields size source (some piece :: turns) failure

theorem yields_empty (size : Nat) : (steady []).Yields size [] none := by
  have hturn : (steady []).turn size = (.gave [], steady []) := by
    simp [turn, steady]
  exact .ended hturn

/-- A device without answers to come gives what is in it and ends. -/
theorem exists_yields_steady {size : Nat} (hsize : 0 < size) (content : Bytes) :
    ∃ turns, (steady content).Yields size turns none := by
  by_cases hcontent : content = []
  · rw [hcontent]
    exact ⟨[], yields_empty size⟩
  · obtain ⟨turns, hturns⟩ := exists_yields_steady hsize (content.drop size)
    have hpiece : content.take size ≠ [] := by
      rw [Ne, List.take_eq_nil_iff, not_or]
      exact ⟨Nat.ne_of_gt hsize, hcontent⟩
    exact ⟨_, .gave hpiece rfl hturns⟩
termination_by content.length
decreasing_by
  have hlength : 0 < content.length := List.length_pos_iff.2 hcontent
  rw [List.length_drop]
  omega

/-- Every device gives some pieces and then ends or fails. -/
theorem exists_yields {size : Nat} (hsize : 0 < size) (source : Source) :
    ∃ turns failure, source.Yields size turns failure := by
  obtain ⟨content, replies⟩ := source
  induction replies generalizing content with
  | nil =>
      obtain ⟨turns, hturns⟩ := exists_yields_steady hsize content
      exact ⟨turns, none, hturns⟩
  | cons reply replies ih =>
      cases reply with
      | interrupted =>
          obtain ⟨turns, failure, hturns⟩ := ih content
          exact ⟨_, _, .interrupted rfl hturns⟩
      | fails error => exact ⟨_, _, .failed rfl⟩
      | gives limit =>
          by_cases hpiece : content.take (min limit size) = []
          · have hturn : turn size ⟨content, .gives limit :: replies⟩ =
                (.gave [], ⟨content.drop (min limit size), replies⟩) := by
              rw [← hpiece]
              rfl
            exact ⟨_, _, .ended hturn⟩
          · obtain ⟨turns, failure, hturns⟩ := ih (content.drop (min limit size))
            exact ⟨_, _, .gave hpiece rfl hturns⟩

/-- Any pieces that fit into the buffer are given by some device, with any
interruptions between them and any failure at the end. -/
theorem exists_source {size : Nat} {turns : List (Option Bytes)}
    (hturns : ∀ piece, some piece ∈ turns → piece ≠ [] ∧ piece.length ≤ size)
    (failure : Option IoError) :
    ∃ source : Source, source.Yields size turns failure := by
  induction turns with
  | nil =>
      cases failure with
      | none => exact ⟨steady [], yields_empty size⟩
      | some error => exact ⟨⟨[], [.fails error]⟩, .failed rfl⟩
  | cons first turns ih =>
      obtain ⟨next, hnext⟩ :=
        ih (fun piece hpiece => hturns piece (List.mem_cons_of_mem _ hpiece))
      cases first with
      | none =>
          exact ⟨⟨next.content, .interrupted :: next.replies⟩,
            .interrupted rfl hnext⟩
      | some piece =>
          obtain ⟨hne, hlength⟩ := hturns piece List.mem_cons_self
          refine ⟨⟨piece ++ next.content, .gives piece.length :: next.replies⟩,
            .gave hne ?_ hnext⟩
          simp [turn, Nat.min_eq_left hlength]

/-- A steady device gives as much as fits, and goes on with the rest. -/
theorem steadySizes_eq {size length : Nat} (hsize : 0 < size)
    (hlength : 0 < length) :
    steadySizes size length =
      min size length :: steadySizes size (length - size) := by
  rcases Nat.lt_or_ge length size with hlt | hge
  · have hrest : length - size = 0 := Nat.sub_eq_zero_of_le (Nat.le_of_lt hlt)
    rw [hrest, Nat.min_eq_right (Nat.le_of_lt hlt)]
    simp [steadySizes, Nat.div_eq_of_lt hlt, Nat.mod_eq_of_lt hlt,
      Nat.ne_of_gt hlength]
  · rw [Nat.min_eq_left hge, steadySizes, steadySizes,
      Nat.div_eq_sub_div hsize hge, Nat.mod_eq_sub_mod hge,
      List.replicate_succ, List.cons_append]

/-- Reading goes by the turns of the device, each of which is one more call: an
empty piece ends it, another one stands behind those already read, and a failure
leaves none of them. -/
theorem drainFrom_eq_turn {size : Nat} (hsize : 0 < size) (pieces : List Bytes)
    (calls : Nat) (source : Source) :
    drainFrom size pieces calls source.content source.replies =
      match source.turn size with
      | (.gave piece, next) =>
          if piece = [] then
            ⟨.ok pieces.reverse.flatten, pieces.reverse.map List.length ++ [0],
              calls + 1⟩
          else
            drainFrom size (piece :: pieces) (calls + 1) next.content
              next.replies
      | (.interrupted, next) =>
          drainFrom size pieces (calls + 1) next.content next.replies
      | (.failed error, _) =>
          ⟨.error error, pieces.reverse.map List.length, calls + 1⟩ := by
  obtain ⟨content, replies⟩ := source
  cases replies with
  | nil =>
      -- all of the rest is read at once here, and not call by call
      simp only [turn, drainFrom]
      by_cases hcontent : content = []
      · simp [hcontent, steadySizes]
      · have hlength : 0 < content.length := List.length_pos_iff.2 hcontent
        have hpiece : content.take size ≠ [] := by
          rw [Ne, List.take_eq_nil_iff, not_or]
          exact ⟨Nat.ne_of_gt hsize, hcontent⟩
        rw [if_neg hpiece, steadySizes_eq hsize hlength]
        simp only [List.reverse_cons, List.flatten_append,
          List.flatten_cons, List.flatten_nil, List.append_nil,
          List.append_assoc, List.take_append_drop, List.map_append,
          List.map_singleton, List.length_take, List.length_drop,
          List.singleton_append, List.length_cons]
        rw [Nat.add_right_comm, Nat.add_assoc]
  | cons reply replies =>
      cases reply with
      | interrupted => rfl
      | fails error => rfl
      | gives limit => simp only [turn, drainFrom, List.isEmpty_iff]

/-- Reading on adds the pieces to come to those already read, unless there is a
failure.  It takes one call for each of them and for each interruption, and one
more that ends it. -/
theorem Yields.drainFrom_eq {size : Nat} {source : Source}
    {turns : List (Option Bytes)} {failure : Option IoError}
    (h : source.Yields size turns failure) (hsize : 0 < size)
    (pieces : List Bytes) (calls : Nat) :
    drainFrom size pieces calls source.content source.replies =
      ⟨failure.elim
          (.ok (pieces.reverse.flatten ++ turns.reduceOption.flatten)) .error,
        pieces.reverse.map List.length ++
          turns.reduceOption.map List.length ++ failure.elim [0] (fun _ => []),
        calls + turns.length + 1⟩ := by
  induction h generalizing pieces calls with
  | ended h =>
      rw [drainFrom_eq_turn hsize, h]
      simp
  | failed h =>
      rw [drainFrom_eq_turn hsize, h]
      simp
  | interrupted h hnext ih =>
      rw [drainFrom_eq_turn hsize, h]
      dsimp only
      rw [ih, List.reduceOption_cons_of_none, List.length_cons,
        Nat.add_right_comm calls 1, Nat.add_assoc calls]
  | gave hpiece h hnext ih =>
      rw [drainFrom_eq_turn hsize, h]
      dsimp only
      rw [if_neg hpiece, ih]
      simp only [List.reverse_cons, List.reduceOption_cons_of_some,
        List.map_append, List.map_cons, List.map_nil, List.flatten_append,
        List.flatten_cons, List.flatten_nil, List.append_assoc,
        List.cons_append, List.nil_append, List.length_cons,
        Nat.add_right_comm calls 1, Nat.add_assoc calls]

end Source

/-- Reading a device gives its pieces one behind the other, or its failure. -/
theorem result_readFrom {size : Nat} {source : Source}
    {turns : List (Option Bytes)} {failure : Option IoError}
    (h : source.Yields (max 1 size) turns failure) (location : String) :
    (readFrom size location (.ok source)).result =
      failure.elim (.ok turns.reduceOption.flatten)
        (fun cause => .error (.readFailed location cause)) := by
  have hdrain : (source.drain (max 1 size)).result = _ :=
    congrArg Drained.result (h.drainFrom_eq (Nat.le_max_left 1 size) [] 0)
  simp only [readFrom]
  cases failure with
  | none =>
      rw [hdrain]
      rfl
  | some cause =>
      rw [hdrain]
      rfl

/-- There are devices that give any pieces that fit into the buffer, with any
interruptions between them and any failure at the end.  Each of them reads as
all pieces one behind the other, or as the failure; and so does every other
device that gives the same bytes, whatever its pieces and its buffer are. -/
theorem readFrom_pieces (size : Nat) (location : String)
    {turns : List (Option Bytes)}
    (hturns : ∀ piece, some piece ∈ turns →
      piece ≠ [] ∧ piece.length ≤ max 1 size) (failure : Option IoError) :
    (∃ source : Source, source.Yields (max 1 size) turns failure) ∧
    ∀ source : Source, source.Yields (max 1 size) turns failure →
      (readFrom size location (.ok source)).result =
          failure.elim (.ok turns.reduceOption.flatten)
            (fun cause => .error (.readFailed location cause)) ∧
      ∀ (otherSize : Nat) (otherTurns : List (Option Bytes)) (other : Source),
        other.Yields (max 1 otherSize) otherTurns failure →
        otherTurns.reduceOption.flatten = turns.reduceOption.flatten →
          (readFrom otherSize location (.ok other)).result =
            (readFrom size location (.ok source)).result := by
  refine ⟨Source.exists_source hturns failure, ?_⟩
  intro source hsource
  have hresult := result_readFrom hsource location
  refine ⟨hresult, ?_⟩
  intro otherSize otherTurns other hother hbytes
  rw [result_readFrom hother location, hbytes, hresult]

/-- Four bytes in two pieces, with an interruption after the first one. -/
def haltingSource : Source :=
  ⟨[1, 2, 3, 4], [.gives 1, .interrupted, .gives 3]⟩

theorem readFrom_pieces_halting :
    haltingSource.Yields (max 1 3) [some [1], none, some [2, 3, 4]] none ∧
    (Source.steady [1, 2, 3, 4]).Yields (max 1 2) [some [1, 2], some [3, 4]]
      none ∧
    (readFrom 3 "notes" (.ok haltingSource)).result = .ok [1, 2, 3, 4] ∧
    (readFrom 2 "notes" (.ok (.steady [1, 2, 3, 4]))).result =
      (readFrom 3 "notes" (.ok haltingSource)).result ∧
    ∃ source : Source,
      source.Yields (max 1 3) [some [1], none, some [2, 3, 4]]
        (some .nothingWritten) ∧
      (readFrom 3 "notes" (.ok source)).result =
        .error (.readFailed "notes" .nothingWritten) := by
  have hhalting : haltingSource.Yields (max 1 3)
      [some [1], none, some [2, 3, 4]] none :=
    .gave (by decide) rfl (.interrupted rfl (.gave (by decide) rfl (.ended rfl)))
  have hsteady : (Source.steady [1, 2, 3, 4]).Yields (max 1 2)
      [some [1, 2], some [3, 4]] none :=
    .gave (by decide) rfl (.gave (by decide) rfl (.ended rfl))
  have hturns : ∀ piece : Bytes,
      some piece ∈ [some [1], none, some [2, 3, 4]] →
        piece ≠ [] ∧ piece.length ≤ max 1 3 := by
    intro piece hpiece
    simp only [List.mem_cons, List.not_mem_nil, or_false, Option.some.injEq,
      reduceCtorEq, false_or] at hpiece
    rcases hpiece with rfl | rfl
    · decide
    · decide
  obtain ⟨-, hread⟩ := readFrom_pieces 3 "notes" hturns none
  obtain ⟨hresult, hother⟩ := hread haltingSource hhalting
  obtain ⟨⟨source, hsource⟩, hfails⟩ :=
    readFrom_pieces 3 "notes" hturns (some .nothingWritten)
  exact ⟨hhalting, hsteady, hresult, hother 2 _ _ hsteady rfl, source, hsource,
    (hfails source hsource).1⟩

end RegionSnapshot
