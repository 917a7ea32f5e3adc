/-
Sending to a device that takes all that it is given.  The bytes reach it in
slices of the size of a block, one behind the other and each in one call; the
last slice is what remains.  Then the device is flushed, once.  How full the
last block is makes no difference, although a full one goes to the device at
once and a shorter one is held until the end.
-/
import Mathlib.Algebra.Order.Floor.Div
import RegionSnapshot.Proofs.Stream.Schedules

namespace RegionSnapshot

/-- The slices of bytes of some size, of which the last one may be shorter. -/
def slices (size : Nat) (bytes : Bytes) : List Bytes :=
  (List.range (bytes.length ⌈/⌉ size)).map
    (fun i => (bytes.drop (i * size)).take size)

/-- The answers take each of the blocks in full, as far as there are answers;
after them a device takes all that it is given. -/
def TakesWhole (replies : List WriteReply) (blocks : List Bytes) : Prop :=
  ∀ (i : Nat) (reply : WriteReply) (block : Bytes),
    replies[i]? = some reply → blocks[i]? = some block →
      ∃ limit, reply = .accepts limit ∧ block.length ≤ limit

section Slices

variable {size : Nat} {bytes : Bytes}

theorem ceilDiv_of_le (hsize : 0 < size) (h : size ≤ bytes.length) :
    bytes.length ⌈/⌉ size = (bytes.drop size).length ⌈/⌉ size + 1 := by
  have hsum : bytes.length + size - 1 =
      (bytes.length - size + size - 1) + size := by omega
  rw [List.length_drop, Nat.ceilDiv_eq_add_pred_div,
    Nat.ceilDiv_eq_add_pred_div, hsum, Nat.add_div_right _ hsize]

/-- The first of several slices is full. -/
theorem slices_full (hsize : 0 < size) (h : size ≤ bytes.length) :
    slices size bytes = bytes.take size :: slices size (bytes.drop size) := by
  rw [slices, ceilDiv_of_le hsize h, List.range_succ_eq_map, List.map_cons,
    List.map_map, Nat.zero_mul, List.drop_zero, slices]
  congr 1
  apply List.map_congr_left
  intro i _
  rw [Function.comp, List.drop_drop, Nat.succ_mul, Nat.add_comm]

/-- Bytes that fill no slice are one slice. -/
theorem slices_short (h : bytes.length < size) (hne : bytes ≠ []) :
    slices size bytes = [bytes] := by
  have hlength : 0 < bytes.length := List.length_pos_iff.2 hne
  have hcount : bytes.length ⌈/⌉ size = 1 := by
    rw [Nat.ceilDiv_eq_add_pred_div]
    exact Nat.div_eq_of_lt_le (by omega) (by omega)
  rw [slices, hcount]
  simpa using Nat.le_of_lt h

theorem slices_nil (hsize : 0 < size) : slices size [] = [] := by
  have hcount : ([] : Bytes).length ⌈/⌉ size = 0 := by
    rw [Nat.ceilDiv_eq_add_pred_div]
    exact Nat.div_eq_of_lt (by simpa using hsize)
  rw [slices, hcount]
  rfl

/-- The blocks of bytes are their slices. -/
theorem blocks_eq_slices (hsize : 0 < size) (bytes : Bytes) :
    blocks size bytes = slices size bytes := by
  by_cases hfull : size ≤ bytes.length
  · rw [blocks_full hsize hfull, slices_full hsize hfull,
      blocks_eq_slices hsize (bytes.drop size)]
  · have hshort : bytes.length < size := Nat.lt_of_not_le hfull
    by_cases hne : bytes = []
    · rw [hne, slices_nil hsize]
      rfl
    · rw [blocks_short hshort hne, slices_short hshort hne]
termination_by bytes.length
decreasing_by
  rw [List.length_drop]
  omega

end Slices

section TakesWhole

variable {replies : List WriteReply} {block : Bytes} {blocks : List Bytes}

theorem TakesWhole.tail (h : TakesWhole replies (block :: blocks)) :
    TakesWhole replies.tail blocks := by
  intro i reply other hreply hother
  apply h (i + 1) reply other
  · rwa [List.getElem?_tail] at hreply
  · rwa [List.getElem?_cons_succ]

/-- A block that is taken in full is delivered in one call. -/
theorem TakesWhole.deliver (h : TakesWhole replies (block :: blocks))
    (hne : block ≠ []) (stuck : IoError) (calls : List SinkCall) :
    RegionSnapshot.deliver stuck calls block replies =
      ⟨.wrote block :: calls, [], replies.tail, none⟩ := by
  cases replies with
  | nil =>
      rw [RegionSnapshot.deliver, if_neg (by rwa [List.isEmpty_iff])]
      rfl
  | cons reply replies =>
      obtain ⟨limit, rfl, hlimit⟩ := h 0 reply block rfl rfl
      have hlength : 0 < block.length := List.length_pos_iff.2 hne
      obtain ⟨more, rfl⟩ : ∃ more, limit = more + 1 := ⟨limit - 1, by omega⟩
      rw [deliver_cons hne]
      change RegionSnapshot.deliver stuck
        (.wrote (block.take (more + 1)) :: calls) (block.drop (more + 1))
          replies = _
      rw [List.take_of_length_le hlimit, List.drop_of_length_le hlimit,
        deliver_nil, List.tail_cons]

end TakesWhole

namespace Sending

/-- At the end what is held is delivered in one call, if there is anything. -/
theorem finish_whole {size : Nat} {s : Sending} {sink : Sink} {rest : Bytes}
    (hfailure : s.failure = none)
    (htakes : TakesWhole s.replies (slices size rest))
    (hflush : sink.flushFails = none) (hshort : rest.length < size) :
    { s with held := rest }.finish sink =
      ⟨.ok (), s.calls.reverse ++ (slices size rest).map .wrote ++ [.flushed],
        []⟩ := by
  rw [finish, hfailure]
  dsimp only
  by_cases hne : rest = []
  · rw [hne, deliver_nil, hflush, slices_nil (Nat.zero_lt_of_lt hshort)]
    simp
  · rw [slices_short hshort hne] at htakes ⊢
    rw [htakes.deliver hne, hflush]
    simp

/-- A sending to a device that takes whole blocks hands over those that are
left, each in one call. -/
theorem run_whole {size : Nat} {s : Sending} {sink : Sink} {rest : Bytes}
    (hsize : 0 < size) (hfailure : s.failure = none) (hheld : s.held = [])
    (htakes : TakesWhole s.replies (slices size rest))
    (hflush : sink.flushFails = none) :
    ((slices size rest).foldl (step size) s).finish sink =
      ⟨.ok (), s.calls.reverse ++ (slices size rest).map .wrote ++ [.flushed],
        []⟩ := by
  by_cases hrest : size ≤ rest.length
  · have hlength : (rest.take size).length = size := by
      rw [List.length_take, Nat.min_eq_left hrest]
    have hne : rest.take size ≠ [] := by
      rw [← List.length_pos_iff, hlength]
      exact hsize
    rw [slices_full hsize hrest] at htakes ⊢
    have hstep : s.step size (rest.take size) =
        ⟨.wrote (rest.take size) :: s.calls, [], s.replies.tail, none⟩ := by
      have hfull : ¬(rest.take size).length < size := by omega
      rw [step, hfailure, if_neg (by decide), if_neg hfull,
        htakes.deliver hne]
    rw [List.foldl_cons, hstep, run_whole hsize rfl rfl htakes.tail hflush]
    simp
  · have hshort : rest.length < size := Nat.lt_of_not_le hrest
    have hfinish := finish_whole hfailure htakes hflush hshort
    by_cases hne : rest = []
    · rw [hne, slices_nil hsize] at hfinish ⊢
      rwa [← hheld] at hfinish
    · rw [slices_short hshort hne] at hfinish ⊢
      have hstep : s.step size rest = { s with held := rest } := by
        rw [step, hfailure, if_neg (by decide), if_pos hshort]
      rwa [List.foldl_cons, List.foldl_nil, hstep]
termination_by rest.length
decreasing_by
  rw [List.length_drop]
  omega

end Sending

/-- A device that takes every call in full is called once for each slice of the
bytes and then flushed; without bytes nothing is called, and not even
opened. -/
theorem writeTo_slices (size : Nat) (location : String) {sink : Sink}
    {bytes : Bytes} (htakes : TakesWhole sink.replies (slices (max 1 size) bytes))
    (hflush : sink.flushFails = none) :
    (bytes ≠ [] → writeTo size location true (.ok sink) bytes =
      ⟨.ok (), some ⟨.ok (),
        (slices (max 1 size) bytes).map .wrote ++ [.flushed], []⟩⟩) ∧
    ∀ writable opened,
      writeTo size location writable opened [] = ⟨.ok (), none⟩ := by
  refine ⟨?_, fun writable opened => rfl⟩
  intro hne
  have hsize : 0 < max 1 size := Nat.le_max_left 1 size
  have hsend : send (max 1 size) sink bytes =
      ⟨.ok (), (slices (max 1 size) bytes).map .wrote ++ [.flushed], []⟩ := by
    rw [send, blocks_eq_slices hsize]
    exact Sending.run_whole hsize rfl rfl htakes hflush
  rw [writeTo_ok size location sink hne, hsend]
  rfl

/-- Five bytes in blocks of two make three calls; a device without answers
takes every call in full, and so does one that would take more. -/
theorem writeTo_slices_five :
    TakesWhole [.accepts 2, .accepts 9] (slices (max 1 2) [1, 2, 3, 4, 5]) ∧
    writeTo 2 "notes" true (.ok ⟨[.accepts 2, .accepts 9], none⟩)
        [1, 2, 3, 4, 5] =
      ⟨.ok (), some ⟨.ok (),
        [.wrote [1, 2], .wrote [3, 4], .wrote [5], .flushed], []⟩⟩ ∧
    writeTo 0 "notes" true (.ok .steady) [1, 2] =
      ⟨.ok (), some ⟨.ok (), [.wrote [1], .wrote [2], .flushed], []⟩⟩ ∧
    writeTo 2 "notes" false (.error .nothingWritten) [] = ⟨.ok (), none⟩ := by
  have htakes : TakesWhole [.accepts 2, .accepts 9]
      (slices (max 1 2) [1, 2, 3, 4, 5]) := by
    have hslices : slices (max 1 2) [1, 2, 3, 4, 5] = [[1, 2], [3, 4], [5]] := by
      decide
    rw [hslices]
    rintro (_ | _ | i) reply block hreply hblock
    · cases hreply
      cases hblock
      exact ⟨2, rfl, by decide⟩
    · cases hreply
      cases hblock
      exact ⟨9, rfl, by decide⟩
    · cases hreply
  have hsteady : TakesWhole Sink.steady.replies (slices (max 1 0) [1, 2]) := by
    rintro i reply block hreply -
    cases hreply
  have hfive := @writeTo_slices 2 "notes" ⟨_, none⟩ _ htakes rfl
  exact ⟨htakes, hfive.1 (by decide),
    (writeTo_slices 0 "notes" hsteady rfl).1 (by decide),
    hfive.2 false (.error .nothingWritten)⟩

end RegionSnapshot
