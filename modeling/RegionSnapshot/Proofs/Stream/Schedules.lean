/-
Sending to a device with any answers.  A sending is at some position of its
bytes, and each call offers the device the rest of the block there; how much the
device takes only moves the position.  So what a device has taken are the first
of the bytes, and a sending fails with the first call that does.  The answers to
all calls that are made stand in a list, so that every device that comes to an
end is covered.
-/
import RegionSnapshot.Proofs.Stream.Delivery
import RegionSnapshot.Resource.Transfer

namespace RegionSnapshot

/-- What it is called when a block is not taken: a full one is written at once,
and a shorter last one only when the device is flushed. -/
def stuckAt (size total block : Nat) : IoError :=
  if block < total / size then .nothingWritten else .nothingFlushed

/-- The failure of the first call of write that fails, where a device with these
answers has `position` of `total` bytes.  A call offers the bytes up to the end
of the block, and it fails also by taking none of them. -/
def firstFailure (size total position : Nat) :
    List WriteReply → Option IoError
  | [] => none
  | reply :: replies =>
      if total ≤ position then none
      else
        match reply with
        | .interrupted => firstFailure size total position replies
        | .fails error => some error
        | .accepts 0 => some (stuckAt size total (position / size))
        | .accepts limit =>
            firstFailure size total
              (min (position + limit)
                (min ((position / size + 1) * size) total)) replies

section FirstFailure

variable {size total position : Nat}

theorem firstFailure_of_le (h : total ≤ position)
    (replies : List WriteReply) :
    firstFailure size total position replies = none := by
  cases replies with
  | nil => rfl
  | cons reply replies => simp [firstFailure.eq_def, h]

/-- What the first answer does to the failure, while some bytes are left. -/
theorem firstFailure_cons (h : position < total) (reply : WriteReply)
    (replies : List WriteReply) :
    firstFailure size total position (reply :: replies) =
      match reply with
      | .interrupted => firstFailure size total position replies
      | .fails error => some error
      | .accepts 0 => some (stuckAt size total (position / size))
      | .accepts limit =>
          firstFailure size total
            (min (position + limit)
              (min ((position / size + 1) * size) total)) replies := by
  rw [firstFailure.eq_def]
  exact if_neg (Nat.not_le_of_lt h)

/-- Without a failure and without a call that takes nothing no call fails. -/
theorem firstFailure_eq_none {replies : List WriteReply}
    (h : ∀ reply ∈ replies, reply ≠ .accepts 0 ∧ ∀ e, reply ≠ .fails e) :
    firstFailure size total position replies = none := by
  induction replies generalizing position with
  | nil => rfl
  | cons reply replies ih =>
      rw [List.forall_mem_cons] at h
      obtain ⟨⟨htakes, hworks⟩, hrest⟩ := h
      by_cases hleft : position < total
      · rw [firstFailure_cons hleft]
        split
        · exact ih hrest
        · exact absurd rfl (hworks _)
        · exact absurd rfl htakes
        · exact ih hrest
      · exact firstFailure_of_le (Nat.le_of_not_lt hleft) _

/-- A delivery of the rest of a block fails with its first call that does, and
else the next call is at the end of the block. -/
theorem firstFailure_deliver {block : Nat} {bytes : Bytes}
    (hlow : block * size ≤ position)
    (hend : position + bytes.length = min ((block + 1) * size) total)
    (calls : List SinkCall) (replies : List WriteReply) :
    firstFailure size total position replies =
      (deliver (stuckAt size total block) calls bytes replies).failure.or
        (firstFailure size total (position + bytes.length)
          (deliver (stuckAt size total block) calls bytes
            replies).replies) := by
  induction replies generalizing calls bytes position with
  | nil =>
      rw [deliver]
      split <;> rfl
  | cons reply replies ih =>
      by_cases hbytes : bytes = []
      · rw [hbytes, deliver_nil]
        rfl
      · have hlength : 0 < bytes.length := List.length_pos_iff.2 hbytes
        have hblock : position / size = block :=
          Nat.div_eq_of_lt_le hlow (by omega)
        rw [deliver_cons hbytes, firstFailure_cons (by omega), hblock]
        cases reply with
        | interrupted => exact ih hlow hend calls
        | fails error => rfl
        | accepts limit =>
            cases limit with
            | zero => rfl
            | succ limit =>
                have hmoved : min (position + (limit + 1))
                    (min ((block + 1) * size) total) +
                      (bytes.drop (limit + 1)).length =
                        position + bytes.length := by
                  rw [List.length_drop]
                  omega
                have hnext := ih (by omega) (hmoved.trans hend)
                  (.wrote (bytes.take (limit + 1)) :: calls)
                rw [hmoved] at hnext
                exact hnext

end FirstFailure

/-- What a sending of bytes with some failure, or none, leaves behind. -/
structure Sent.Carries (sent : Sent) (bytes : Bytes)
    (failure : Option IoError) : Prop where
  result : sent.result = failure.elim (.ok ()) .error
  taken : received (sent.calls ++ sent.closing) <+: bytes
  whole : failure = none → received sent.calls = bytes ∧
    sent.closing = [] ∧ sent.calls.getLast? = some .flushed

namespace Sending

/-- A sending that has failed makes no more calls. -/
theorem foldl_failed (size : Nat) {s : Sending} {error : IoError}
    (h : s.failure = some error) (blocks : List Bytes) :
    blocks.foldl (step size) s = s := by
  induction blocks with
  | nil => rfl
  | cons block rest ih =>
      have hstep : s.step size block = s := by simp [step, h]
      rw [List.foldl_cons, hstep, ih]

/-- A sending that has delivered `block` full blocks of `bytes` and has `rest`
to send. -/
structure Sends (s : Sending) (size block : Nat) (bytes rest : Bytes) :
    Prop where
  failure : s.failure = none
  held : s.held = []
  bytes : received s.calls.reverse ++ rest = bytes
  position : (received s.calls.reverse).length = block * size

variable {size block : Nat} {s : Sending} {bytes rest : Bytes}

theorem Sends.length (h : s.Sends size block bytes rest) :
    bytes.length = block * size + rest.length := by
  rw [← h.bytes, List.length_append, h.position]

/-- At the end the last block is delivered, and offered again if that
fails. -/
theorem Sends.finish (h : s.Sends size block bytes rest)
    (hrest : rest.length < size) (sink : Sink) :
    ({ s with held := rest }.finish sink).Carries bytes
      ((firstFailure size bytes.length (block * size) s.replies).or
        sink.flushFails) := by
  have htotal := h.length
  have hdiv : bytes.length / size = block := by
    apply Nat.div_eq_of_lt_le
    · omega
    · rw [Nat.add_mul]
      omega
  have hstuck : stuckAt size bytes.length block = .nothingFlushed := by
    rw [stuckAt, hdiv, if_neg (Nat.lt_irrefl block)]
  have hend : block * size + rest.length =
      min ((block + 1) * size) bytes.length := by
    rw [Nat.add_mul]
    omega
  have hfirst := firstFailure_deliver (Nat.le_refl _) hend s.calls s.replies
  have hreceived := received_deliver .nothingFlushed s.calls rest s.replies
  rw [hstuck, ← htotal, firstFailure_of_le (Nat.le_refl _),
    Option.or_none] at hfirst
  rw [h.bytes] at hreceived
  have hleft : (deliver .nothingFlushed s.calls rest s.replies).failure =
      none → _ := left_deliver
  rw [hfirst, Sending.finish, h.failure]
  dsimp only
  generalize deliver .nothingFlushed s.calls rest s.replies = d at *
  cases hfailure : d.failure with
  | some error =>
      have hclosing := received_deliver .nothingFlushed [] d.left d.replies
      refine ⟨rfl, ?_, fun hnone => by cases hnone⟩
      refine ⟨(deliver .nothingFlushed [] d.left d.replies).left, ?_⟩
      rw [received_append, List.append_assoc, hclosing]
      exact hreceived
  | none =>
      rw [hleft hfailure, List.append_nil] at hreceived
      have hflushed : received (SinkCall.flushed :: d.calls).reverse =
          bytes := by
        rw [List.reverse_cons, received_append, hreceived]
        exact List.append_nil bytes
      have htaken : received ((SinkCall.flushed :: d.calls).reverse ++ []) <+:
          bytes := ⟨[], by rw [List.append_nil, List.append_nil, hflushed]⟩
      cases sink.flushFails with
      | some error => exact ⟨rfl, htaken, fun hnone => by cases hnone⟩
      | none =>
          refine ⟨rfl, htaken, fun _ => ⟨hflushed, rfl, ?_⟩⟩
          rw [List.reverse_cons, List.getLast?_concat]

/-- A full block that is delivered leaves a sending of the rest, and one that
is not ends it with the failure of the first call that fails. -/
theorem Sends.step (h : s.Sends size block bytes rest) (hsize : 0 < size)
    (hrest : size ≤ rest.length) :
    ((s.step size (rest.take size)).Sends size (block + 1) bytes
        (rest.drop size) ∧
      firstFailure size bytes.length (block * size) s.replies =
        firstFailure size bytes.length ((block + 1) * size)
          (s.step size (rest.take size)).replies) ∨
      ∃ error, (s.step size (rest.take size)).failure = some error ∧
        received (s.step size (rest.take size)).calls.reverse <+: bytes ∧
        firstFailure size bytes.length (block * size) s.replies =
          some error := by
  have htotal := h.length
  have hlength : (rest.take size).length = size := by
    rw [List.length_take]
    omega
  have hnext : (block + 1) * size ≤ bytes.length := by
    rw [Nat.add_mul]
    omega
  have hstuck : stuckAt size bytes.length block = .nothingWritten := by
    rw [stuckAt, if_pos]
    exact (Nat.le_div_iff_mul_le hsize).2 hnext
  have hend : block * size + (rest.take size).length =
      min ((block + 1) * size) bytes.length := by
    rw [hlength, Nat.min_eq_left hnext, Nat.add_mul, Nat.one_mul]
  have hfirst := firstFailure_deliver (Nat.le_refl _) hend s.calls s.replies
  have hreceived := received_deliver .nothingWritten s.calls (rest.take size)
    s.replies
  rw [hstuck] at hfirst
  have hleft : (deliver .nothingWritten s.calls (rest.take size)
      s.replies).failure = none → _ := left_deliver
  have hstep : s.step size (rest.take size) =
      let d := deliver .nothingWritten s.calls (rest.take size) s.replies
      ⟨d.calls, [], d.replies, d.failure⟩ := by
    simp [Sending.step, h.failure, hlength]
  rw [hstep]
  generalize deliver .nothingWritten s.calls (rest.take size) s.replies = d
    at *
  cases hfailure : d.failure with
  | some error =>
      refine .inr ⟨error, hfailure, ⟨d.left ++ rest.drop size, ?_⟩, ?_⟩
      · rw [← List.append_assoc, hreceived, List.append_assoc,
          List.take_append_drop, h.bytes]
      · rw [hfirst, hfailure]
        rfl
  | none =>
      rw [hleft hfailure, List.append_nil] at hreceived
      refine .inl ⟨⟨hfailure, rfl, ?_, ?_⟩, ?_⟩
      · rw [hreceived, List.append_assoc, List.take_append_drop, h.bytes]
      · rw [hreceived, List.length_append, h.position, hlength, Nat.add_mul,
          Nat.one_mul]
      · rw [hfirst, hfailure, hlength, Nat.add_mul, Nat.one_mul]
        rfl

/-- A sending carries the bytes that are left, block by block. -/
theorem Sends.run {size block : Nat} {s : Sending} {bytes rest : Bytes}
    (h : s.Sends size block bytes rest) (hsize : 0 < size) (sink : Sink) :
    (((blocks size rest).foldl (Sending.step size) s).finish sink).Carries
      bytes ((firstFailure size bytes.length (block * size) s.replies).or
        sink.flushFails) := by
  by_cases hrest : size ≤ rest.length
  · rw [blocks_full hsize hrest, List.foldl_cons]
    rcases h.step hsize hrest with ⟨hnext, hfirst⟩ |
      ⟨error, hfailure, htaken, hfirst⟩
    · rw [hfirst]
      exact hnext.run hsize sink
    · rw [foldl_failed size hfailure, hfirst, Sending.finish, hfailure]
      refine ⟨rfl, ?_, fun hnone => by cases hnone⟩
      rwa [List.append_nil]
  · have hshort : rest.length < size := Nat.lt_of_not_le hrest
    have hfinish := h.finish hshort sink
    by_cases hne : rest = []
    · subst hne
      rwa [← h.held] at hfinish
    · rw [blocks_short hshort hne, List.foldl_cons, List.foldl_nil]
      have hstep : s.step size rest = { s with held := rest } := by
        simp [Sending.step, h.failure, hshort]
      rwa [hstep]
termination_by rest.length
decreasing_by
  rw [List.length_drop]
  omega

end Sending

/-- A sending carries its bytes, up to the first failure if there is one. -/
theorem send_carries {size : Nat} (hsize : 0 < size) (sink : Sink)
    (bytes : Bytes) :
    (send size sink bytes).Carries bytes
      ((firstFailure size bytes.length 0 sink.replies).or sink.flushFails) := by
  have hstart : (Sending.start sink).Sends size 0 bytes bytes :=
    ⟨rfl, rfl, rfl, by rw [Nat.zero_mul]; rfl⟩
  have hrun := hstart.run hsize sink
  rwa [Nat.zero_mul] at hrun

/-- A steady device takes all that is sent to it. -/
theorem send_steady {size : Nat} (hsize : 0 < size) (bytes : Bytes) :
    (send size .steady bytes).result = .ok () ∧
      received ((send size .steady bytes).calls ++
        (send size .steady bytes).closing) = bytes := by
  have hcarries := send_carries hsize .steady bytes
  obtain ⟨hreceived, hclosing, -⟩ := hcarries.whole rfl
  refine ⟨hcarries.result, ?_⟩
  rw [hclosing, List.append_nil, hreceived]

/-- What is sent to a device that opens decides what comes of the writing. -/
theorem writeTo_ok (size : Nat) (location : String) (sink : Sink)
    {bytes : Bytes} (h : bytes ≠ []) :
    writeTo size location true (.ok sink) bytes =
      ⟨(send (max 1 size) sink bytes).result.mapError
        (.writeFailed location bytes.length),
        some (send (max 1 size) sink bytes)⟩ := by
  have hempty : ¬ bytes.isEmpty = true := by rwa [List.isEmpty_iff]
  rw [writeTo, if_neg hempty]
  cases hresult : (send (max 1 size) sink bytes).result with
  | error cause =>
      dsimp only
      rw [hresult]
      rfl
  | ok done =>
      dsimp only
      rw [hresult]
      rfl

/-- A writing to a device with any answers.  At each moment the device has taken
the first of the bytes.  The writing fails with the first call of write that
does, or else with the flush, and names the number of all bytes; if nothing
fails, the device has all bytes and has been flushed last.  What cannot be
opened takes nothing. -/
theorem writeTo_carries (size : Nat) (location : String) {bytes : Bytes}
    (h : bytes ≠ []) :
    (∀ sink : Sink, ∃ sent : Sent,
      (writeTo size location true (.ok sink) bytes).sent = some sent ∧
      (∀ calls, calls <+: sent.calls ++ sent.closing →
        received calls <+: bytes) ∧
      (writeTo size location true (.ok sink) bytes).result =
        ((firstFailure (max 1 size) bytes.length 0 sink.replies).or
          sink.flushFails).elim (.ok ())
            (fun cause => .error (.writeFailed location bytes.length cause)) ∧
      ((writeTo size location true (.ok sink) bytes).result = .ok () →
        received sent.calls = bytes ∧ sent.closing = [] ∧
          sent.calls.getLast? = some .flushed) ∧
      ((∀ reply ∈ sink.replies,
          reply ≠ .accepts 0 ∧ ∀ e, reply ≠ .fails e) →
        sink.flushFails = none →
        (writeTo size location true (.ok sink) bytes).result = .ok ())) ∧
    ∀ cause, writeTo size location true (.error cause) bytes =
      ⟨.error (.writeFailed location bytes.length cause), none⟩ := by
  refine ⟨?_, ?_⟩
  · intro sink
    have hcarries := send_carries (Nat.le_max_left 1 size) sink bytes
    have hnone : (∀ reply ∈ sink.replies,
        reply ≠ .accepts 0 ∧ ∀ e, reply ≠ .fails e) →
          firstFailure (max 1 size) bytes.length 0 sink.replies = none :=
      firstFailure_eq_none
    rw [writeTo_ok size location sink h]
    generalize send (max 1 size) sink bytes = sent at *
    generalize firstFailure (max 1 size) bytes.length 0 sink.replies = first
      at *
    refine ⟨sent, rfl, ?_, ?_, ?_, ?_⟩
    · rintro calls ⟨more, hmore⟩
      have htaken := hcarries.taken
      rw [← hmore, received_append] at htaken
      exact (List.prefix_append _ _).trans htaken
    · rw [hcarries.result]
      cases first.or sink.flushFails <;> rfl
    · rw [hcarries.result]
      intro hok
      apply hcarries.whole
      cases hfailure : first.or sink.flushFails with
      | none => rfl
      | some cause =>
          rw [hfailure] at hok
          cases hok
    · intro hreplies hflush
      rw [hcarries.result, hnone hreplies, hflush]
      rfl
  · intro cause
    have hempty : ¬ bytes.isEmpty = true := by rwa [List.isEmpty_iff]
    simp [writeTo, hempty]

/-- A device that takes one byte, is interrupted, takes the rest of that block
and a second one, and then takes nothing until it is closed. -/
def haltingSink : Sink :=
  ⟨[.accepts 1, .interrupted, .accepts 9, .accepts 2, .accepts 0], none⟩

theorem writeTo_carries_notes :
    (∃ sent : Sent,
      (writeTo 2 "notes" true (.ok haltingSink) [1, 2, 3, 4, 5]).sent =
        some sent ∧
      received (sent.calls ++ sent.closing) <+: [1, 2, 3, 4, 5] ∧
      sent.closing = [.wrote [5]]) ∧
      (writeTo 2 "notes" true (.ok haltingSink) [1, 2, 3, 4, 5]).result =
        .error (.writeFailed "notes" 5 .nothingFlushed) ∧
      (writeTo 2 "notes" true (.ok ⟨[.accepts 1, .interrupted], none⟩)
        [1, 2, 3, 4, 5]).result = .ok () := by
  have hbytes : ([1, 2, 3, 4, 5] : Bytes) ≠ [] := by decide
  have hcarries := (writeTo_carries 2 "notes" hbytes).1
  obtain ⟨sent, hsent, htaken, hresult, -, -⟩ := hcarries haltingSink
  obtain ⟨-, -, -, -, -, hsteady⟩ := hcarries ⟨[.accepts 1, .interrupted], none⟩
  refine ⟨⟨sent, hsent, htaken _ (List.prefix_refl _), ?_⟩, hresult, ?_⟩
  · have hgiven : sent = _ := (Option.some.inj hsent).symm
    rw [hgiven]
    decide
  · apply hsteady
    · intro reply hreply
      simp only [List.mem_cons, List.not_mem_nil, or_false] at hreply
      rcases hreply with rfl | rfl
      · exact ⟨by decide, by simp⟩
      · exact ⟨by decide, by simp⟩
    · rfl

end RegionSnapshot
