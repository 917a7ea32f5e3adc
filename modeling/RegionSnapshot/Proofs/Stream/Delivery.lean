/-
Handing bytes to a device, and cutting them into blocks.  Whatever a device
answers, the bytes that it took and those that are left are the ones that were
there; and the blocks of bytes are full ones and perhaps a shorter last one.
-/
import RegionSnapshot.Stream.Sink

namespace RegionSnapshot

theorem received_append (calls more : List SinkCall) :
    received (calls ++ more) = received calls ++ received more :=
  List.flatMap_append

theorem received_wrote (calls : List SinkCall) (bytes : Bytes) :
    received (SinkCall.wrote bytes :: calls).reverse =
      received calls.reverse ++ bytes := by
  rw [List.reverse_cons, received_append]
  simp [received, SinkCall.bytes]

section Deliver

variable {stuck : IoError} {calls : List SinkCall} {bytes : Bytes}

theorem deliver_nil (stuck : IoError) (calls : List SinkCall)
    (replies : List WriteReply) :
    deliver stuck calls [] replies = ⟨calls, [], replies, none⟩ := by
  cases replies <;> simp [deliver.eq_def]

/-- What a device does with bytes by its first answer. -/
theorem deliver_cons (h : bytes ≠ []) (reply : WriteReply)
    (replies : List WriteReply) :
    deliver stuck calls bytes (reply :: replies) =
      match reply with
      | .interrupted => deliver stuck calls bytes replies
      | .fails error => ⟨calls, bytes, replies, some error⟩
      | .accepts 0 => ⟨.wrote [] :: calls, bytes, replies, some stuck⟩
      | .accepts limit =>
          deliver stuck (.wrote (bytes.take limit) :: calls)
            (bytes.drop limit) replies := by
  rw [deliver.eq_def]
  exact if_neg (by rwa [List.isEmpty_iff])

/-- What has been taken and what is left are the bytes that were there. -/
theorem received_deliver (stuck : IoError) (calls : List SinkCall)
    (bytes : Bytes) (replies : List WriteReply) :
    received (deliver stuck calls bytes replies).calls.reverse ++
        (deliver stuck calls bytes replies).left =
      received calls.reverse ++ bytes := by
  induction replies generalizing calls bytes with
  | nil =>
      rw [deliver]
      split
      · rename_i hempty
        rw [List.isEmpty_iff.1 hempty]
      · rw [received_wrote, List.append_nil]
  | cons reply replies ih =>
      by_cases hbytes : bytes = []
      · rw [hbytes, deliver_nil]
      · rw [deliver_cons hbytes]
        split
        · exact ih calls bytes
        · rfl
        · rw [received_wrote, List.append_nil]
        · rw [ih, received_wrote, List.append_assoc, List.take_append_drop]

/-- A delivery that does not fail leaves nothing. -/
theorem left_deliver {replies : List WriteReply}
    (h : (deliver stuck calls bytes replies).failure = none) :
    (deliver stuck calls bytes replies).left = [] := by
  induction replies generalizing calls bytes with
  | nil =>
      rw [deliver]
      split <;> rfl
  | cons reply replies ih =>
      by_cases hbytes : bytes = []
      · rw [hbytes, deliver_nil]
      · rw [deliver_cons hbytes] at h ⊢
        split at h
        · exact ih h
        · cases h
        · cases h
        · exact ih h

end Deliver

section Blocks

variable {size room : Nat} {current bytes : Bytes}

theorem blocksFrom_done (size : Nat) (done : List Bytes) (current : Bytes)
    (room : Nat) (bytes : Bytes) :
    blocksFrom size done current room bytes =
      done.reverse ++ blocksFrom size [] current room bytes := by
  induction bytes generalizing done current room with
  | nil =>
      cases current <;> simp [blocksFrom]
  | cons b rest ih =>
      simp only [blocksFrom]
      split
      · rw [ih, ih [(b :: current).reverse], List.reverse_cons,
          List.append_assoc]
        rfl
      · exact ih done (b :: current) (room - 1)

/-- A block for which there are bytes enough is full. -/
theorem blocksFrom_full (hroom : 0 < room) (h : room ≤ bytes.length) :
    blocksFrom size [] current room bytes =
      (current.reverse ++ bytes.take room) ::
        blocks size (bytes.drop room) := by
  induction bytes generalizing current room with
  | nil =>
      rw [List.length_nil] at h
      omega
  | cons b rest ih =>
      rw [List.length_cons] at h
      rw [blocksFrom]
      by_cases hlast : room ≤ 1
      · obtain rfl : room = 1 := by omega
        rw [if_pos hlast, blocksFrom_done]
        simp [blocks]
      · obtain ⟨more, rfl⟩ : ∃ more, room = more + 1 :=
          ⟨room - 1, by omega⟩
        rw [if_neg hlast, ih (by omega) (by omega)]
        simp

/-- Of bytes that do not fill a block it is all there is. -/
theorem blocksFrom_short (h : bytes.length < room)
    (hne : current.reverse ++ bytes ≠ []) :
    blocksFrom size [] current room bytes = [current.reverse ++ bytes] := by
  induction bytes generalizing current room with
  | nil =>
      rw [blocksFrom, if_neg]
      · simp
      · rintro hempty
        simp [List.isEmpty_iff.1 hempty] at hne
  | cons b rest ih =>
      rw [List.length_cons] at h
      rw [blocksFrom, if_neg (by omega), ih (by omega) (by simp)]
      simp

theorem blocks_full (hsize : 0 < size) (h : size ≤ bytes.length) :
    blocks size bytes = bytes.take size :: blocks size (bytes.drop size) :=
  blocksFrom_full hsize h

theorem blocks_short (h : bytes.length < size) (hne : bytes ≠ []) :
    blocks size bytes = [bytes] :=
  blocksFrom_short h hne

end Blocks

end RegionSnapshot
