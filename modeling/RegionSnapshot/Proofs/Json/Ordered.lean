/-
Read values stand in order.  Whatever a text puts first, the reader keeps the
members of every container that is still open in the order of their names, so
the value that it ends with is ordered: what one character does keeps the
order, and so does a whole text.
-/
import RegionSnapshot.Proofs.Json.Members
import RegionSnapshot.Proofs.Outcome

namespace RegionSnapshot
namespace Json

/-- The values in an open container are in order. -/
def Frame.Ordered : Frame → Prop
  | .items values => OrderedItems values
  | .member entries _ => (Json.obj entries).Ordered

/-- A name stands in an object whose members so far are in order. -/
def Role.Ordered : Role → Prop
  | .value => True
  | .name entries => (Json.obj entries).Ordered

/-- The values that were read last are in order. -/
def Phase.Ordered : Phase → Prop
  | .name entries => (Json.obj entries).Ordered
  | .colon entries _ => (Json.obj entries).Ordered
  | .nextItem values => OrderedItems values
  | .nextMember entries => (Json.obj entries).Ordered
  | .text role _ _ => role.Ordered
  | .word _ json => json.Ordered
  | .done json => json.Ordered
  | _ => True

/-- All that is read so far is in order. -/
structure Reading.Ordered (r : Reading) : Prop where
  phase : r.phase.Ordered
  stack : ∀ frame ∈ r.stack, frame.Ordered

theorem ordered_emptyObject : (Json.obj []).Ordered :=
  ⟨Entries.sorted_nil, trivial⟩

theorem Ordered.insert {members : List (String × Json)} {value : Json}
    (h : (Json.obj members).Ordered) (hvalue : value.Ordered) (name : String) :
    (Json.obj (Entries.insert name value members)).Ordered := by
  rw [Ordered] at h
  exact ⟨h.1.insert name value, h.2.insert hvalue name⟩

theorem orderedItems_reverse {items : List Json} (h : OrderedItems items) :
    (Json.arr items.reverse).Ordered := by
  rw [orderedItems_iff] at h
  rw [Ordered, orderedItems_iff]
  intro item hitem
  exact h item (List.mem_reverse.1 hitem)

namespace Reading

variable {r next : Reading} {stack : List Frame} {c : Char}

theorem ordered_start : start.Ordered :=
  ⟨trivial, fun _ hframe => absurd hframe List.not_mem_nil⟩

theorem ordered_settle {json : Json} (hjson : json.Ordered)
    (hstack : ∀ frame ∈ stack, frame.Ordered) :
    (settle json stack).Ordered := by
  rcases stack with _ | ⟨frame, outer⟩
  · exact ⟨hjson, hstack⟩
  · have hframe : frame.Ordered := hstack frame List.mem_cons_self
    have houter : ∀ other ∈ outer, other.Ordered :=
      fun other hother => hstack other (List.mem_cons_of_mem frame hother)
    cases frame with
    | items values => exact ⟨⟨hjson, hframe⟩, houter⟩
    | member entries name =>
        exact ⟨Json.Ordered.insert hframe hjson name, houter⟩

theorem ordered_closeText {role : Role} (hrole : role.Ordered)
    (hstack : ∀ frame ∈ stack, frame.Ordered) (chars : List Char) :
    (closeText role chars stack).Ordered := by
  cases role with
  | value => exact ordered_settle trivial hstack
  | name entries => exact ⟨hrole, hstack⟩

theorem ordered_closeNumber {draft : Draft}
    (hstack : ∀ frame ∈ stack, frame.Ordered)
    (h : closeNumber draft stack = .ok next) : next.Ordered := by
  rw [closeNumber] at h
  split at h
  · cases h
    exact ordered_settle trivial hstack
  · cases h

/-- The first character of a value puts nothing into the containers. -/
theorem ordered_begin (hstack : ∀ frame ∈ stack, frame.Ordered)
    (h : begin stack c = .ok next) : next.Ordered := by
  have hopen : ∀ phase : Phase, phase.Ordered →
      (if stack.length < depthLimit then
        (.ok ⟨phase, stack⟩ : Except ReadError Reading)
      else .error .malformed) = .ok next → next.Ordered := by
    intro phase hphase hnext
    split at hnext
    · cases hnext
      exact ⟨hphase, hstack⟩
    · cases hnext
  simp only [begin] at h
  split at h
  case h_6 => exact hopen .firstItem trivial h
  case h_7 => exact hopen .firstName trivial h
  case h_8 =>
    split at h
    · cases h
      exact ⟨trivial, hstack⟩
    · cases h
      exact ⟨trivial, hstack⟩
    · cases h
  all_goals
    cases h
    exact ⟨trivial, hstack⟩

/-- Between two tokens a character opens or closes a container, or goes on in
one. -/
theorem ordered_stepBetween (hr : r.Ordered)
    (h : stepBetween r c = .ok next) : next.Ordered := by
  have hitems : (Frame.items []).Ordered := trivial
  obtain ⟨phase, stack⟩ := r
  obtain ⟨hphase, hstack⟩ := hr
  simp only [stepBetween] at h
  split at h
  · cases h
    exact ⟨hphase, hstack⟩
  · split at h
    · exact ordered_begin hstack h
    · cases h
      exact ordered_settle trivial hstack
    · exact ordered_begin (List.forall_mem_cons.2 ⟨hitems, hstack⟩) h
    · cases h
      exact ordered_settle ordered_emptyObject hstack
    · cases h
      exact ⟨ordered_emptyObject, hstack⟩
    · cases h
      exact ⟨hphase, hstack⟩
    · cases h
      exact ⟨trivial, List.forall_mem_cons.2 ⟨hphase, hstack⟩⟩
    · cases h
      exact ⟨trivial, List.forall_mem_cons.2 ⟨hphase, hstack⟩⟩
    · cases h
      exact ordered_settle (orderedItems_reverse hphase) hstack
    · cases h
      exact ⟨hphase, hstack⟩
    · cases h
      exact ordered_settle hphase hstack
    · cases h

/-- One more character keeps what is read in order. -/
theorem Ordered.step (hr : r.Ordered) (h : Reading.step r c = .ok next) :
    next.Ordered := by
  obtain ⟨phase, stack⟩ := r
  have hstack := hr.stack
  have hphase := hr.phase
  simp only [Reading.step] at h
  split at h
  · split at h
    · cases h
      exact ordered_closeText hphase hstack _
    · obtain ⟨⟨chars, escape⟩, -, rfl⟩ := Outcome.map_eq_ok_iff.1 h
      exact ⟨hphase, hstack⟩
  · split at h
    · cases h
      split
      · exact ordered_settle hphase hstack
      · exact ⟨hphase, hstack⟩
    · cases h
  · split at h
    · obtain ⟨draft, -, rfl⟩ := Outcome.map_eq_ok_iff.1 h
      exact ⟨trivial, hstack⟩
    · obtain ⟨closed, hclosed, hnext⟩ := Outcome.bind_eq_ok_iff.1 h
      exact ordered_stepBetween (ordered_closeNumber hstack hclosed) hnext
  · exact ordered_stepBetween hr h

/-- A text keeps what is read in order. -/
theorem Ordered.foldlM_step {chars : List Char} (hr : r.Ordered)
    (h : chars.foldlM Reading.step r = .ok next) : next.Ordered := by
  induction chars generalizing r with
  | nil =>
      cases h
      exact hr
  | cons c rest ih =>
      rw [List.foldlM_cons] at h
      obtain ⟨between, hstep, hrest⟩ := Outcome.bind_eq_ok_iff.1 h
      exact ih (hr.step hstep) hrest

theorem Ordered.finish {json : Json} (hr : r.Ordered)
    (h : r.finish = .ok json) : json.Ordered := by
  obtain ⟨phase, stack⟩ := r
  have hphase := hr.phase
  simp only [Reading.finish] at h
  split at h
  · cases h
    exact hphase
  · split at h
    · split at h
      · rename_i hclosed
        cases h
        exact (ordered_closeNumber hr.stack hclosed).phase
      · cases h
      · cases h
    · cases h
  · cases h

end Reading

/-- What a text is read as is ordered. -/
theorem ordered_parse {text : String} {json : Json}
    (h : Json.parse text = .ok json) : json.Ordered := by
  obtain ⟨r, hfold, hfinish⟩ := Outcome.bind_eq_ok_iff.1 h
  have hr : r.Ordered := Reading.ordered_start.foldlM_step hfold
  exact hr.finish hfinish

end Json
end RegionSnapshot
