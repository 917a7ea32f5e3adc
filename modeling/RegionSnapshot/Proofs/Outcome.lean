/-
Results that may be failures.  A sequence of steps succeeds exactly if each of
its steps does.
-/
namespace RegionSnapshot
namespace Outcome

universe u v

variable {ε : Type u} {α β γ : Type v}

/-- Results whose errors are not compared are tested through `toOption`. -/
theorem eq_ok_of_toOption {x : Except ε α} {a : α} (h : x.toOption = some a) :
    x = .ok a := by
  cases x with
  | error e => cases h
  | ok b => rw [Option.some.inj h]

theorem bind_eq_ok_iff {x : Except ε α} {f : α → Except ε β} {b : β} :
    x >>= f = .ok b ↔ ∃ a, x = .ok a ∧ f a = .ok b := by
  cases x with
  | error e =>
      constructor
      · intro h
        cases h
      · rintro ⟨a, ha, -⟩
        cases ha
  | ok a =>
      constructor
      · intro h
        exact ⟨a, rfl, h⟩
      · rintro ⟨b, hb, hf⟩
        cases hb
        exact hf

theorem bind_eq_error_iff {x : Except ε α} {f : α → Except ε β} {e : ε} :
    x >>= f = .error e ↔ x = .error e ∨ ∃ a, x = .ok a ∧ f a = .error e := by
  cases x <;> simp [bind, Except.bind]

theorem map_eq_ok_iff {x : Except ε α} {f : α → β} {b : β} :
    x.map f = .ok b ↔ ∃ a, x = .ok a ∧ f a = b := by
  cases x with
  | error e => simp [Except.map]
  | ok a => simp [Except.map]

theorem map_isOk_iff {x : Except ε α} {f : α → β} :
    (∃ b, x.map f = .ok b) ↔ ∃ a, x = .ok a := by
  cases x <;> simp [Except.map]

theorem mapError_eq_ok_iff {δ : Type u} {x : Except ε α} {f : ε → δ} {a : α} :
    x.mapError f = .ok a ↔ x = .ok a := by
  cases x with
  | error e =>
      change Except.error (f e) = .ok a ↔ _
      simp
  | ok b =>
      change Except.ok b = .ok a ↔ _
      simp

/-- Two steps succeed together exactly if each of them does. -/
theorem both_isOk_iff {x : Except ε α} {y : Except ε β} {f : α → β → γ} :
    (∃ c, (do let a ← x; let b ← y; return f a b) = .ok c) ↔
      (∃ a, x = .ok a) ∧ ∃ b, y = .ok b := by
  cases x with
  | error e => simp [bind, Except.bind]
  | ok a =>
      cases y with
      | error e => simp [bind, Except.bind]
      | ok b => simp [bind, Except.bind, pure, Except.pure]

/-- A step for each element succeeds with the results of the single steps. -/
theorem mapM_eq_ok_iff {f : α → Except ε β} {xs : List α} {ys : List β} :
    xs.mapM f = .ok ys ↔ xs.map f = ys.map .ok := by
  induction xs generalizing ys with
  | nil =>
      constructor
      · intro h
        cases h
        rfl
      · intro h
        rw [List.map_nil, eq_comm, List.map_eq_nil_iff] at h
        subst h
        rfl
  | cons x rest ih =>
      rw [List.mapM_cons, bind_eq_ok_iff]
      constructor
      · rintro ⟨y, hy, hrest⟩
        obtain ⟨others, hothers, heq⟩ := bind_eq_ok_iff.1 hrest
        cases heq
        rw [List.map_cons, List.map_cons, hy, ih.1 hothers]
      · intro h
        cases ys with
        | nil => simp at h
        | cons y others =>
            rw [List.map_cons, List.map_cons, List.cons.injEq] at h
            refine ⟨y, h.1, bind_eq_ok_iff.2 ⟨others, ih.2 h.2, rfl⟩⟩

theorem mem_of_mapM {f : α → Except ε β} {xs : List α} {ys : List β}
    (h : xs.mapM f = .ok ys) {y : β} (hy : y ∈ ys) : ∃ x ∈ xs, f x = .ok y := by
  rw [mapM_eq_ok_iff] at h
  obtain ⟨x, hx, heq⟩ := List.mem_map.1 (h ▸ List.mem_map.2 ⟨y, hy, rfl⟩)
  exact ⟨x, hx, heq⟩

theorem exists_of_mem_mapM {f : α → Except ε β} {xs : List α} {ys : List β}
    (h : xs.mapM f = .ok ys) {x : α} (hx : x ∈ xs) : ∃ y ∈ ys, f x = .ok y := by
  rw [mapM_eq_ok_iff] at h
  obtain ⟨y, hy, heq⟩ := List.mem_map.1 (h ▸ List.mem_map.2 ⟨x, hx, rfl⟩)
  exact ⟨y, hy, heq.symm⟩

/-- Each result stands at the place of the element that it was made of. -/
theorem getElem?_mapM {f : α → Except ε β} {xs : List α} {ys : List β}
    (h : xs.mapM f = .ok ys) (place : Nat) :
    xs[place]?.map f = ys[place]?.map .ok := by
  have hplace := congrArg (fun results => results[place]?) (mapM_eq_ok_iff.1 h)
  simpa only [List.getElem?_map] using hplace

theorem mapM_in_place {f : α → Except ε β} {xs : List α} {ys : List β}
    (h : xs.mapM f = .ok ys) :
    ys.length = xs.length ∧
      ∀ (place : Nat) (x : α), xs[place]? = some x →
        ∃ y, ys[place]? = some y ∧ f x = .ok y := by
  constructor
  · simpa using (congrArg List.length (mapM_eq_ok_iff.1 h)).symm
  · intro place x hx
    have hplace := getElem?_mapM h place
    rw [hx, Option.map_some, eq_comm] at hplace
    obtain ⟨y, hy, heq⟩ := Option.map_eq_some_iff.1 hplace
    exact ⟨y, hy, heq.symm⟩

/-- A step for each element fails with the first step that does. -/
theorem mapM_eq_error_iff {f : α → Except ε β} {xs : List α} {e : ε} :
    xs.mapM f = .error e ↔
      ∃ place x, xs[place]? = some x ∧ f x = .error e ∧
        ∀ before ∈ xs.take place, ∃ y, f before = .ok y := by
  induction xs with
  | nil => simp [pure, Except.pure]
  | cons first rest ih =>
      rw [List.mapM_cons, bind_eq_error_iff]
      constructor
      · rintro (hfirst | ⟨y, hy, h⟩)
        · exact ⟨0, first, rfl, hfirst, by simp⟩
        · rcases bind_eq_error_iff.1 h with hrest | ⟨others, -, hdone⟩
          · obtain ⟨place, x, hx, hfails, hbefore⟩ := ih.1 hrest
            exact ⟨place + 1, x, hx, hfails,
              List.forall_mem_cons.2 ⟨⟨y, hy⟩, hbefore⟩⟩
          · cases hdone
      · rintro ⟨place, x, hx, hfails, hbefore⟩
        cases place with
        | zero =>
            cases hx
            exact .inl hfails
        | succ place =>
            rw [List.take_succ_cons, List.forall_mem_cons] at hbefore
            obtain ⟨⟨y, hy⟩, hbefore⟩ := hbefore
            exact .inr ⟨y, hy, bind_eq_error_iff.2
              (.inl (ih.2 ⟨place, x, hx, hfails, hbefore⟩))⟩

theorem mem_of_filterMapM {f : α → Except ε (Option β)} {xs : List α}
    {ys : List β} (h : xs.filterMapM f = .ok ys) {y : β} (hy : y ∈ ys) :
    ∃ x ∈ xs, f x = .ok (some y) := by
  induction xs generalizing ys with
  | nil =>
      cases h
      cases hy
  | cons x rest ih =>
      rw [List.filterMapM_cons] at h
      obtain ⟨first, hfirst, h⟩ := bind_eq_ok_iff.1 h
      cases first with
      | none =>
          obtain ⟨other, hother, heq⟩ := ih h hy
          exact ⟨other, List.mem_cons_of_mem x hother, heq⟩
      | some value =>
          obtain ⟨values, hvalues, h⟩ := bind_eq_ok_iff.1 h
          cases h
          rcases List.mem_cons.1 hy with rfl | hold
          · exact ⟨x, List.mem_cons_self, hfirst⟩
          · obtain ⟨other, hother, heq⟩ := ih hvalues hold
            exact ⟨other, List.mem_cons_of_mem x hother, heq⟩

theorem exists_mapM {f : α → Except ε β} {P : β → Prop} {xs : List α}
    (h : ∀ x ∈ xs, ∃ y, f x = .ok y ∧ P y) :
    ∃ ys, xs.mapM f = .ok ys ∧ ∀ y ∈ ys, P y := by
  induction xs with
  | nil => exact ⟨[], rfl, fun _ hy => absurd hy List.not_mem_nil⟩
  | cons x rest ih =>
      rw [List.forall_mem_cons] at h
      obtain ⟨y, hy, hproperty⟩ := h.1
      obtain ⟨ys, hys, hall⟩ := ih h.2
      refine ⟨y :: ys, ?_, List.forall_mem_cons.2 ⟨hproperty, hall⟩⟩
      rw [List.mapM_cons, hy, hys]
      rfl

end Outcome
end RegionSnapshot
