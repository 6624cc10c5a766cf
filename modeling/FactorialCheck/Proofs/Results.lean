/-!
# Results that are there

When a computation that may fail has a result, and when it has none.
-/

namespace FactorialCheck

variable {ε α β : Type}

theorem map_eq_ok_iff {x : Except ε α} {f : α → β} {b : β} :
    x.map f = .ok b ↔ ∃ a, x = .ok a ∧ f a = b := by
  cases x with
  | error e => simp [Except.map]
  | ok a => simp [Except.map]

theorem map_eq_error_iff {x : Except ε α} {f : α → β} {e : ε} :
    x.map f = .error e ↔ x = .error e := by
  cases x with
  | error other => simp [Except.map]
  | ok a => simp [Except.map]

theorem bind_eq_ok_iff {x : Except ε α} {f : α → Except ε β} {b : β} :
    (x >>= f) = .ok b ↔ ∃ a, x = .ok a ∧ f a = .ok b := by
  cases x with
  | error e => simp [bind, Except.bind]
  | ok a => simp [bind, Except.bind]

theorem bind_eq_error_iff {x : Except ε α} {f : α → Except ε β} {e : ε} :
    (x >>= f) = .error e ↔ x = .error e ∨ ∃ a, x = .ok a ∧ f a = .error e := by
  cases x with
  | error other => simp [bind, Except.bind]
  | ok a => simp [bind, Except.bind]

/-- What comes after a computation and cannot fail does not account for a failure. -/
theorem eq_error_of_bind_ok {x : Except ε α} {f : α → β} {e : ε}
    (h : (x >>= fun a => .ok (f a)) = .error e) : x = .error e := by
  rcases bind_eq_error_iff.mp h with hx | ⟨a, -, hok⟩
  · exact hx
  · cases hok

theorem isOk_iff {x : Except ε α} : x.isOk = true ↔ ∃ a, x = .ok a := by
  cases x with
  | error e => simp [Except.isOk, Except.toBool]
  | ok a => simp [Except.isOk, Except.toBool]

theorem isOk_map {x : Except ε α} {f : α → β} : (x.map f).isOk = x.isOk := by
  cases x <;> rfl

/-- Of computations one after the other each has to have a result. -/
theorem isOk_mapM {f : α → Except ε β} {xs : List α} :
    (xs.mapM f).isOk = xs.all fun x => (f x).isOk := by
  induction xs with
  | nil => rfl
  | cons x rest ih =>
    rw [List.mapM_cons, List.all_cons, ← ih]
    cases f x with
    | error e => rfl
    | ok y => cases rest.mapM f <;> rfl

/-- Computations one after the other fail at the first of them that has no result. -/
theorem mapM_eq_error_iff {f : α → Except ε β} {xs : List α} {e : ε} :
    xs.mapM f = .error e ↔ ∃ x, xs.find? (fun x => !(f x).isOk) = some x ∧ f x = .error e := by
  induction xs with
  | nil =>
    constructor
    · intro h
      cases h
    · rintro ⟨x, hfind, -⟩
      cases hfind
  | cons x rest ih =>
    rw [List.mapM_cons]
    cases hx : f x with
    | error other =>
      have hfind : (x :: rest).find? (fun x => !(f x).isOk) = some x := by
        rw [List.find?_cons_of_pos]
        rw [hx]
        rfl
      rw [hfind]
      change (Except.error other : Except ε (List β)) = .error e ↔ _
      constructor
      · intro h
        cases h
        exact ⟨x, rfl, hx⟩
      · rintro ⟨y, hy, hfails⟩
        cases hy
        rw [hx] at hfails
        cases hfails
        rfl
    | ok y =>
      have hfind : (x :: rest).find? (fun x => !(f x).isOk) =
          rest.find? (fun x => !(f x).isOk) := by
        rw [List.find?_cons_of_neg]
        rw [hx]
        exact Bool.false_ne_true
      rw [hfind, ← ih]
      constructor
      · exact eq_error_of_bind_ok
      · intro h
        rw [h]
        rfl

/-- Computations one after the other that all succeed have their results in order. -/
theorem mapM_map_eq_ok {γ : Type} {f : γ → Except ε β} {g : α → γ} {result : α → β}
    {xs : List α} (h : ∀ x ∈ xs, f (g x) = .ok (result x)) :
    (xs.map g).mapM f = .ok (xs.map result) := by
  induction xs with
  | nil => rfl
  | cons x rest ih =>
    rw [List.map_cons, List.mapM_cons, h x List.mem_cons_self,
      ih fun y hy => h y (List.mem_cons_of_mem x hy)]
    rfl

/-- Steps that fail do so at one of them, which those before it have led to. -/
theorem exists_of_foldlM_eq_error {f : β → α → Except ε β} {b : β} {xs : List α} {e : ε}
    (h : xs.foldlM f b = .error e) :
    ∃ before x after c, xs = before ++ x :: after ∧ before.foldlM f b = .ok c ∧
      f c x = .error e := by
  induction xs generalizing b with
  | nil => cases h
  | cons x rest ih =>
    rw [List.foldlM_cons] at h
    rcases bind_eq_error_iff.mp h with hfirst | ⟨next, hnext, hrest⟩
    · exact ⟨[], x, rest, b, rfl, rfl, hfirst⟩
    · obtain ⟨before, y, after, c, rfl, hbefore, hfails⟩ := ih hrest
      refine ⟨x :: before, y, after, c, rfl, ?_, hfails⟩
      rw [List.foldlM_cons, hnext]
      exact hbefore

/-- What is true of at most one of the elements finds that one. -/
theorem find?_eq_some_iff_of_unique {p : α → Bool} {xs : List α}
    (hunique : ∀ a ∈ xs, ∀ b ∈ xs, p a = true → p b = true → a = b) {a : α} (ha : a ∈ xs) :
    xs.find? p = some a ↔ p a = true := by
  constructor
  · exact List.find?_some
  · intro h
    cases hfind : xs.find? p with
    | none => exact absurd h (List.find?_eq_none.mp hfind a ha)
    | some b =>
      rw [hunique b (List.mem_of_find?_eq_some hfind) a ha (List.find?_some hfind) h]

theorem ok_bind_eq (a : α) (f : α → Except ε β) : (Except.ok a >>= f) = f a :=
  rfl

end FactorialCheck
