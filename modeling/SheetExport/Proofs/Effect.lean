/-!
# Steps with a state and an error

`Effect.run` is what steps come to from a state: their result and the state they
leave. A sequence goes on from the state of the step before and ends at the
first error, and so does a fold.
-/

namespace SheetExport

theorem Except.bind_eq_ok {ε α β : Type} {x : Except ε α} {f : α → Except ε β} {b : β} :
    (x >>= f) = .ok b ↔ ∃ a, x = .ok a ∧ f a = .ok b := by
  cases x <;> simp [bind, Except.bind]

@[simp] theorem Except.mapError_ok {ε ε' α : Type} {f : ε → ε'} {a : α} :
    (Except.ok a).mapError f = .ok a := rfl

@[simp] theorem Except.mapError_error {ε ε' α : Type} {f : ε → ε'} {e : ε} :
    (Except.error e : Except ε α).mapError f = .error (f e) := rfl

theorem Except.toOption_eq_some {ε α : Type} {x : Except ε α} {a : α} :
    x.toOption = some a ↔ x = .ok a := by
  cases x <;> simp [Except.toOption]

theorem Except.mapError_eq_ok {ε ε' α : Type} {x : Except ε α} {f : ε → ε'} {a : α} :
    x.mapError f = .ok a ↔ x = .ok a := by
  cases x <;> simp

namespace Effect

variable {ε σ α β : Type} {x : ExceptT ε (StateM σ) α} {f : α → ExceptT ε (StateM σ) β}
  {s u : σ}

/-- The result of steps from a state, and the state they leave. -/
def run (x : ExceptT ε (StateM σ) α) (s : σ) : Except ε α × σ := x s

@[simp] theorem run_pure (a : α) (s : σ) :
    run (pure a : ExceptT ε (StateM σ) α) s = (.ok a, s) := rfl

@[simp] theorem run_throw (e : ε) (s : σ) :
    run (throw e : ExceptT ε (StateM σ) α) s = (.error e, s) := rfl

@[simp] theorem run_get (s : σ) : run (get : ExceptT ε (StateM σ) σ) s = (.ok s, s) := rfl

@[simp] theorem run_set (t s : σ) :
    run (set t : ExceptT ε (StateM σ) PUnit) s = (.ok ⟨⟩, t) := rfl

@[simp] theorem run_modify (g : σ → σ) (s : σ) :
    run (modify g : ExceptT ε (StateM σ) PUnit) s = (.ok ⟨⟩, g s) := rfl

theorem run_bind (x : ExceptT ε (StateM σ) α) (f : α → ExceptT ε (StateM σ) β) (s : σ) :
    run (x >>= f) s = match run x s with
      | (.ok a, t) => run (f a) t
      | (.error e, t) => (.error e, t) := by
  simp only [run, bind, ExceptT.bind, ExceptT.mk, StateT.bind]
  rcases x s with ⟨a | e, t⟩ <;> rfl

theorem run_bind_eq_ok {b : β} :
    run (x >>= f) s = (.ok b, u) ↔ ∃ a t, run x s = (.ok a, t) ∧ run (f a) t = (.ok b, u) := by
  rw [run_bind]
  rcases run x s with ⟨e | a, t⟩
  · simp
  · simp [and_assoc]

theorem run_bind_eq_error {e : ε} :
    run (x >>= f) s = (.error e, u) ↔
      run x s = (.error e, u) ∨ ∃ a t, run x s = (.ok a, t) ∧ run (f a) t = (.error e, u) := by
  rw [run_bind]
  rcases run x s with ⟨e' | a, t⟩
  · simp
  · simp [and_assoc]

section Fold

variable {g : β → α → ExceptT ε (StateM σ) β} {xs : List α} {b : β}

/-- A fold fails at one of its items, after those before it went well. -/
theorem run_foldlM_eq_error {e : ε} :
    run (xs.foldlM g b) s = (.error e, u) ↔ ∃ ys x zs c t, xs = ys ++ x :: zs ∧
      run (ys.foldlM g b) s = (.ok c, t) ∧ run (g c x) t = (.error e, u) := by
  induction xs generalizing b s with
  | nil => simp
  | cons x xs ih =>
    rw [List.foldlM_cons, run_bind_eq_error]
    constructor
    · rintro (hx | ⟨c, t, hx, hrest⟩)
      · exact ⟨[], x, xs, b, s, rfl, by simp, hx⟩
      · obtain ⟨ys, y, zs, d, v, rfl, hys, hy⟩ := ih.1 hrest
        refine ⟨x :: ys, y, zs, d, v, rfl, ?_, hy⟩
        rw [List.foldlM_cons, run_bind_eq_ok]
        exact ⟨c, t, hx, hys⟩
    · rintro ⟨ys, y, zs, d, v, hxs, hys, hy⟩
      cases ys with
      | nil =>
        obtain ⟨rfl, rfl⟩ := List.cons.inj hxs
        cases hys
        exact .inl hy
      | cons x' ys =>
        obtain ⟨rfl, rfl⟩ := List.cons.inj hxs
        rw [List.foldlM_cons, run_bind_eq_ok] at hys
        obtain ⟨c, t, hx, hys⟩ := hys
        exact .inr ⟨c, t, hx, ih.2 ⟨ys, y, zs, d, v, rfl, hys, hy⟩⟩

/-- What every step of a fold keeps the fold keeps, however it ends. -/
theorem run_foldlM_rel {R : σ → σ → Prop} (hrefl : ∀ s, R s s)
    (htrans : ∀ {s t u}, R s t → R t u → R s u)
    (hstep : ∀ b, ∀ x ∈ xs, ∀ s, R s (run (g b x) s).2) (b : β) (s : σ) :
    R s (run (xs.foldlM g b) s).2 := by
  induction xs generalizing b s with
  | nil => exact hrefl s
  | cons x xs ih =>
    have hx := hstep b x List.mem_cons_self s
    rw [List.foldlM_cons, run_bind]
    generalize run (g b x) s = y at hx ⊢
    obtain ⟨e | c, t⟩ := y
    · exact hx
    · exact htrans hx (ih (fun b y hy => hstep b y (List.mem_cons_of_mem _ hy)) c t)

end Fold

section Lockstep

variable {τ : Type} {R : σ → τ → Prop} {y : ExceptT ε (StateM τ) α}
  {g : α → ExceptT ε (StateM τ) β}

/-- Two results are the same, and a relation holds of the states beside them. -/
def Agree (R : σ → τ → Prop) (x : α × σ) (y : α × τ) : Prop := y.1 = x.1 ∧ R x.2 y.2

theorem Agree.cases {x : α × σ} {y : α × τ} (h : Agree R x y) :
    ∃ a s t, x = (a, s) ∧ y = (a, t) ∧ R s t :=
  ⟨x.1, x.2, y.2, rfl, Prod.ext h.1 rfl, h.2⟩

/-- From states that a relation holds of, two actions come to the same result and
to such states again. -/
def Lockstep (R : σ → τ → Prop) (x : ExceptT ε (StateM σ) α) (y : ExceptT ε (StateM τ) α) : Prop :=
  ∀ s t, R s t → Agree R (run x s) (run y t)

theorem Lockstep.pure (a : α) :
    Lockstep R (Pure.pure a : ExceptT ε (StateM σ) α) (Pure.pure a : ExceptT ε (StateM τ) α) :=
  fun _ _ h => ⟨rfl, h⟩

theorem Lockstep.bind (hx : Lockstep R x y) (hf : ∀ a, Lockstep R (f a) (g a)) :
    Lockstep R (x >>= f) (y >>= g) := by
  intro s t h
  obtain ⟨r, s', t', hs, ht, h'⟩ := (hx s t h).cases
  rw [run_bind, run_bind, hs, ht]
  cases r with
  | error e => exact ⟨rfl, h'⟩
  | ok a => exact hf a s' t' h'

theorem Lockstep.foldlM {F : β → α → ExceptT ε (StateM σ) β} {G : β → α → ExceptT ε (StateM τ) β}
    (h : ∀ b x, Lockstep R (F b x) (G b x)) (b : β) (xs : List α) :
    Lockstep R (xs.foldlM F b) (xs.foldlM G b) := by
  induction xs generalizing b with
  | nil => exact .pure b
  | cons x xs ih =>
    rw [List.foldlM_cons, List.foldlM_cons]
    exact (h b x).bind ih

end Lockstep

end Effect

end SheetExport
