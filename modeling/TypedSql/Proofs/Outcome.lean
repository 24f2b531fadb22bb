import TypedSql.Session.Client

/-!
# What a run comes to

`m.runOn s` is the outcome of `m` from the state `s`, with the state that it leaves:

    (m >>= k).runOn s = (k a).runOn t     if m.runOn s = (.ok a, t)
    (m >>= k).runOn s = (.error e, t)     if m.runOn s = (.error e, t)      (runOn_bind)

With one equation for each primitive, a run is followed by rewriting.
-/

namespace TypedSql.Run

variable {σ α β : Type}

theorem runOn_bind (m : Run σ α) (k : α → Run σ β) (s : σ) :
    (m >>= k).runOn s =
      match m.runOn s with
      | (.ok a, t) => (k a).runOn t
      | (.error e, t) => (.error e, t) := by
  simp only [runOn, ExceptT.run_bind, StateT.run_bind]
  show (match StateT.run (ExceptT.run m) s with | (a, t) => _) = _
  rcases StateT.run (ExceptT.run m) s with ⟨outcome, t⟩
  cases outcome <;> rfl

theorem runOn_bind_ok {m : Run σ α} {k : α → Run σ β} {s t : σ} {a : α}
    (h : m.runOn s = (.ok a, t)) : (m >>= k).runOn s = (k a).runOn t := by
  rw [runOn_bind, h]

theorem runOn_bind_error {m : Run σ α} {k : α → Run σ β} {s t : σ} {e : Error}
    (h : m.runOn s = (.error e, t)) : (m >>= k).runOn s = (.error e, t) := by
  rw [runOn_bind, h]

theorem runOn_map (f : α → β) (m : Run σ α) (s : σ) :
    (f <$> m).runOn s = ((m.runOn s).1.map f, (m.runOn s).2) := by
  rw [map_eq_pure_bind, runOn_bind]
  rcases m.runOn s with ⟨outcome, t⟩
  cases outcome <;> rfl

@[simp] theorem runOn_get (s : σ) : (get : Run σ σ).runOn s = (.ok s, s) := rfl

@[simp] theorem runOn_modify (f : σ → σ) (s : σ) :
    (modify f : Run σ Unit).runOn s = (.ok (), f s) := rfl

@[simp] theorem runOn_attempt (m : Run σ α) (s : σ) :
    m.attempt.runOn s = (.ok (m.runOn s).1, (m.runOn s).2) := rfl

theorem runOn_attempt_bind {m : Run σ α} {k : Except Error α → Run σ β} {s t : σ}
    {outcome : Except Error α} (h : m.runOn s = (outcome, t)) :
    (m.attempt >>= k).runOn s = (k outcome).runOn t :=
  runOn_bind_ok (by rw [runOn_attempt, h])

@[simp] theorem runOn_ofExcept (x : Except Error α) (s : σ) :
    (ofExcept x).runOn s = (x, s) := by
  cases x <;> rfl

theorem ofExcept_bind (x : Except Error α) (k : α → Except Error β) :
    (ofExcept (x.bind k) : Run σ β) = ofExcept x >>= fun a => ofExcept (k a) := by
  cases x <;> rfl

theorem mapM_ofExcept {ι : Type} (f : ι → Except Error α) (xs : List ι) :
    (xs.mapM fun x => (ofExcept (f x) : Run σ α)) = ofExcept (xs.mapM f) := by
  induction xs with
  | nil => rfl
  | cons x xs ih =>
    rw [List.mapM_cons, List.mapM_cons, ih]
    cases f x with
    | error e => rfl
    | ok a => cases xs.mapM f <;> rfl

end TypedSql.Run
