/-
  File:      Portfolio/Proofs/Outcome.lean
  Subject:   Steps that may fail, taken one after the other.

  * `bind_eq_ok`: two steps give a result when the first one does and the
    second one does from there.
  * `IsFault`: the program stops here, since no check names what is wrong.
  * `Guarded`: a step that gives a result under a condition and else fails
    with one fault. Steps of this kind compose (`Guarded.bind`).
  * `Checks`: a step that fails with something that is wrong, or else gives a good
    result. So do two of them, one after the other (`Checks.bind`).
-/
import Portfolio.Error

namespace Portfolio

variable {ε ε' α β : Type}

/-! ## 1. Results -/

theorem bind_eq_ok {x : Except ε α} {f : α → Except ε β} {b : β} :
    (x >>= f) = .ok b ↔ ∃ a, x = .ok a ∧ f a = .ok b := by
  cases x with
  | error e => simp [bind, Except.bind]
  | ok a => simp [bind, Except.bind]

theorem bind_eq_error {x : Except ε α} {f : α → Except ε β} {e : ε} :
    (x >>= f) = .error e ↔ x = .error e ∨ ∃ a, x = .ok a ∧ f a = .error e := by
  cases x with
  | error e' => simp [bind, Except.bind]
  | ok a => simp [bind, Except.bind]

theorem pure_eq_ok {a b : α} : (pure a : Except ε α) = .ok b ↔ a = b := by
  simp [pure, Except.pure]

theorem ok_bind (a : α) (f : α → Except ε β) : (Except.ok a >>= f) = f a := rfl

theorem error_bind (e : ε) (f : α → Except ε β) : (Except.error e >>= f) = .error e := rfl

/-- What the first step fails with, both steps fail with. -/
theorem bind_of_error {x : Except ε α} {f : α → Except ε β} {e : ε} (h : x = .error e) :
    (x >>= f) = .error e :=
  congrArg (· >>= f) h

theorem mapError_ok (f : ε → ε') (a : α) : (Except.ok a).mapError f = .ok a := rfl

theorem mapError_error (f : ε → ε') (e : ε) :
    (Except.error e : Except ε α).mapError f = .error (f e) := rfl

theorem mapError_eq_ok {x : Except ε α} {f : ε → ε'} {a : α} :
    x.mapError f = .ok a ↔ x = .ok a := by
  cases x with
  | error e => simp [mapError_error]
  | ok b => simp [mapError_ok]

theorem mapError_eq_error {x : Except ε α} {f : ε → ε'} {e : ε'} :
    x.mapError f = .error e ↔ ∃ e', x = .error e' ∧ f e' = e := by
  cases x with
  | error e' => simp [mapError_error]
  | ok a => simp [mapError_ok]

theorem mapError_of_error {x : Except ε α} {f : ε → ε'} {e : ε} (h : x = .error e) :
    x.mapError f = .error (f e) :=
  congrArg (Except.mapError f) h

/-! ## 2. Faults -/

/-- The step stops with a fault in the data. -/
def IsFault (x : Except Error α) : Prop :=
  ∃ f, x = .error (.fault f)

theorem not_isFault_ok (a : α) : ¬ IsFault (.ok a) :=
  fun ⟨_, h⟩ => nomatch h

theorem isFault_error {e : Error} : IsFault (.error e : Except Error α) ↔ ∃ f, e = .fault f := by
  simp [IsFault]

theorem isFault_bind {x : Except Error α} {f : α → Except Error β} :
    IsFault (x >>= f) ↔ IsFault x ∨ ∃ a, x = .ok a ∧ IsFault (f a) := by
  cases x with
  | error e => simp [IsFault, bind, Except.bind]
  | ok a => simp [IsFault, bind, Except.bind]

theorem isFault_mapError {x : Except ε α} {f : ε → Error} :
    IsFault (x.mapError f) ↔ ∃ e g, x = .error e ∧ f e = .fault g := by
  unfold IsFault
  simp only [mapError_eq_error]
  exact exists_comm

theorem isFault_mapError_fault {x : Except DataFault α} :
    IsFault (x.mapError .fault) ↔ ∃ f, x = .error f := by
  rw [isFault_mapError]
  refine ⟨fun ⟨f, _, hx, _⟩ => ⟨f, hx⟩, fun ⟨f, hx⟩ => ⟨f, f, hx, rfl⟩⟩

/-- A failure that is no fault does not become one by being named. -/
theorem not_isFault_mapError {x : Except ε α} {f : ε → Error} (hf : ∀ e g, f e ≠ .fault g) :
    ¬ IsFault (x.mapError f) := by
  intro h
  obtain ⟨e, g, _, he⟩ := isFault_mapError.mp h
  exact hf e g he

/-! ## 3. A condition and a fault -/

/-- The step gives a result if the condition holds, and else fails with the
    fault. -/
def Guarded (fault : ε) (condition : Prop) (x : Except ε α) : Prop :=
  (condition → ∃ a, x = .ok a) ∧ (¬ condition → x = .error fault)

theorem Guarded.ok {fault : ε} {P : Prop} (h : P) (a : α) : Guarded fault P (.ok a) :=
  ⟨fun _ => ⟨a, rfl⟩, fun hn => absurd h hn⟩

theorem Guarded.error {fault : ε} : Guarded fault False (.error fault : Except ε α) :=
  ⟨False.elim, fun _ => rfl⟩

theorem Guarded.congr {fault : ε} {P Q : Prop} {x : Except ε α} (h : Guarded fault P x)
    (hPQ : P ↔ Q) : Guarded fault Q x :=
  ⟨fun hq => h.1 (hPQ.mpr hq), fun hq => h.2 fun hp => hq (hPQ.mp hp)⟩

/-- Two guarded steps, one after the other: both conditions have to hold. -/
theorem Guarded.bind {fault : ε} {P Q : Prop} {x : Except ε α} {f : α → Except ε β}
    (hx : Guarded fault P x) (hf : ∀ a, x = .ok a → Guarded fault Q (f a)) :
    Guarded fault (P ∧ Q) (x >>= f) := by
  by_cases hp : P
  · obtain ⟨a, ha⟩ := hx.1 hp
    have hq := hf a ha
    rw [ha, ok_bind]
    exact ⟨fun h => hq.1 h.2, fun h => hq.2 fun q => h ⟨hp, q⟩⟩
  · rw [hx.2 hp, error_bind]
    exact ⟨fun h => absurd h.1 hp, fun _ => rfl⟩

/-- A step that cannot fail after a guarded one. -/
theorem Guarded.map {fault : ε} {P : Prop} {x : Except ε α} (hx : Guarded fault P x)
    (f : α → β) : Guarded fault P (x >>= fun a => pure (f a)) :=
  (hx.bind fun a _ => Guarded.ok trivial (f a)).congr (iff_of_eq (and_true P))

theorem Guarded.exists_ok_iff {fault : ε} {P : Prop} {x : Except ε α} (h : Guarded fault P x) :
    (∃ a, x = .ok a) ↔ P := by
  refine ⟨fun ⟨a, ha⟩ => Classical.byContradiction fun hp => ?_, h.1⟩
  rw [h.2 hp] at ha
  cases ha

/-! ## 4. What is wrong, and what is good -/

/-- The step fails with something that is wrong, or nothing is wrong and the result is
    good. -/
def Checks (wrong : ε → Prop) (good : α → Prop) : Except ε α → Prop
  | .error e => wrong e
  | .ok a => (∀ e, ¬ wrong e) ∧ good a

variable {wrong wrong' : ε → Prop} {good good' : α → Prop}

theorem Checks.congr {x : Except ε α} (h : Checks wrong good x) (hw : ∀ e, wrong e ↔ wrong' e)
    (hg : ∀ a, good a → good' a) : Checks wrong' good' x := by
  cases x with
  | error e => exact (hw e).mp h
  | ok a => exact ⟨fun e he => h.1 e ((hw e).mpr he), hg a h.2⟩

/-- A step that cannot fail after one that checks. -/
theorem Checks.map {x : Except ε α} (h : Checks wrong good x) (f : α → β) :
    Checks wrong (fun b => ∃ a, good a ∧ b = f a) (x >>= fun a => pure (f a)) := by
  cases x with
  | error e => exact h
  | ok a => exact ⟨h.1, a, h.2, rfl⟩

/-- **Two steps check what either of them does**, the second one with a good result of
    the first. -/
theorem Checks.bind {x : Except ε α} {f : α → Except ε β} {reached : α → β → Prop}
    (hx : Checks wrong good x) (hf : ∀ a, good a → Checks wrong' (reached a) (f a)) :
    Checks (fun e => wrong e ∨ wrong' e) (fun b => ∃ a, good a ∧ reached a b) (x >>= f) := by
  cases x with
  | error e => exact Or.inl hx
  | ok a =>
    rw [ok_bind]
    have h := hf a hx.2
    cases hb : f a with
    | error e =>
      rw [hb] at h
      exact Or.inr h
    | ok b =>
      rw [hb] at h
      refine ⟨fun e he => ?_, a, hx.2, h.2⟩
      rcases he with he | he
      · exact hx.1 e he
      · exact h.1 e he

theorem Checks.of_wrong {x : Except ε α} (h : Checks wrong good x) (hw : ∃ e, wrong e) :
    ∃ e, x = .error e ∧ wrong e := by
  obtain ⟨e', he'⟩ := hw
  cases x with
  | error e => exact ⟨e, rfl, h⟩
  | ok a => exact absurd he' (h.1 e')

theorem Checks.of_not_wrong {x : Except ε α} (h : Checks wrong good x) (hw : ¬ ∃ e, wrong e) :
    ∃ a, x = .ok a ∧ good a := by
  cases x with
  | error e => exact absurd ⟨e, h⟩ hw
  | ok a => exact ⟨a, rfl, h.2⟩

end Portfolio
