import SimLLM.ExceptRules

/-! Pre- and postconditions for computations with a state that survives a throw. -/

namespace EStateM

variable {ε σ α β : Type} {Q R : α → σ → Prop} {E F : σ → Prop} {s : σ}

/-- Where a run may end: in `Q` when it returns, in `E` when it throws. -/
def Result.Ends (Q : α → σ → Prop) (E : σ → Prop) : EStateM.Result ε σ α → Prop
  | .ok a s => Q a s
  | .error _ s => E s

variable {r : EStateM.Result ε σ α}

theorem Result.Ends.mono (h : r.Ends Q E) (hq : ∀ a s, Q a s → R a s) (he : ∀ s, E s → F s) :
    r.Ends R F := by
  cases r with
  | ok a s => exact hq a s h
  | error e s => exact he s h

abbrev Result.EndsIn (P : σ → Prop) (r : EStateM.Result ε σ α) : Prop := r.Ends (fun _ => P) P

def Result.state : EStateM.Result ε σ α → σ
  | .ok _ s => s
  | .error _ s => s

theorem Result.Ends.state {P : σ → Prop} (h : r.EndsIn P) : P r.state := by
  cases r with
  | ok a s | error e s => exact h

/-- Where a run may end, with the error it throws in view. -/
def Result.Meets (Q : α → σ → Prop) (F : ε → σ → Prop) : EStateM.Result ε σ α → Prop
  | .ok a s => Q a s
  | .error e s => F e s

section Meets

variable {G H : ε → σ → Prop} {a : α} {e : ε}

theorem Result.Meets.of_eq (hq : ∀ a s, r = .ok a s → Q a s)
    (he : ∀ e s, r = .error e s → G e s) : r.Meets Q G := by
  cases r with
  | ok a s => exact hq a s rfl
  | error e s => exact he e s rfl

theorem Result.Meets.of_ok (h : r.Meets Q G) (hr : r = .ok a s) : Q a s := by
  subst hr
  exact h

theorem Result.Meets.of_error (h : r.Meets Q G) (hr : r = .error e s) : G e s := by
  subst hr
  exact h

theorem Result.Meets.mono (h : r.Meets Q G) (hq : ∀ a s, Q a s → R a s)
    (he : ∀ e s, G e s → H e s := by exact fun _ _ h => h) : r.Meets R H := by
  cases r with
  | ok a s => exact hq a s h
  | error e s => exact he e s h

end Meets

variable {x : EStateM ε σ α}

variable {s' : σ}

theorem ends_of_eq_ok {a : α} (h : (x s).Ends Q E) (hx : x s = .ok a s') : Q a s' := by
  rw [hx] at h
  exact h

theorem ends_of_eq_error {e : ε} (h : (x s).Ends Q E) (hx : x s = .error e s') : E s' := by
  rw [hx] at h
  exact h

theorem ends_pure {a : α} (h : Q a s) : ((pure a : EStateM ε σ α) s).Ends Q E := h

theorem ends_throw {e : ε} (h : E s) : ((throw e : EStateM ε σ α) s).Ends Q E := h

variable {Q : β → σ → Prop} {f : α → EStateM ε σ β}

theorem ends_bind (h : (x s).Ends (fun a s' => (f a s').Ends Q E) E) : ((x >>= f) s).Ends Q E := by
  cases hx : x s with
  | ok a s' =>
    rw [bind_of_ok hx]
    rw [hx] at h
    exact h
  | error e s' =>
    rw [bind_of_error hx]
    rw [hx] at h
    exact h

/-- The sequencing rule: from wherever the first part returns, the second ends as asked. -/
theorem Result.Ends.bind (h : (x s).Ends R F)
    (hf : ∀ a s', R a s' → (f a s').Ends Q E) (he : ∀ s', F s' → E s' := by exact fun _ h => h) :
    ((x >>= f) s).Ends Q E :=
  ends_bind (h.mono hf he)

theorem Result.Meets.bind {G : ε → σ → Prop} (h : (x s).Meets R G)
    (hf : ∀ a s', R a s' → (f a s').Meets Q G) : ((x >>= f) s).Meets Q G := by
  cases hx : x s with
  | ok a s' =>
    rw [bind_of_ok hx]
    exact hf a s' (h.of_ok hx)
  | error e s' =>
    rw [bind_of_error hx]
    exact h.of_error hx

theorem ends_get_bind {f : σ → EStateM ε σ β} (h : (f s s).Ends Q E) :
    (((get : EStateM ε σ σ) >>= f) s).Ends Q E := h

variable {f : σ → σ} {Q : PUnit → σ → Prop}

theorem ends_modify (h : Q ⟨⟩ (f s)) : ((modify f : EStateM ε σ PUnit) s).Ends Q E := h

theorem ends_set (h : Q ⟨⟩ s') : ((set s' : EStateM ε σ PUnit) s).Ends Q E := h

theorem ends_forM {f : α → EStateM ε σ PUnit} (inv : σ → Prop) {l : List α} (hs : inv s)
    (step : ∀ a ∈ l, ∀ s, inv s → (f a s).Ends (fun _ => inv) E) :
    ((l.forM f) s).Ends (fun _ => inv) E := by
  induction l generalizing s with
  | nil => exact ends_pure hs
  | cons a l ih =>
    refine (step a (by simp) s hs).bind ?_
    intro _ s' hs'
    exact ih hs' fun b hb => step b (List.mem_cons_of_mem a hb)

/-- A computation that leaves a part of the state as it is, also when it throws. -/
def Keeps {γ : Type} (part : σ → γ) (x : EStateM ε σ α) : Prop :=
  ∀ s, (x s).EndsIn fun s' => part s' = part s

namespace Keeps

variable {γ δ : Type} {part : σ → γ}

theorem state (h : Keeps part x) (s : σ) : part (x s).state = part s :=
  Result.Ends.state (h s)

theorem bind {f : α → EStateM ε σ β} (h : Keeps part x)
    (hf : ∀ a, Keeps part (f a)) : Keeps part (x >>= f) := by
  intro s
  refine (h s).bind ?_
  intro a middle hmiddle
  refine (hf a middle).mono ?_ ?_
  · intro _ after hafter
    exact hafter.trans hmiddle
  · intro after hafter
    exact hafter.trans hmiddle

theorem get {f : σ → EStateM ε σ α} (h : ∀ s, Keeps part (f s)) :
    Keeps part ((MonadState.get : EStateM ε σ σ) >>= f) :=
  fun s => ends_get_bind (h s s)

theorem pure (a : α) : Keeps part (pure a : EStateM ε σ α) := fun _ => ends_pure rfl

theorem throw (e : ε) : Keeps part (throw e : EStateM ε σ α) := fun _ => ends_throw rfl

theorem modify (h : ∀ s, part (f s) = part s) : Keeps part (modify f : EStateM ε σ PUnit) :=
  fun s => ends_modify (h s)

theorem forM {f : α → EStateM ε σ PUnit} {l : List α} (h : ∀ a, Keeps part (f a)) :
    Keeps part (l.forM f) :=
  fun s => ends_forM (part · = part s) rfl fun a _ _ hs => hs ▸ h a _

theorem map (h : Keeps part x) (f : γ → δ) : Keeps (fun s => f (part s)) x :=
  fun s => (h s).mono (fun _ _ h => congrArg f h) (fun _ h => congrArg f h)

end Keeps

end EStateM

export EStateM (ends_pure ends_throw ends_bind ends_get_bind ends_modify ends_set ends_forM
  ends_of_eq_ok ends_of_eq_error)
