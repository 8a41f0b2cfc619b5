import Mathlib

theorem List.forall_mem_concat {α : Type} {p : α → Prop} {l : List α} {a : α}
    (hl : ∀ x ∈ l, p x) (ha : p a) : ∀ x ∈ l ++ [a], p x :=
  List.forall_mem_append.mpr ⟨hl, List.forall_mem_singleton.mpr ha⟩

namespace List.Forall₂

variable {α β : Type} {R : α → β → Prop} {l : List α} {r : List β}

section

variable (h : List.Forall₂ R l r)

include h

theorem exists_left {b : β} (hb : b ∈ r) : ∃ a ∈ l, R a b := by
  induction h with
  | nil => simp at hb
  | cons hhead _ ih =>
    rcases List.mem_cons.mp hb with rfl | hb
    · exact ⟨_, by simp, hhead⟩
    · obtain ⟨a, ha, hr⟩ := ih hb
      exact ⟨a, by simp [ha], hr⟩

theorem exists_right {a : α} (ha : a ∈ l) : ∃ b ∈ r, R a b :=
  h.flip.exists_left ha

theorem map_eq_map {γ : Type} {f : α → γ} {g : β → γ}
    (step : ∀ a b, R a b → g b = f a) : r.map g = l.map f := by
  induction h with
  | nil => rfl
  | cons hhead _ ih => rw [List.map_cons, List.map_cons, ih, step _ _ hhead]

theorem pairwise_left {P : β → β → Prop} {Q : α → α → Prop}
    (hr : r.Pairwise P) (step : ∀ a a' b b', R a b → R a' b' → P b b' → Q a a') : l.Pairwise Q := by
  induction h with
  | nil => exact .nil
  | cons hhead htail ih =>
    obtain ⟨hfirst, hrest⟩ := List.pairwise_cons.mp hr
    refine .cons ?_ (ih hrest)
    intro a ha
    obtain ⟨b, hb, hab⟩ := htail.exists_right ha
    exact step _ a _ b hhead hab (hfirst b hb)

end

theorem flatMap_same {γ : Type} {l : List γ} {f : γ → List α} {g : γ → List β}
    (h : ∀ x ∈ l, List.Forall₂ R (f x) (g x)) : List.Forall₂ R (l.flatMap f) (l.flatMap g) := by
  induction l with
  | nil => exact .nil
  | cons x l ih =>
    exact List.rel_append (h x (by simp)) (ih fun y hy => h y (by simp [hy]))

end List.Forall₂

namespace Except

variable {ε α β γ : Type}

variable {f : α → Except ε β} {x : Except ε α} {b : β}

theorem bind_eq_ok : (x >>= f) = .ok b ↔ ∃ a, x = .ok a ∧ f a = .ok b := by
  cases x with
  | error e | ok a => simp [bind, Except.bind]

theorem of_bind (h : (x >>= f) = .ok b) : ∃ a, x = .ok a ∧ f a = .ok b :=
  bind_eq_ok.mp h

theorem of_check {x : Except ε Unit} {f : Unit → Except ε β} (h : (x >>= f) = .ok b) :
    f () = .ok b := by
  obtain ⟨_, -, h⟩ := bind_eq_ok.mp h
  exact h

theorem of_bind_error {e : ε} (h : (x >>= f) = .error e) : x = .error e ∨ ∃ a, f a = .error e := by
  cases x with
  | error e' =>
    cases h
    exact .inl rfl
  | ok a => exact .inr ⟨a, h⟩

theorem exists_of_isOk (h : x.isOk = true) : ∃ a, x = .ok a := by
  cases x with
  | error e => cases h
  | ok a => exact ⟨a, rfl⟩

@[simp] theorem ok_bind {a : α} : ((.ok a : Except ε α) >>= f) = f a := rfl

@[simp] theorem error_bind {e : ε} : ((.error e : Except ε α) >>= f) = .error e := rfl

@[simp] theorem pure_eq_ok {a b : α} : (pure a : Except ε α) = .ok b ↔ a = b := by
  simp [pure, Except.pure]

theorem map_eq_ok {f : α → β} : f <$> x = .ok b ↔ ∃ a, x = .ok a ∧ f a = b := by
  cases x with
  | error e | ok a => simp [Functor.map, Except.map]

variable {l : List α}

theorem forM_eq_ok {f : α → Except ε PUnit} {u : PUnit} :
    l.forM f = .ok u ↔ ∀ x ∈ l, f x = .ok () := by
  induction l with
  | nil => simp [pure, Except.pure]
  | cons a l ih =>
    simp only [List.forM_cons, bind_eq_ok, List.forM_eq_forM] at ih ⊢
    constructor
    · rintro ⟨⟨⟩, ha, hl⟩ x hx
      rcases List.mem_cons.mp hx with rfl | hx
      · exact ha
      · exact ih.mp hl x hx
    · intro h
      exact ⟨(), h a (by simp), ih.mpr fun x hx => h x (by simp [hx])⟩

theorem foldlM_done {f : β → α → Except ε β} (inv : List α → β → Prop) {c : β}
    (h : l.foldlM f b = .ok c) (hb : inv [] b)
    (step : ∀ done x rest acc next, l = done ++ x :: rest → inv done acc → f acc x = .ok next →
      inv (done ++ [x]) next) : inv l c := by
  -- the induction is on what is left to fold, for every split of the list
  have hsplit : ∀ rest done acc, l = done ++ rest → inv done acc →
      rest.foldlM f acc = .ok c → inv l c := by
    intro rest
    induction rest with
    | nil =>
      intro done acc hl hacc hfold
      cases hfold
      simpa [hl] using hacc
    | cons x rest ih =>
      intro done acc hl hacc hfold
      obtain ⟨next, hnext, hfold⟩ := bind_eq_ok.mp hfold
      exact ih (done ++ [x]) next (by simp [hl]) (step done x rest acc next hl hacc hnext) hfold
  exact hsplit l [] b rfl hb h

/-- The loop rule: a property of the accumulator that every successful iteration
keeps holds when the loop ends. -/
theorem foldlM_invariant {f : β → α → Except ε β} (inv : β → Prop) {c : β}
    (h : l.foldlM f b = .ok c) (hb : inv b)
    (step : ∀ acc next x, x ∈ l → inv acc → f acc x = .ok next → inv next) : inv c :=
  foldlM_done (fun _ => inv) h hb fun _ x _ acc next hl => step acc next x (by simp [hl])

/-- The loop rule with a counter: the invariant may mention how many iterations are done. -/
theorem foldlM_zipIdx_invariant {f : β → α × Nat → Except ε β} (inv : Nat → β → Prop)
    {start : Nat} {c : β} (h : (l.zipIdx start).foldlM f b = .ok c) (hb : inv start b)
    (step : ∀ i acc next x, x ∈ l → inv i acc → f acc (x, i) = .ok next → inv (i + 1) next) :
    inv (start + l.length) c := by
  induction l generalizing b start with
  | nil =>
    cases h
    exact hb
  | cons a l ih =>
    obtain ⟨b', ha, hl⟩ := bind_eq_ok.mp h
    have hrest := ih hl (step start b b' a (by simp) hb ha)
      fun i acc next x hx => step i acc next x (List.mem_cons_of_mem a hx)
    rwa [List.length_cons, Nat.add_comm l.length, ← Nat.add_assoc]

theorem foldlM_total {f : β → α → Except ε β} (inv : β → Prop) (hb : inv b)
    (step : ∀ acc x, x ∈ l → inv acc → ∃ next, f acc x = .ok next ∧ inv next) :
    ∃ c, l.foldlM f b = .ok c ∧ inv c := by
  induction l generalizing b with
  | nil => exact ⟨b, rfl, hb⟩
  | cons a l ih =>
    obtain ⟨b', ha, hb'⟩ := step b a (by simp) hb
    obtain ⟨c, hl, hc⟩ := ih hb' fun acc x hx => step acc x (List.mem_cons_of_mem a hx)
    exact ⟨c, by rw [List.foldlM_cons]; exact bind_eq_ok.mpr ⟨b', ha, hl⟩, hc⟩

theorem mapM_eq_ok {r : List β} : l.mapM f = .ok r ↔ List.Forall₂ (fun a b => f a = .ok b) l r := by
  induction l generalizing r with
  | nil =>
    simp only [List.mapM_nil, pure_eq_ok, List.forall₂_nil_left_iff]
    exact eq_comm
  | cons a l ih =>
    simp only [List.mapM_cons, bind_eq_ok, pure_eq_ok, List.forall₂_cons_left_iff]
    constructor
    · rintro ⟨b, ha, rest, hrest, rfl⟩
      exact ⟨b, rest, ha, ih.mp hrest, rfl⟩
    · rintro ⟨b, rest, ha, hrest, rfl⟩
      exact ⟨b, ha, rest, ih.mpr hrest, rfl⟩

theorem mapM_eq_map {g : α → β} (h : ∀ a ∈ l, f a = .ok (g a)) : l.mapM f = .ok (l.map g):=
  mapM_eq_ok.mpr (List.forall₂_map_right_iff.mpr (List.forall₂_same.mpr h))

theorem mapM_mem {r : List β} (h : l.mapM f = .ok r) (hb : b ∈ r) : ∃ a ∈ l, f a = .ok b:=
  (mapM_eq_ok.mp h).exists_left hb

theorem mapM_of_mem {r : List β} (h : l.mapM f = .ok r) {a : α} (ha : a ∈ l) : ∃ b ∈ r,
      f a = .ok b:=
  (mapM_eq_ok.mp h).exists_right ha

theorem filterM_eq_filter {f : α → Except ε Bool} {p : α → Bool} {xs : List α}
    (h : ∀ x ∈ xs, f x = .ok (p x)) : xs.filterM f = .ok (xs.filter p) := by
  have haux : ∀ (xs acc : List α), (∀ x ∈ xs, f x = .ok (p x)) →
      xs.filterAuxM f acc = .ok ((xs.filter p).reverse ++ acc) := by
    intro xs
    induction xs with
    | nil => exact fun acc _ => rfl
    | cons x xs ih =>
      intro acc h
      rw [List.filterAuxM, h x List.mem_cons_self]
      refine (ih _ fun y hy => h y (List.mem_cons_of_mem x hy)).trans ?_
      cases hp : p x <;> simp [hp]
  rw [List.filterM, haux xs [] h, ok_bind, List.append_nil, List.reverse_reverse]
  rfl

theorem mapM_total (h : ∀ a ∈ l, ∃ b, f a = .ok b) : ∃ r, l.mapM f = .ok r := by
  induction l with
  | nil => exact ⟨[], rfl⟩
  | cons a l ih =>
    obtain ⟨b, hb⟩ := h a (by simp)
    obtain ⟨r, hr⟩ := ih fun x hx => h x (by simp [hx])
    refine ⟨b :: r, ?_⟩
    rw [List.mapM_cons]
    exact bind_eq_ok.mpr ⟨b, hb, bind_eq_ok.mpr ⟨r, hr, rfl⟩⟩

end Except

namespace EStateM

variable {ε σ α β : Type} {f : α → EStateM ε σ β} {x : EStateM ε σ α}

theorem bind_eq_ok {s s'' : σ} {b : β} :
    (x >>= f) s = .ok b s'' ↔ ∃ a s', x s = .ok a s' ∧ f a s' = .ok b s'' := by
  show EStateM.bind x f s = .ok b s'' ↔ _
  unfold EStateM.bind
  cases hx : x s with
  | ok a s' => simp
  | error e s' => simp

theorem get_bind (f : σ → EStateM ε σ α) (s : σ) : ((get : EStateM ε σ σ) >>= f) s = f s s := rfl

theorem bind_of_ok {s s' : σ} {a : α} (h : x s = .ok a s') : (x >>= f) s = f a s':= by
  show EStateM.bind x f s = _
  unfold EStateM.bind
  rw [h]

theorem bind_of_error {s s' : σ} {e : ε} (h : x s = .error e s') : (x >>= f) s = .error e s':= by
  show EStateM.bind x f s = _
  unfold EStateM.bind
  rw [h]

theorem forM_invariant {f : α → EStateM ε σ PUnit} (inv : σ → Prop) {l : List α} {s s' : σ}
    (h : l.forM f s = .ok () s') (hs : inv s)
    (step : ∀ a s s', inv s → f a s = .ok () s' → inv s') : inv s' := by
  induction l generalizing s with
  | nil =>
    cases h
    exact hs
  | cons a l ih =>
    have hbind : (f a >>= fun _ => l.forM f) s = .ok () s' := h
    obtain ⟨_, middle, ha, hl⟩ := bind_eq_ok.mp hbind
    exact ih hl (step a s middle hs ha)

end EStateM

export Except (of_bind of_check bind_eq_ok ok_bind error_bind map_eq_ok mapM_mem mapM_eq_ok
  mapM_of_mem mapM_total mapM_eq_map forM_eq_ok foldlM_invariant foldlM_zipIdx_invariant
  foldlM_done exists_of_isOk)
export EStateM (bind_of_ok bind_of_error get_bind)
