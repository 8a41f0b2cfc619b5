import Mathlib

namespace SerialServer

variable {κ τ α : Type} [Preorder τ]

structure Slot (κ τ α : Type) [Preorder τ] where
  key : κ
  start : τ
  finish : τ
  label : α
  ordered : start ≤ finish

def Slot.Before (a b : Slot κ τ α) : Prop := a.key = b.key → a.finish ≤ b.start

/-- Servers with one availability cursor each serve a list of reservations: every one starts
when its server is free and leaves the cursor at its finish. -/
inductive Serves [DecidableEq κ] : (κ → τ) → List (Slot κ τ α) → (κ → τ) → Prop
  | nil (c : κ → τ) : Serves c [] c
  | cons {c c' : κ → τ} {slot : Slot κ τ α} {slots : List (Slot κ τ α)}
      (free : c slot.key ≤ slot.start)
      (rest : Serves (Function.update c slot.key slot.finish) slots c') :
      Serves c (slot :: slots) c'

variable [DecidableEq κ] {c c' c'' : κ → τ} {slots slots' : List (Slot κ τ α)}

theorem Serves.single {slot : Slot κ τ α} (free : c slot.key ≤ slot.start)
    (h : c' = Function.update c slot.key slot.finish) : Serves c [slot] c' :=
  .cons free (h ▸ .nil c')

theorem Serves.append (first : Serves c slots c') (second : Serves c' slots' c'') :
    Serves c (slots ++ slots') c'' := by
  induction first with
  | nil => exact second
  | cons free _ ih => exact .cons free (ih second)

theorem serves_of_nodup (hkeys : (slots.map Slot.key).Nodup)
    (hfree : ∀ slot ∈ slots, c slot.key ≤ slot.start) :
    Serves c slots (slots.foldl (fun c slot => Function.update c slot.key slot.finish) c) := by
  induction slots generalizing c with
  | nil => exact .nil c
  | cons first slots ih =>
    obtain ⟨hfirst, hkeys⟩ := List.nodup_cons.mp hkeys
    refine .cons (hfree first (by simp)) (ih hkeys fun slot hslot => ?_)
    have hkey : slot.key ≠ first.key := fun heq => hfirst (heq ▸ List.mem_map_of_mem hslot)
    rw [Function.update_of_ne hkey]
    exact hfree slot (List.mem_cons_of_mem _ hslot)

theorem Serves.cursor_le_start (h : Serves c slots c') :
    ∀ slot ∈ slots, c slot.key ≤ slot.start := by
  induction h with
  | nil => simp
  | @cons c c' first slots free _ ih =>
    intro slot hslot
    rcases List.mem_cons.mp hslot with rfl | hslot
    · exact free
    · have hlater := ih slot hslot
      by_cases hkey : slot.key = first.key
      · rw [hkey, Function.update_self] at hlater
        rw [hkey]
        exact le_trans free (le_trans first.ordered hlater)
      · rwa [Function.update_of_ne hkey] at hlater

theorem Serves.pairwise (h : Serves c slots c') : slots.Pairwise Slot.Before := by
  induction h with
  | nil => exact .nil
  | @cons c c' first slots _ rest ih =>
    refine .cons ?_ ih
    intro slot hslot hkey
    have hlater := rest.cursor_le_start slot hslot
    rwa [← hkey, Function.update_self] at hlater

end SerialServer
