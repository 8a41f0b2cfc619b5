import Mathlib

/-!
A buffer that drains at a constant rate and is read in whole units.

`FluidMeter` is the exact meter: what was added since the buffer was last empty, less the whole
units drained since. `CarriedMeter` is how a program computes it: a level, the time it was last
brought forward, and the fraction it owes, carried from one reading to the next.
-/

namespace SimLLM

structure FluidMeter where
  busySince : Nat := 0
  taken : Nat := 0
  highWatermark : Nat := 0
  deriving DecidableEq, Repr

namespace FluidMeter

variable (rate scale : Nat)

def drained (meter : FluidMeter) (now : Nat) : Nat := rate * (now - meter.busySince) / scale

def level (meter : FluidMeter) (now : Nat) : Nat := meter.taken - meter.drained rate scale now

def add (meter : FluidMeter) (now units : Nat) : FluidMeter :=
  if meter.level rate scale now = 0 then
    { busySince := now, taken := units, highWatermark := max meter.highWatermark units }
  else
    { meter with
      taken := meter.taken + units
      highWatermark := max meter.highWatermark (meter.level rate scale now + units) }

variable {rate scale}

theorem level_eq_zero_of_le {meter : FluidMeter} {now later : Nat} (h : now ≤ later)
    (hempty : meter.level rate scale now = 0) : meter.level rate scale later = 0 := by
  have hdrained : meter.drained rate scale now ≤ meter.drained rate scale later := by
    exact Nat.div_le_div_right (Nat.mul_le_mul_left _ (by omega))
  unfold level at hempty ⊢
  omega

theorem level_add (meter : FluidMeter) (now units : Nat) :
    (meter.add rate scale now units).level rate scale now = meter.level rate scale now + units := by
  unfold add
  split
  next hempty =>
    rw [hempty]
    simp [level, drained]
  next hbusy =>
    have hlevel : meter.taken - meter.drained rate scale now ≠ 0 := hbusy
    show meter.taken + units - meter.drained rate scale now =
      meter.taken - meter.drained rate scale now + units
    omega

theorem highWatermark_add (meter : FluidMeter) (now units : Nat) :
    (meter.add rate scale now units).highWatermark =
      max meter.highWatermark (meter.level rate scale now + units) := by
  unfold add
  split
  next hempty => rw [hempty, Nat.zero_add]
  next => rfl

end FluidMeter

structure CarriedMeter where
  level : Nat := 0
  owed : Nat := 0
  last : Nat := 0
  deriving DecidableEq, Repr

namespace CarriedMeter

variable (rate scale : Nat)

def earned (meter : CarriedMeter) (now : Nat) : Nat := (now - meter.last) * rate + meter.owed

def advance (meter : CarriedMeter) (now : Nat) : CarriedMeter :=
  if meter.level ≤ meter.earned rate now / scale then { last := now }
  else
    { level := meter.level - meter.earned rate now / scale
      owed := meter.earned rate now % scale
      last := now }

structure Tracks (carried : CarriedMeter) (meter : FluidMeter) : Prop where
  since : meter.busySince ≤ carried.last
  empty : carried.level = 0 → carried.owed = 0 ∧ meter.level rate scale carried.last = 0
  busy : carried.level ≠ 0 →
    carried.level + meter.drained rate scale carried.last = meter.taken ∧
    carried.owed = rate * (carried.last - meter.busySince) % scale

variable {rate scale} {carried : CarriedMeter} {meter : FluidMeter} {now : Nat}

section

variable (h : carried.Tracks rate scale meter)

include h

theorem Tracks.level_eq : carried.level = meter.level rate scale carried.last := by
  by_cases hlevel : carried.level = 0
  · rw [hlevel, (h.empty hlevel).2]
  · have hbusy := (h.busy hlevel).1
    unfold FluidMeter.level
    omega

section

variable (hscale : 0 < scale) (hnow : carried.last ≤ now)

include hscale hnow

theorem Tracks.drained_eq (hlevel : carried.level ≠ 0) : meter.drained rate scale now =
      meter.drained rate scale carried.last + carried.earned rate now / scale ∧
    rate * (now - meter.busySince) % scale = carried.earned rate now % scale := by
  have hsince := h.since
  have howed := (h.busy hlevel).2
  have hsplit : rate * (now - meter.busySince) =
      scale * (rate * (carried.last - meter.busySince) / scale) + carried.earned rate now := by
    have hdiv := Nat.div_add_mod (rate * (carried.last - meter.busySince)) scale
    have hgap : now - meter.busySince = (carried.last - meter.busySince) +
      (now - carried.last) := by
      omega
    unfold earned
    rw [hgap, Nat.mul_add, Nat.mul_comm (now - carried.last) rate, howed]
    omega
  refine ⟨?_, ?_⟩
  · unfold FluidMeter.drained
    rw [hsplit, Nat.mul_add_div hscale]
  · rw [hsplit, Nat.mul_add_mod]

theorem Tracks.level_at :
    meter.level rate scale now = carried.level - carried.earned rate now / scale := by
  by_cases hlevel : carried.level = 0
  · rw [hlevel, FluidMeter.level_eq_zero_of_le hnow (h.empty hlevel).2, Nat.zero_sub]
  · have hbusy := (h.busy hlevel).1
    have hdrained := (h.drained_eq hscale hnow hlevel).1
    unfold FluidMeter.level
    omega

theorem Tracks.advance : (carried.advance rate scale now).Tracks rate scale meter := by
  have hat := h.level_at hscale hnow
  have hsince := h.since
  unfold CarriedMeter.advance
  split
  next hempty =>
    refine ⟨by show _ ≤ now; omega, fun _ => ⟨rfl, ?_⟩, fun hne => absurd rfl hne⟩
    show meter.level rate scale now = 0
    omega
  next hbusy =>
    have hlevel : carried.level ≠ 0 := fun hzero => hbusy (by rw [hzero]; exact Nat.zero_le _)
    obtain ⟨hdrained, hmod⟩ := h.drained_eq hscale hnow hlevel
    have htaken := (h.busy hlevel).1
    refine ⟨by show _ ≤ now; omega, fun hzero => ?_, fun _ => ⟨?_, hmod.symm⟩⟩
    · have : carried.level - carried.earned rate now / scale = 0 := hzero
      omega
    · show carried.level - carried.earned rate now / scale + meter.drained rate scale now = _
      omega

end

theorem Tracks.add {units : Nat} (hunits : units ≠ 0) :
    ({ carried with level := carried.level + units } : CarriedMeter).Tracks rate scale
      (meter.add rate scale carried.last units) := by
  have hlevel := h.level_eq
  unfold FluidMeter.add
  rw [← hlevel]
  split
  next hempty =>
    have howed := (h.empty hempty).1
    refine ⟨Nat.le_refl _, fun hzero => ?_, fun _ => ⟨?_, ?_⟩⟩
    · have : carried.level + units = 0 := hzero
      omega
    · simp [FluidMeter.drained, hempty]
    · simp [howed]
  next hbusy =>
    obtain ⟨htaken, howed⟩ := h.busy hbusy
    refine ⟨h.since, fun hzero => ?_, fun _ => ⟨?_, howed⟩⟩
    · have : carried.level + units = 0 := hzero
      omega
    · have hsame : FluidMeter.drained rate scale
          { meter with taken := meter.taken + units
                       highWatermark := max meter.highWatermark (carried.level + units) }
          carried.last = meter.drained rate scale carried.last := rfl
      show carried.level + units + FluidMeter.drained rate scale _ carried.last =
        meter.taken + units
      omega

end

end CarriedMeter

end SimLLM
