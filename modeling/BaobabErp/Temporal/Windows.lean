/-
# Windows of time

A window starts at an instant, which it includes, and ends before another one or
not at all.  Two windows overlap, as a database compares their ends, just when
some instant is in both (`overlaps_iff`): the later of their starts.

A window that is closed earlier, or for the first time, lies within the one it
was (`Window.Within`), so what was apart stays apart.
-/

import Mathlib.Order.Lattice
import Mathlib.Order.Max
import Mathlib.Order.Defs.LinearOrder

namespace Temporal

/-- **A half-open window**, without an end where `stop` has none. -/
structure Window (T : Type) [LT T] where
  start : T
  stop : Option T
  nonempty : ∀ e, stop = some e → start < e

namespace Window

variable {T : Type} [LinearOrder T] {w v u : Window T} {t : T}

/-- The instant is in the window. -/
def Covers (w : Window T) (t : T) : Prop := w.start ≤ t ∧ ∀ e, w.stop = some e → t < e

/-- `t < stop`, where a missing end is after everything. -/
def before (t : T) (stop : Option T) : Bool := stop.all fun e => t < e

theorem before_iff {stop : Option T} : before t stop = true ↔ ∀ e, stop = some e → t < e := by
  cases stop with
  | none => exact iff_of_true rfl nofun
  | some e =>
    simp only [before, Option.all_some, decide_eq_true_eq, Option.some.injEq]
    exact ⟨fun h e' he => he ▸ h, fun h => h e rfl⟩

/-- `w && v` of two ranges: each starts before the other ends. -/
def overlaps (w v : Window T) : Bool := before v.start w.stop && before w.start v.stop

/-- **Two windows overlap when an instant is in both.** -/
theorem overlaps_iff : w.overlaps v = true ↔ ∃ t, w.Covers t ∧ v.Covers t := by
  rw [overlaps, Bool.and_eq_true, before_iff, before_iff]
  constructor
  · rintro ⟨hv, hw⟩
    refine ⟨max w.start v.start, ⟨le_max_left _ _, fun e he => ?_⟩, le_max_right _ _, fun e he => ?_⟩
    · exact max_lt (w.nonempty e he) (hv e he)
    · exact max_lt (hw e he) (v.nonempty e he)
  · rintro ⟨t, hw, hv⟩
    exact ⟨fun e he => hv.1.trans_lt (hw.2 e he), fun e he => hw.1.trans_lt (hv.2 e he)⟩

/-- No instant is in both. -/
def Apart (w v : Window T) : Prop := ∀ t, ¬ (w.Covers t ∧ v.Covers t)

theorem apart_of_overlaps (h : w.overlaps v = false) : w.Apart v := fun t ht => by
  rw [overlaps_iff.2 ⟨t, ht⟩] at h
  cases h

theorem Apart.symm (h : w.Apart v) : v.Apart w := fun t ht => h t ⟨ht.2, ht.1⟩

/-- **Two windows without an end are never apart.** -/
theorem Apart.not_open (h : w.Apart v) (hw : w.stop = none) : v.stop ≠ none := by
  intro hv
  refine h (max w.start v.start) ⟨⟨le_max_left _ _, ?_⟩, le_max_right _ _, ?_⟩
  · rw [hw]
    nofun
  · rw [hv]
    nofun

/-- Every instant of `w` is one of `v`. -/
def Within (w v : Window T) : Prop := ∀ t, w.Covers t → v.Covers t

theorem Within.refl : w.Within w := fun _ h => h

theorem Within.trans (h : w.Within v) (h' : v.Within u) : w.Within u := fun t ht => h' t (h t ht)

theorem Apart.within {w' v' : Window T} (h : w.Apart v) (hw : w'.Within w) (hv : v'.Within v) :
    w'.Apart v' :=
  fun t ht => h t ⟨hw t ht.1, hv t ht.2⟩

/-- Closing an open window. -/
theorem within_of_open (hs : w.start = v.start) (hv : v.stop = none) : w.Within v := by
  rintro t ⟨ht, -⟩
  refine ⟨hs ▸ ht, ?_⟩
  rw [hv]
  nofun

end Window
end Temporal
