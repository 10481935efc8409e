/-
# Which version of a thing is in force

A thing is described by numbered versions.  Each starts on a day, and each may
be withdrawn; what a withdrawal does to a given day is left to the register.  Of
the versions that stand on a day, the one that started last is in force, and of
those that started together the one with the highest number.  At most one
version is in force (`InForce.unique`), and every other one is withdrawn, not yet
effective or superseded (`standing`).

`latest` is the query that finds it: filter, order, take the first.
-/

import Mathlib.Data.List.MinMax
import Mathlib.Data.Prod.Lex
import Mathlib.Tactic.SplitIfs

namespace Temporal

/-- **The versions of one thing.** -/
structure Register (B D V : Type) where
  Recorded : B → Prop
  starts : B → D
  number : B → V
  Withdrawn : B → D → Prop

/-! ### The query -/

section Latest

variable {B K : Type} [LinearOrder K] {rank : B → K} {p q : B → Bool} {rows : List B} {b : B}

/-- `SELECT … WHERE p ORDER BY rank DESC LIMIT 1`. -/
def latest (rank : B → K) (p : B → Bool) (rows : List B) : Option B :=
  (rows.filter p).argmax rank

theorem latest_spec (h : latest rank p rows = some b) :
    (b ∈ rows ∧ p b = true) ∧ ∀ c ∈ rows, p c = true → rank c ≤ rank b := by
  have hmem : b ∈ (rows.filter p).argmax rank := Option.mem_def.2 h
  refine ⟨List.mem_filter.1 (List.argmax_mem hmem), fun c hc hp => ?_⟩
  exact List.le_of_mem_argmax (List.mem_filter.2 ⟨hc, hp⟩) hmem

theorem latest_eq_none_iff : latest rank p rows = none ↔ ∀ c ∈ rows, p c = false := by
  rw [latest, List.argmax_eq_none, List.filter_eq_nil_iff]
  simp only [Bool.not_eq_true]

/-- Where equal ranks mean equal rows, the first row of the query is the only one
it can be. -/
theorem latest_eq_some_iff
    (hinj : ∀ c ∈ rows, ∀ e ∈ rows, rank c = rank e → c = e) :
    latest rank p rows = some b ↔
      (b ∈ rows ∧ p b = true) ∧ ∀ c ∈ rows, p c = true → rank c ≤ rank b := by
  refine ⟨latest_spec, fun ⟨⟨hmem, hp⟩, hmax⟩ => ?_⟩
  cases hl : latest rank p rows with
  | none => exact absurd hp (by rw [latest_eq_none_iff.1 hl b hmem]; exact Bool.false_ne_true)
  | some c =>
    obtain ⟨⟨hc, hpc⟩, hle⟩ := latest_spec hl
    rw [hinj c hc b hmem ((hmax c hc hpc).antisymm (hle b hmem hp))]

/-- **A stricter query finds the same row when that row passes it.** -/
theorem latest_narrow (hinj : ∀ c ∈ rows, ∀ e ∈ rows, rank c = rank e → c = e)
    (hqp : ∀ c ∈ rows, q c = true → p c = true) (h : latest rank p rows = some b)
    (hq : q b = true) : latest rank q rows = some b := by
  obtain ⟨⟨hmem, -⟩, hmax⟩ := latest_spec h
  exact (latest_eq_some_iff hinj).2 ⟨⟨hmem, hq⟩, fun c hc hqc => hmax c hc (hqp c hc hqc)⟩

end Latest

namespace Register

variable {B D V : Type} [LinearOrder D] [LinearOrder V] {R : Register B D V} {d : D} {b c : B}

/-- What orders the versions: their first day, then their number. -/
def rank (R : Register B D V) (b : B) : D ×ₗ V := toLex (R.starts b, R.number b)

/-- `b` has started by `d` and is not withdrawn then. -/
structure Stands (R : Register B D V) (d : D) (b : B) : Prop where
  recorded : R.Recorded b
  started : R.starts b ≤ d
  kept : ¬ R.Withdrawn b d

/-- **`b` is the version in force on `d`.** -/
structure InForce (R : Register B D V) (d : D) (b : B) : Prop where
  stands : R.Stands d b
  last : ∀ c, R.Stands d c → R.rank c ≤ R.rank b

/-- Each number is that of one version. -/
def Numbered (R : Register B D V) : Prop :=
  ∀ b c, R.Recorded b → R.Recorded c → R.number b = R.number c → b = c

omit [LinearOrder D] [LinearOrder V] in
theorem Numbered.rank_injective (hR : R.Numbered) (hb : R.Recorded b) (hc : R.Recorded c)
    (h : R.rank b = R.rank c) : b = c :=
  hR b c hb hc (congrArg (fun k => (ofLex k).2) h)

/-- **At most one version is in force.** -/
theorem InForce.unique (hR : R.Numbered) (hb : R.InForce d b) (hc : R.InForce d c) : b = c :=
  hR.rank_injective hb.stands.recorded hc.stands.recorded
    ((hc.last b hb.stands).antisymm (hb.last c hc.stands))

/-- The standing of a version on a day. -/
inductive Standing
  | withdrawn | notYetEffective | effective | superseded
  deriving DecidableEq

open scoped Classical in
/-- **The standing of `b` on `d`**, read off its own row and the version in force. -/
noncomputable def standing (R : Register B D V) (d : D) (b : B) : Standing :=
  if R.Withdrawn b d then .withdrawn
  else if d < R.starts b then .notYetEffective
  else if R.InForce d b then .effective
  else .superseded

theorem standing_eq_withdrawn_iff : R.standing d b = .withdrawn ↔ R.Withdrawn b d := by
  unfold standing
  split_ifs <;> simp_all only

theorem standing_eq_notYetEffective_iff :
    R.standing d b = .notYetEffective ↔ ¬ R.Withdrawn b d ∧ d < R.starts b := by
  unfold standing
  split_ifs <;> simp_all only [not_true_eq_false, not_false_eq_true, false_and,
    and_false, and_self]

/-- **Effective is in force.** -/
theorem standing_eq_effective_iff : R.standing d b = .effective ↔ R.InForce d b := by
  unfold standing
  split_ifs with hw hs hf
  · simp only [false_iff]
    exact fun hb => hb.stands.kept hw
  · simp only [false_iff]
    exact fun hb => hb.stands.started.not_gt hs
  · simp only [hf]
  · simp only [hf]

theorem standing_eq_superseded_iff (hb : R.Recorded b) :
    R.standing d b = .superseded ↔ R.Stands d b ∧ ¬ R.InForce d b := by
  unfold standing
  split_ifs with hw hs hf
  · simp only [false_iff]
    exact fun h => h.1.kept hw
  · simp only [false_iff]
    exact fun h => h.1.started.not_gt hs
  · simp only [hf, not_true_eq_false, and_false]
  · simp only [hf, not_false_eq_true, and_true, true_iff]
    exact ⟨hb, not_lt.1 hs, hw⟩

/-! ### A table of the versions -/

variable {rows : List B} {p : B → Bool}

/-- The query over a table of all versions, filtered by what stands, finds the
version in force. -/
theorem latest_eq_some_iff_inForce (hR : R.Numbered) (hrows : ∀ c, c ∈ rows ↔ R.Recorded c)
    (hp : ∀ c, R.Recorded c → (p c = true ↔ R.starts c ≤ d ∧ ¬ R.Withdrawn c d)) :
    latest R.rank p rows = some b ↔ R.InForce d b := by
  have hstands : ∀ c, c ∈ rows ∧ p c = true ↔ R.Stands d c := by
    intro c
    constructor
    · rintro ⟨hc, hpc⟩
      have hrec : R.Recorded c := (hrows c).1 hc
      exact ⟨hrec, ((hp c hrec).1 hpc).1, ((hp c hrec).1 hpc).2⟩
    · intro hs
      exact ⟨(hrows c).2 hs.recorded, (hp c hs.recorded).2 ⟨hs.started, hs.kept⟩⟩
  rw [latest_eq_some_iff fun c hc e he =>
    hR.rank_injective ((hrows c).1 hc) ((hrows e).1 he)]
  constructor
  · rintro ⟨hb, hmax⟩
    exact ⟨(hstands b).1 hb, fun c hc => hmax c ((hstands c).2 hc).1 ((hstands c).2 hc).2⟩
  · intro hb
    exact ⟨(hstands b).2 hb.stands, fun c hc hpc => hb.last c ((hstands c).1 ⟨hc, hpc⟩)⟩

theorem latest_eq_none_iff_stands (hrows : ∀ c, c ∈ rows ↔ R.Recorded c)
    (hp : ∀ c, R.Recorded c → (p c = true ↔ R.starts c ≤ d ∧ ¬ R.Withdrawn c d)) :
    latest R.rank p rows = none ↔ ∀ c, ¬ R.Stands d c := by
  rw [latest_eq_none_iff]
  constructor
  · intro h c hs
    have hpc : p c = true := (hp c hs.recorded).2 ⟨hs.started, hs.kept⟩
    rw [h c ((hrows c).2 hs.recorded)] at hpc
    cases hpc
  · intro h c hc
    cases hpc : p c with
    | false => rfl
    | true =>
      have hrec : R.Recorded c := (hrows c).1 hc
      obtain ⟨hs, hw⟩ := (hp c hrec).1 hpc
      exact absurd ⟨hrec, hs, hw⟩ (h c)

end Register

end Temporal
