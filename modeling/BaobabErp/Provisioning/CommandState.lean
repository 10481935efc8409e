/-
# The state of a provisioning command

`modules/provisioning/command_state.py`: a function of the statuses of the
command's legal entities.  As the entities go forward (`ProvisioningStatus.rank`)
so does the command (`derive_rank_mono`), along accepted, provisioning,
reconciling, active, with failed above them all.
-/

import BaobabErp.Provisioning.Schema

namespace BaobabErp
namespace Provisioning

def failedCode : String := "ERP_PROVISIONING_FAILED"

namespace ProvisioningStatus

def isDone : ProvisioningStatus → Bool
  | ready => true
  | active => true
  | _ => false

def isInFlight : ProvisioningStatus → Bool
  | applying => true
  | _ => false

def isSettling : ProvisioningStatus → Bool
  | reconciling => true
  | suspended => true
  | _ => false

def isNotStarted : ProvisioningStatus → Bool
  | requested => true
  | planned => true
  | _ => false

end ProvisioningStatus

open ProvisioningStatus

/-- `derive`. -/
def derive (seen : List ProvisioningStatus) : Except Exc (CommandState × Option String) :=
  if seen.isEmpty then .error (.value "ValueError")
  else if seen.contains .failed then .ok (.failed, some failedCode)
  else if seen.all isDone then .ok (.active, none)
  else if seen.any isInFlight then .ok (.provisioning, none)
  else if seen.all isNotStarted then .ok (.accepted, none)
  else if seen.all fun s => s == .validating || isNotStarted s then .ok (.validating, none)
  else if seen.all fun s => isDone s || isSettling s then .ok (.reconciling, none)
  else .ok (.provisioning, none)

/-- The statuses an executed operation goes through, in order. -/
def ProvisioningStatus.rank : ProvisioningStatus → Nat
  | requested => 0
  | validating => 0
  | planned => 0
  | applying => 1
  | reconciling => 2
  | suspended => 2
  | ready => 3
  | active => 3
  | failed => 4

/-- The order a command goes forward in. -/
def CommandState.rank : CommandState → Nat
  | accepted => 0
  | validating => 0
  | provisioning => 1
  | reconciling => 2
  | active => 3
  | failed => 4
  | cancelled => 5

/-- The statuses an accepted operation can have. -/
def ProvisioningStatus.executed (s : ProvisioningStatus) : Prop :=
  s = planned ∨ s = applying ∨ s = reconciling ∨ s = ready ∨ s = failed

theorem isDone_iff {s : ProvisioningStatus} (h : s.executed) : s.isDone = true ↔ s.rank = 3 := by
  rcases h with rfl | rfl | rfl | rfl | rfl <;> decide

theorem isInFlight_iff {s : ProvisioningStatus} (h : s.executed) :
    s.isInFlight = true ↔ s.rank = 1 := by
  rcases h with rfl | rfl | rfl | rfl | rfl <;> decide

theorem isNotStarted_iff {s : ProvisioningStatus} (h : s.executed) :
    s.isNotStarted = true ↔ s.rank = 0 := by
  rcases h with rfl | rfl | rfl | rfl | rfl <;> decide

theorem isSettling_iff {s : ProvisioningStatus} (h : s.executed) :
    s.isSettling = true ↔ s.rank = 2 := by
  rcases h with rfl | rfl | rfl | rfl | rfl <;> decide

theorem failed_iff {s : ProvisioningStatus} : s = .failed ↔ s.rank = 4 := by
  cases s <;> decide

theorem rank_le (s : ProvisioningStatus) : s.rank ≤ 4 := by cases s <;> decide

/-- What the statuses of executed operations make of their command: its state
and failure code, by the ranks that occur. -/
inductive Derived (seen : List ProvisioningStatus) : CommandState → Option String → Prop
  | failed : .failed ∈ seen → Derived seen .failed (some failedCode)
  | active : (∀ s ∈ seen, s.rank = 3) → Derived seen .active none
  | accepted : (∀ s ∈ seen, s.rank = 0) → Derived seen .accepted none
  | reconciling : (∀ s ∈ seen, 2 ≤ s.rank ∧ s.rank < 4) → (∃ s ∈ seen, s.rank = 2) →
      Derived seen .reconciling none
  | provisioning : (∀ s ∈ seen, s.rank < 4) → (∃ s ∈ seen, s.rank < 2) →
      (∃ s ∈ seen, 1 ≤ s.rank) → Derived seen .provisioning none

/-- **`derive`, by rank.** -/
theorem derive_derived {seen : List ProvisioningStatus} (hne : seen ≠ [])
    (hex : ∀ s ∈ seen, s.executed) :
    ∃ state code, derive seen = .ok (state, code) ∧ Derived seen state code := by
  unfold derive
  rw [if_neg (by rwa [List.isEmpty_iff])]
  by_cases hfailed : seen.contains .failed = true
  · rw [if_pos hfailed]
    exact ⟨_, _, rfl, .failed (List.contains_iff_mem.1 hfailed)⟩
  rw [if_neg hfailed]
  have hlt : ∀ s ∈ seen, s.rank < 4 := by
    intro s hs
    have hne4 : s.rank ≠ 4 := fun h =>
      hfailed (List.contains_iff_mem.2 (failed_iff.2 h ▸ hs))
    have := rank_le s
    omega
  by_cases hdone : seen.all isDone = true
  · rw [if_pos hdone]
    exact ⟨_, _, rfl, .active fun s hs =>
      (isDone_iff (hex s hs)).1 (List.all_eq_true.1 hdone s hs)⟩
  rw [if_neg hdone]
  -- from here on some operation is not done
  obtain ⟨a, ha, ha3⟩ : ∃ s ∈ seen, s.rank ≠ 3 := by
    by_contra hcon
    push Not at hcon
    exact hdone (List.all_eq_true.2 fun s hs => (isDone_iff (hex s hs)).2 (hcon s hs))
  by_cases hflight : seen.any isInFlight = true
  · rw [if_pos hflight]
    obtain ⟨s, hs, hfl⟩ := List.any_eq_true.1 hflight
    have h1 := (isInFlight_iff (hex s hs)).1 hfl
    exact ⟨_, _, rfl, .provisioning hlt ⟨s, hs, by omega⟩ ⟨s, hs, by omega⟩⟩
  rw [if_neg hflight]
  have hne1 : ∀ s ∈ seen, s.rank ≠ 1 := fun s hs h1 =>
    hflight (List.any_eq_true.2 ⟨s, hs, (isInFlight_iff (hex s hs)).2 h1⟩)
  by_cases hstart : seen.all isNotStarted = true
  · rw [if_pos hstart]
    exact ⟨_, _, rfl, .accepted fun s hs =>
      (isNotStarted_iff (hex s hs)).1 (List.all_eq_true.1 hstart s hs)⟩
  rw [if_neg hstart]
  obtain ⟨b, hb, hb0⟩ : ∃ s ∈ seen, s.rank ≠ 0 := by
    by_contra hcon
    push Not at hcon
    exact hstart (List.all_eq_true.2 fun s hs => (isNotStarted_iff (hex s hs)).2 (hcon s hs))
  rw [if_neg]
  · by_cases hsettled : (seen.all fun s => isDone s || isSettling s) = true
    · rw [if_pos hsettled]
      have hge : ∀ s ∈ seen, 2 ≤ s.rank := by
        intro s hs
        have h := List.all_eq_true.1 hsettled s hs
        rw [Bool.or_eq_true, isDone_iff (hex s hs), isSettling_iff (hex s hs)] at h
        omega
      refine ⟨_, _, rfl, .reconciling (fun s hs => ⟨hge s hs, hlt s hs⟩) ⟨a, ha, ?_⟩⟩
      have := hge a ha
      have := hlt a ha
      omega
    · rw [if_neg hsettled]
      obtain ⟨c, hc, hc2⟩ : ∃ s ∈ seen, s.rank < 2 := by
        by_contra hcon
        push Not at hcon
        refine hsettled (List.all_eq_true.2 fun s hs => ?_)
        rw [Bool.or_eq_true, isDone_iff (hex s hs), isSettling_iff (hex s hs)]
        have := hcon s hs
        have := hlt s hs
        omega
      exact ⟨_, _, rfl, .provisioning hlt ⟨c, hc, hc2⟩ ⟨b, hb, by omega⟩⟩
  · intro hval
    have h := List.all_eq_true.1 hval b hb
    rw [Bool.or_eq_true, isNotStarted_iff (hex b hb), beq_iff_eq] at h
    rcases h with h | h
    · rcases hex b hb with rfl | rfl | rfl | rfl | rfl <;> cases h
    · exact hb0 h

/-- A failure code accompanies the failed state and nothing else. -/
theorem Derived.code {seen : List ProvisioningStatus} {state : CommandState} {code : Option String}
    (h : Derived seen state code) : state = .failed ↔ code.isSome = true := by
  cases h <;> simp

/-- A state has one failure code. -/
theorem Derived.code_eq {seen seen' : List ProvisioningStatus} {state : CommandState}
    {code code' : Option String} (h : Derived seen state code) (h' : Derived seen' state code') :
    code = code' := by
  cases h <;> cases h' <;> rfl

/-- States that are derived differ in rank. -/
theorem Derived.state_eq {seen seen' : List ProvisioningStatus} {state state' : CommandState}
    {code code' : Option String} (h : Derived seen state code) (h' : Derived seen' state' code')
    (hrank : state.rank = state'.rank) : state = state' := by
  cases h <;> cases h' <;> first | rfl | cases hrank

theorem Derived.rank_le {seen : List ProvisioningStatus} {state : CommandState}
    {code : Option String} (h : Derived seen state code) : state.rank ≤ 4 := by
  cases h <;> decide

/-- **The command goes forward with its operations.** -/
theorem Derived.rank_mono {seen seen' : List ProvisioningStatus} {state state' : CommandState}
    {code code' : Option String} (h : Derived seen state code) (h' : Derived seen' state' code')
    (hne : seen ≠ []) (hup : ∀ s ∈ seen, ∃ s' ∈ seen', s.rank ≤ s'.rank)
    (hdown : ∀ s' ∈ seen', ∃ s ∈ seen, s.rank ≤ s'.rank) :
    state.rank ≤ state'.rank := by
  have hfour : (ProvisioningStatus.failed).rank = 4 := rfl
  cases h with
  | failed hmem =>
    obtain ⟨s', hs', hle⟩ := hup _ hmem
    cases h' with
    | failed _ => exact Nat.le_refl _
    | active hall => have := hall s' hs'; omega
    | accepted hall => have := hall s' hs'; omega
    | reconciling hall _ => have := hall s' hs'; omega
    | provisioning hall _ _ => have := hall s' hs'; omega
  | active hall =>
    obtain ⟨a, ha⟩ := List.exists_mem_of_ne_nil seen hne
    have ha3 := hall a ha
    obtain ⟨a', ha', hle⟩ := hup a ha
    cases h' with
    | accepted hall' => have := hall' a' ha'; omega
    | reconciling _ htwo =>
      obtain ⟨s', hs', h2⟩ := htwo
      obtain ⟨s, hs, hle'⟩ := hdown s' hs'
      have := hall s hs
      omega
    | provisioning _ hlow _ =>
      obtain ⟨s', hs', h2⟩ := hlow
      obtain ⟨s, hs, hle'⟩ := hdown s' hs'
      have := hall s hs
      omega
    | _ => decide
  | accepted _ => exact Nat.zero_le _
  | reconciling hall htwo =>
    obtain ⟨a, ha, ha2⟩ := htwo
    obtain ⟨a', ha', hle⟩ := hup a ha
    cases h' with
    | accepted hall' => have := hall' a' ha'; omega
    | provisioning _ hlow _ =>
      obtain ⟨s', hs', h2⟩ := hlow
      obtain ⟨s, hs, hle'⟩ := hdown s' hs'
      have := hall s hs
      omega
    | _ => decide
  | provisioning _ _ hone =>
    obtain ⟨a, ha, ha1⟩ := hone
    obtain ⟨a', ha', hle⟩ := hup a ha
    cases h' with
    | accepted hall' => have := hall' a' ha'; omega
    | _ => decide

end Provisioning
end BaobabErp
