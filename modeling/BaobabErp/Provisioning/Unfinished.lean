/-
# Nothing starts that cannot finish

The passes over one accepted operation, one after the other, each with any answers of the
database and an engine that accepts every request; any of them may stop at any call.  **A
pass that ends for a cause in the plan and the configuration alone comes after no write to
the engine** exactly where the plan is not prepared at all, where its first record cannot be
looked for, or where the records of all its warehouses can (`starts_only_finishable_iff`):
`_run` asks for every process id before the first step, but the adapter refuses a key only
when its step is reached.
-/

import BaobabErp.Provisioning.CommandHistory
import BaobabErp.Provisioning.Refusals
import BaobabErp.Provisioning.StepRefusals

namespace BaobabErp
namespace Provisioning

open Python Concurrency Prog Execution

/-! ### Passes over an operation -/

/-- A call that writes to the engine. -/
def Eff.IsWrite : Eff → Prop
  | .createRecord .. => True
  | .executeProcess .. => True
  | _ => False

/-- What a step leaves: a write, a native id, its mark. -/
def Eff.Leaves : Eff → Prop
  | .sql (.upsert (.step _ _) _ _) => True
  | .sql (.upsert (.nativeMapping _ _) _ _) => True
  | e => e.IsWrite

theorem Eff.Leaves.ofStep {e : Eff} (h : e.Leaves) : e.OfStep := by
  cases e with
  | sql q =>
    cases q with
    | upsert k row set => cases k <;> first | exact True.intro | exact h.elim
    | _ => exact h.elim
  | createRecord => exact True.intro
  | executeProcess => exact True.intro
  | _ => exact h.elim

theorem Eff.IsWrite.leaves {e : Eff} (h : e.IsWrite) : e.Leaves := by
  cases e with
  | sql q => exact h.elim
  | _ => exact h

/-- The operation, as `begin` reads it from its row. -/
structure Reads (D : ProvisioningDeployment) (pid : String) (row : OperationRow)
    (operation : LoadedOperation) : Prop where
  provisioningId : operation.provisioningId = pid
  state : operation.state = row.desiredState
  digest : operation.digest = row.desiredStateDigest
  plan : planRows D.runtime row.plan = .ok operation.plan

/-- **A pass over the operation**, as far as it came. -/
structure Attempt (D : ProvisioningDeployment) (pid : String) (row : OperationRow) where
  operation : LoadedOperation
  reads : Reads D pid row operation
  events : List (Event Ans Exc)
  left : Program Outcome
  ran : Trace (run D operation) events left

namespace Attempt

variable {D : ProvisioningDeployment} {pid : String} {row : OperationRow} (a : Attempt D pid row)

/-- It made a write to the engine, or was making one when it stopped. -/
def Writes : Prop := (∃ y ∈ a.events, y.1.IsWrite) ∨ ∃ e k, a.left = call e k ∧ e.IsWrite

/-- **What it ended with is in the plan and the configuration**: it was not prepared, or a step
was refused though nothing was wrong with any answer that its calls got. -/
def Decided (x : Exc) : Prop :=
  prepare D a.operation.state a.operation.digest a.operation.plan = .error x ∨
  ∃ request σ runnable, prepare D a.operation.state a.operation.digest a.operation.plan =
      .ok (request, σ, runnable) ∧
    ∃ step ∈ runnable, ∃ before during, a.events = before ++ during ∧
      Trace (IdempiereAdapter.apply D σ request step) during (ret (.error x)) ∧
      (∀ y ∈ during, Smooth y) ∧ ¬ IsConflict x

/-- It ended blocked or failed, for such a cause. -/
def Doomed : Prop := ∃ x, a.left = ret (.ok (classify x)) ∧
  ((classify x).status = .blocked ∨ (classify x).status = .failed) ∧ a.Decided x

end Attempt

/-- What the database answers of steps and native ids was written before. -/
def Justified (before : List (Event Ans Exc)) : Event Ans Exc → Prop
  | ⟨.sql (.completedSteps pid), r⟩ => ∀ keys, r = .ok keys → ∀ key ∈ keys,
      ∃ y ∈ before, ∃ row set, y.1 = .sql (.upsert (.step pid key) row set)
  | ⟨.sql (.select (.nativeMapping pid key)), r⟩ => ∀ id, r = .ok (some id) →
      ∃ y ∈ before, ∃ row set, y.1 = .sql (.upsert (.nativeMapping pid key) row set)
  | _ => True

section History

variable {D : ProvisioningDeployment} {pid : String} {row : OperationRow}

/-- The calls of the passes, in order. -/
def eventsOf (history : List (Attempt D pid row)) : List (Event Ans Exc) :=
  (history.map Attempt.events).flatten

/-- **Passes one after the other**: the engine accepts every request, and the database answers
from what was written. -/
structure Plausible (history : List (Attempt D pid row)) : Prop where
  served : ∀ a ∈ history, ∀ y ∈ a.events, Served y
  justified : ∀ before y after, eventsOf history = before ++ y :: after → Justified before y

/-- **Nothing was started**: neither a doomed pass nor one before it made a write. -/
def NothingStarted (history : List (Attempt D pid row)) : Prop :=
  ∀ (i : Nat) (a : Attempt D pid row), history[i]? = some a → a.Doomed →
    ∀ (j : Nat) (c : Attempt D pid row), j ≤ i → history[j]? = some c → ¬ c.Writes

/-- **The plan finishes or does not start**: it is not prepared, or its client cannot be looked
for, or all its warehouses can. -/
def Finishable (D : ProvisioningDeployment) (row : OperationRow) (b : Blueprint) : Prop :=
  (∃ x, prepare D row.desiredState row.desiredStateDigest (b.plan.steps.map stepRow) = .error x) ∨
  (∃ step ∈ b.plan.steps, step.kind = .createClient ∧ findable step = false) ∨
  ∀ step ∈ b.plan.steps, step.kind = .createWarehouse → findable step = true

end History

/-! ### A client that cannot be looked for -/

/-- Nothing was written of any step. -/
def Blank : Event Ans Exc → Prop
  | ⟨.sql (.completedSteps _), r⟩ => ∀ keys, r = .ok keys → keys = []
  | ⟨.sql (.select (.nativeMapping _ _)), r⟩ => ∀ found, r = .ok found → found = none
  | y => Served y

/-- Where nothing was written, the answers say so. -/
theorem blank_of_justified {before : List (Event Ans Exc)} {y : Event Ans Exc}
    (hnone : ∀ z ∈ before, ¬ z.1.Leaves) (hserved : Served y) (h : Justified before y) : Blank y := by
  obtain ⟨e, r⟩ := y
  cases e with
  | sql q =>
    cases q with
    | completedSteps pid =>
      intro keys hkeys
      refine List.eq_nil_iff_forall_not_mem.2 fun key hkey => ?_
      obtain ⟨z, hz, row, set, hcall⟩ := h keys hkeys key hkey
      refine hnone z hz ?_
      rw [hcall]
      exact True.intro
    | select k =>
      cases k with
      | nativeMapping pid key =>
        intro found hfound
        cases found with
        | none => rfl
        | some id =>
          obtain ⟨z, hz, row, set, hcall⟩ := h id hfound
          refine absurd ?_ (hnone z hz)
          rw [hcall]
          exact True.intro
      | _ => exact hserved
    | _ => exact hserved
  | _ => exact hserved

/-- A program that does not return, and leaves nothing. -/
abbrev Stops {α : Type} (p : Program α) : Prop := Under Blank Eff.Leaves (fun r => ∀ a, r ≠ .ok a) p

section Stops

variable {α β : Type}

theorem Stops.throw (x : Exc) : Stops (MonadExcept.throw x : Program α) := nofun

theorem Stops.bind {p : Program α} (hp : Stops p) (f : α → Program β) : Stops (p >>= f) := by
  refine Under.bind (P := fun _ => False) (hp.mono fun r hr => ?_) fun _ h => h.elim
  exact ⟨fun a ha => hr a ha, fun _ _ => nofun⟩

/-- Before it stops, something may be done that leaves nothing. -/
theorem Stops.after {p : Program α} (hp : ¬ Calls Eff.Leaves p) {f : α → Program β}
    (hf : ∀ a, Stops (f a)) : Stops (p >>= f) := by
  refine Under.bind (P := fun _ => True) ((Under.quiet hp).mono fun r _ => ?_) fun a _ => hf a
  exact ⟨fun _ _ => True.intro, fun _ _ => nofun⟩

end Stops

theorem leaves_orRaise {α : Type} (r : Except Exc α) : ¬ Calls Eff.Leaves (orRaise r) := by
  cases r with
  | ok a => exact closed_quiet.pure a
  | error x => exact closed_quiet.throw x

theorem leaves_textParam (value : Json) : ¬ Calls Eff.Leaves (textParam value) := by
  unfold textParam
  split
  · exact closed_quiet.pure _
  · exact closed_quiet.throw _

theorem leaves_setStatus (D : ProvisioningDeployment) (pid : String) (status : ProvisioningStatus)
    (error : Option String) : ¬ Calls Eff.Leaves (ProvisioningStore.setStatus D pid status error) :=
  fun h => (local_setStatus D pid status error).leaves (h.imp fun _ he => he.ofStep)

/-- **A record that cannot be looked for is not made.** -/
theorem stops_createOnce (σ : Session) (request : ErpProvisioningRequest) {step : ProvisioningStep}
    (table : String) (fields : List (String × Json)) (h : findable step = false) :
    Stops (IdempiereAdapter.createOnce σ request step table fields) := by
  refine Stops.after (leaves_textParam _) fun pid => ?_
  refine Under.perform_bind id (fun found hfound => ?_) fun _ _ => nofun
  obtain rfl : found = none := hfound found rfl
  dsimp only
  unfold findable at h
  cases hm : IdempiereAdapter.marker step with
  | error x => exact Stops.throw x
  | ok marker =>
    rw [hm] at h
    rw [orRaise_bind]
    refine Stops.bind ?_ _
    refine Under.perform_bind id (fun ids hids => ?_) fun _ _ => nofun
    have hserved : if (RestQuery.buildFilter (described marker)).toBool then
        ∃ found, (.ok ids : Except Exc (List Int)) = .ok found
        else (.ok ids : Except Exc (List Int)) = .error (.value "ValueError") := hids
    dsimp only at h
    rw [h] at hserved
    cases hserved

theorem stops_apply (D : ProvisioningDeployment) (σ : Session) (request : ErpProvisioningRequest)
    {step : ProvisioningStep} (hkind : step.kind = .createClient) (h : findable step = false) :
    Stops (IdempiereAdapter.apply D σ request step) := by
  unfold IdempiereAdapter.apply
  rw [hkind]
  exact Stops.after (leaves_orRaise _) fun _ => (stops_createOnce σ request _ _ h).bind _

/-- **The first phase stops at its first step.** -/
theorem stops_stepsPhase {D : ProvisioningDeployment} {operation : LoadedOperation}
    {request : ErpProvisioningRequest} {σ : Session} {client : ProvisioningStep}
    {rest : List ProvisioningStep}
    (hp : prepare D operation.state operation.digest operation.plan = .ok (request, σ, client :: rest))
    (hkind : client.kind = .createClient) (h : findable client = false) :
    Stops (stepsPhase D operation) := by
  unfold stepsPhase
  rw [hp, orRaise_bind]
  refine Stops.bind ?_ _
  refine Under.perform_bind id (fun done hdone => ?_) fun _ _ => nofun
  obtain rfl : done = [] := hdone done rfl
  have hsteps : ∀ last : Program Unit, Stops (do
      applySteps D σ request operation.provisioningId (client :: rest)
      last) := fun last => Stops.bind (Stops.bind (stops_apply D σ request hkind h) _) _
  have hpending : (client :: rest).filter (fun step => !([] : List String).contains step.key) =
      client :: rest := List.filter_eq_self.2 fun _ _ => rfl
  dsimp only
  rw [hpending]
  split
  · exact Stops.after (leaves_setStatus D _ _ _) fun _ => hsteps _
  · exact hsteps _

/-- **A pass whose client cannot be looked for leaves nothing.** -/
theorem leaves_nothing {D : ProvisioningDeployment} {operation : LoadedOperation}
    (h : Stops (stepsPhase D operation)) : Under Blank Eff.Leaves (fun _ => True) (run D operation) := by
  unfold run
  refine Under.tryCatch ?_
  rw [runOperation_eq]
  exact (h.bind _).mono fun r hr => ⟨fun _ _ => True.intro, fun x _ => Under.pure True.intro⟩

/-! ### Where no pass makes a write -/

section Quiet

variable {D : ProvisioningDeployment} {pid : String} {row : OperationRow} {history : List (Attempt D pid row)}

/-- A pass that was not prepared made no call. -/
theorem Attempt.idle (a : Attempt D pid row) {x : Exc}
    (h : prepare D a.operation.state a.operation.digest a.operation.plan = .error x) : ¬ a.Writes := by
  have hrun : run D a.operation = ret (.ok (classify x)) := by
    unfold run runOperation
    rw [h]
    rfl
  have hran := a.ran
  rw [hrun] at hran
  obtain ⟨hnil, hleft⟩ := Trace.of_ret hran
  rintro (⟨y, hy, -⟩ | ⟨e, k, hcall, -⟩)
  · rw [hnil] at hy
    cases hy
  · rw [hleft] at hcall
    cases hcall

/-- **A run of the history leaves nothing where every pass would leave nothing of its own**: by
the passes before it. -/
theorem leaves_none (hunder : ∀ a : Attempt D pid row, Under Blank Eff.Leaves (fun _ => True) (run D a.operation))
    {before : List (Event Ans Exc)} (hbefore : ∀ y ∈ before, ¬ y.1.Leaves)
    (hserved : ∀ a ∈ history, ∀ y ∈ a.events, Served y)
    (hjustified : ∀ events y after, eventsOf history = events ++ y :: after → Justified (before ++ events) y) :
    ∀ a ∈ history, ¬ a.Writes := by
  induction history generalizing before with
  | nil => exact fun a ha => absurd ha List.not_mem_nil
  | cons a history ih =>
    have hevents : eventsOf (a :: history) = a.events ++ eventsOf history := by
      unfold eventsOf
      rw [List.map_cons, List.flatten_cons]
    obtain ⟨hnone, hleft⟩ := (hunder a).causal a.ran fun events y after heq hquiet => by
      refine blank_of_justified (fun z hz => ?_) ?_ (hjustified events y (after ++ eventsOf history) ?_)
      · rcases List.mem_append.1 hz with hz | hz
        · exact hbefore z hz
        · exact hquiet z hz
      · exact hserved a List.mem_cons_self y (heq ▸ List.mem_append_right _ List.mem_cons_self)
      · rw [hevents, heq, List.append_assoc, List.cons_append]
    intro c hc
    rcases List.mem_cons.1 hc with rfl | hc
    · rintro (⟨y, hy, hwrite⟩ | ⟨e, k, hcall, hwrite⟩)
      · exact hnone y hy hwrite.leaves
      · rw [hcall] at hleft
        exact hleft.1 hwrite.leaves
    · refine @ih (before ++ a.events) (fun y hy => ?_) (fun d hd => hserved d (List.mem_cons_of_mem _ hd))
        (fun events y after heq => ?_) c hc
      · rcases List.mem_append.1 hy with hy | hy
        · exact hbefore y hy
        · exact hnone y hy
      · rw [List.append_assoc]
        exact hjustified (a.events ++ events) y after (by rw [hevents, heq, List.append_assoc])

/-- Where the client cannot be looked for, no pass makes a write. -/
theorem Plausible.quiet (h : Plausible history) {b : Blueprint} (hb : Planned D pid row b)
    {client : ProvisioningStep} (hclient : client ∈ b.plan.steps) (hkind : client.kind = .createClient)
    (hfind : findable client = false) : ∀ a ∈ history, ¬ a.Writes := by
  have hnil : ∀ y ∈ ([] : List (Event Ans Exc)), ¬ y.1.Leaves := fun y hy => absurd hy List.not_mem_nil
  refine leaves_none (fun a => ?_) hnil h.served fun events y after heq => h.justified events y after heq
  cases hp : prepare D a.operation.state a.operation.digest a.operation.plan with
  | error x =>
    have hrun : run D a.operation = ret (.ok (classify x)) := by
      unfold run runOperation
      rw [hp]
      rfl
    rw [hrun]
    exact True.intro
  | ok prepared =>
    obtain ⟨request, σ, runnable⟩ := prepared
    have hp' := hp
    rw [a.reads.state, a.reads.digest] at hp'
    obtain ⟨-, -, hrun⟩ := hb.enriched a.reads.plan hp'
    obtain ⟨first, rest, mapping, rfl, hfirst, hkey, -, -⟩ := hb.runnable_parts hrun
    have hsame : first.key = client.key := by
      rw [hkey, hb.client_eq hclient hkind]
    refine leaves_nothing (stops_stepsPhase hp hfirst ?_)
    rw [findable_congr hsame]
    exact hfind

/-- **Where the plan finishes or does not start, nothing is started in vain.** -/
theorem Finishable.nothingStarted {b : Blueprint} (hb : Planned D pid row b) (h : Finishable D row b)
    (hhistory : Plausible history) : NothingStarted history := by
  have hquiet : (∀ a ∈ history, ¬ a.Writes) → NothingStarted history :=
    fun hnone i a _ _ j c _ hj => hnone c (List.mem_of_getElem? hj)
  have hrows : planRows D.runtime row.plan = .ok (b.plan.steps.map stepRow) := by
    rw [hb.steps, planRows_planDocument hb.plan]
  have hplan : ∀ a : Attempt D pid row, prepare D a.operation.state a.operation.digest a.operation.plan =
      prepare D row.desiredState row.desiredStateDigest (b.plan.steps.map stepRow) := by
    intro a
    rw [a.reads.state, a.reads.digest, Except.ok.inj (hrows.symm.trans a.reads.plan)]
  obtain ⟨client, hclient, hkind⟩ := hb.client_mem
  rcases h with ⟨x, hx⟩ | ⟨step, hstep, hkind', hfind⟩ | hall
  · exact hquiet fun a _ => a.idle ((hplan a).trans hx)
  · exact hquiet (hhistory.quiet hb hstep hkind' hfind)
  · cases hfind : findable client with
    | false => exact hquiet (hhistory.quiet hb hclient hkind hfind)
    | true =>
      cases hp : prepare D row.desiredState row.desiredStateDigest (b.plan.steps.map stepRow) with
      | error x => exact hquiet fun a _ => a.idle ((hplan a).trans hp)
      | ok prepared =>
        -- the pass is prepared, so a step was refused; but no step of the plan can be
        rintro i a - ⟨x, -, -, hdecided⟩
        exfalso
        rcases hdecided with hx | ⟨request, σ, runnable, hp', step, hstep, before, during, -, htrace, hsmooth, hx⟩
        · rw [hplan a, hp] at hx
          cases hx
        · rw [hplan a] at hp'
          obtain ⟨rfl, -, hrun⟩ := hb.enriched hrows hp'
          obtain ⟨s, hs, he⟩ := mem_of_mapM hrun step hstep
          have hadmitted : Admitted step := by
            intro htable
            rw [findable_congr (enrichStep_key he)]
            rw [enrichStep_kind he] at htable
            cases hk : s.kind with
            | createClient =>
              rw [hb.client_eq hs hk, ← hb.client_eq hclient hkind]
              exact hfind
            | createWarehouse => exact hall s hs hk
            | createOrganisation => exact absurd hk (hb.not_organisation hs)
            | _ =>
              rw [hk] at htable
              cases htable
          have hcalm := (hb.applicable hrun step hstep).calm (D := D) hb.typed
            (fun text htext => engine_named hb.plan htext) σ hadmitted
          exact hx (hcalm.sound htrace hsmooth x rfl)

end Quiet

/-! ### A warehouse that cannot be looked for -/

/-- Nothing was done of the operation yet, and every call is answered. -/
def obliging : (e : Eff) → Except Exc (Ans e)
  | .sql (.due _) => .ok []
  | .sql (.begin _) => .ok none
  | .sql (.completedSteps _) => .ok []
  | .sql (.statuses _) => .ok []
  | .sql (.select _) => .ok none
  | .sql (.selectForUpdate _) => .ok none
  | .sql (.insert _ row) => .ok (row ⟨"", 0⟩)
  | .sql (.insertNew _ _) => .ok true
  | .sql (.upsert _ row _) => .ok row
  | .sql (.update _ _) => .ok none
  | .commit => .ok ()
  | .query _ _ text =>
    if (RestQuery.buildFilter (described text)).toBool then .ok [] else .error (.value "ValueError")
  | .getRecord _ _ _ => .ok []
  | .createRecord _ _ _ => .ok (1 : Int)
  | .executeProcess _ _ _ => .ok Json.null
  | _ => .error .database

theorem obliging_sql (q : Query) : ∃ a, obliging (.sql q) = .ok a := by
  cases q <;> exact ⟨_, rfl⟩

theorem served_obliging (e : Eff) : Served ⟨e, obliging e⟩ := by
  cases e with
  | query σ table text =>
    by_cases h : (RestQuery.buildFilter (described text)).toBool
    · show if (RestQuery.buildFilter (described text)).toBool then _ else _
      rw [if_pos h]
      exact ⟨[], if_pos h⟩
    · show if (RestQuery.buildFilter (described text)).toBool then _ else _
      rw [if_neg h]
      exact if_neg h
  | getRecord => exact ⟨[], rfl⟩
  | createRecord => exact ⟨1, rfl⟩
  | executeProcess => exact ⟨.null, rfl⟩
  | _ => exact True.intro

theorem justified_obliging (before : List (Event Ans Exc)) (e : Eff) : Justified before ⟨e, obliging e⟩ := by
  cases e with
  | sql q =>
    cases q with
    | completedSteps pid =>
      intro keys hkeys key hkey
      cases hkeys
      cases hkey
    | select k => cases k <;> first | exact True.intro | exact nofun
    | _ => exact True.intro
  | _ => exact True.intro

section Started

variable {D : ProvisioningDeployment} {request : ErpProvisioningRequest} {σ : Session}
  {step : ProvisioningStep}

/-- A record that can be looked for is made. -/
theorem answered_createOnce (hpid : IsText request.provisioningId) (table : String)
    (fields : List (String × Json)) (h : findable step = true) :
    (∃ result, (IdempiereAdapter.createOnce σ request step table fields).answered obliging = .ok result) ∧
      ∃ y ∈ (IdempiereAdapter.createOnce σ request step table fields).answeredCalls obliging,
        y.1.IsWrite := by
  obtain ⟨marker, hmarker, hfilter⟩ := findable_iff.1 h
  obtain ⟨pid, hpid⟩ := hpid
  have hnative : (NativeMappings.getNativeId pid (IdempiereAdapter.resourceKey step)).answered obliging =
      .ok none := rfl
  have hquery : (Call.query σ table marker).answered obliging = .ok [] := if_pos hfilter
  have hfind : (IdempiereAdapter.findMarked σ table marker).answered obliging = .ok none := by
    unfold IdempiereAdapter.findMarked
    rw [answered_bind hquery]
    rfl
  unfold IdempiereAdapter.createOnce
  rw [hpid, textParam_bind, answered_bind hnative, answeredCalls_bind hnative]
  dsimp only
  rw [hmarker, orRaise_bind, answered_bind hfind, answeredCalls_bind hfind]
  let created : Eff := .createRecord σ table (Json.insertMember fields "Description" (.str marker))
  refine ⟨⟨_, rfl⟩, ⟨created, obliging created⟩, ?_, True.intro⟩
  exact List.mem_append_right _ (List.mem_append_right _ List.mem_cons_self)

/-- The client's step makes its record. -/
theorem answered_createClient (hpid : IsText request.provisioningId) (hentity : IsText request.legalEntityId)
    (h : findable step = true) :
    (∃ result, (IdempiereAdapter.createClient σ request step).answered obliging = .ok result) ∧
      ∃ y ∈ (IdempiereAdapter.createClient σ request step).answeredCalls obliging, y.1.IsWrite := by
  obtain ⟨entity, hentity⟩ := hentity
  obtain ⟨pid, hpid'⟩ := id hpid
  unfold IdempiereAdapter.createClient
  rw [hentity]
  obtain ⟨⟨result, hresult⟩, y, hy, hwrite⟩ := @answered_createOnce request σ step hpid "AD_Client"
    [("Name", request.legalName), ("Value", .str (String.ofList
      ((entity.toList.map fun c => if c = '_' then '-' else c).take 40))), ("IsActive", .bool true)] h
  have hvalue : orRaise (IdempiereAdapter.safeValue (.str entity)) = pure (.str (String.ofList
      ((entity.toList.map fun c => if c = '_' then '-' else c).take 40))) := rfl
  rw [hvalue]
  refine ⟨⟨result.2, ?_⟩, y, ?_, hwrite⟩
  · refine (answered_bind hresult).trans ?_
    rw [hpid']
    rfl
  · have hcalls := answeredCalls_bind (f := fun created : Int × Json => do
      let pid ← textParam request.provisioningId
      NativeMappings.putNativeId pid IdempiereAdapter.clientAliasKey created.1
      pure created.2) hresult
    exact hcalls ▸ List.mem_append_left _ hy

/-- A step that can be applied is, unless it writes the tenant mapping. -/
theorem answered_apply {b : Blueprint} (htyped : b.request.Typed) (h : Applicable b step)
    (hadmitted : Admitted step) (hkind : step.kind ≠ .persistMapping) :
    ∃ result, (IdempiereAdapter.apply D σ b.request step).answered obliging = .ok result := by
  obtain ⟨hpid, -, -, ⟨entity, hentity⟩, -⟩ := id htyped
  unfold Applicable at h
  unfold Admitted at hadmitted
  unfold IdempiereAdapter.apply
  split at h
  · next hk =>
    rw [hk] at hadmitted ⊢
    exact (answered_createClient hpid ⟨entity, hentity⟩ (hadmitted rfl)).1
  · cases h
  · next hk =>
    rw [hk] at hadmitted ⊢
    obtain ⟨code, hcode⟩ := h
    have hitem : payloadItem step "warehouse_code" = pure code := by
      unfold payloadItem
      rw [hcode]
    dsimp only
    unfold IdempiereAdapter.createWarehouse
    rw [hitem]
    obtain ⟨⟨result, hresult⟩, -⟩ := @answered_createOnce b.request σ step hpid "M_Warehouse"
      [("Name", code), ("Value", code), ("IsActive", .bool true)] (hadmitted rfl)
    exact ⟨result.2, answered_bind hresult⟩
  · next hk => exact absurd hk hkind
  · next hclient horganisation hwarehouse hmapping =>
    obtain ⟨process, hprocess⟩ := h
    obtain ⟨pid, hpid⟩ := hpid
    have hconfigure : ∃ result, (IdempiereAdapter.configure D σ b.request step).answered obliging =
        .ok result := by
      unfold IdempiereAdapter.configure IdempiereAdapter.markApplied
      rw [hprocess, hpid]
      exact ⟨_, rfl⟩
    split
    · next hk => exact absurd hk hclient
    · next hk => exact absurd hk horganisation
    · exact hconfigure
    · exact hconfigure
    · next hk => exact absurd hk hwarehouse
    · next hk => exact absurd hk hmapping

/-- A record that cannot be looked for is refused, for its key alone. -/
theorem refused_createOnce (hpid : IsText request.provisioningId) (table : String)
    (fields : List (String × Json)) (h : findable step = false) :
    (IdempiereAdapter.createOnce σ request step table fields).answered obliging =
        .error (.value "ValueError") ∧
      ∀ y ∈ (IdempiereAdapter.createOnce σ request step table fields).answeredCalls obliging,
        Smooth y := by
  obtain ⟨pid, hpid⟩ := hpid
  have hnative : (NativeMappings.getNativeId pid (IdempiereAdapter.resourceKey step)).answered obliging =
      .ok none := rfl
  have hselect : Smooth ⟨.sql (.select (.nativeMapping pid (IdempiereAdapter.resourceKey step))),
      obliging (.sql (.select (.nativeMapping pid (IdempiereAdapter.resourceKey step))))⟩ := by
    refine ⟨True.intro, fun q hq => ⟨none, rfl⟩, fun halias => ?_⟩
    exact resourceKey_ne_alias step halias.1
  unfold IdempiereAdapter.createOnce
  rw [hpid, textParam_bind, answered_bind hnative, answeredCalls_bind hnative]
  dsimp only
  unfold findable at h
  cases hm : IdempiereAdapter.marker step with
  | error x =>
    have hx : x = .value "ValueError" := by
      unfold IdempiereAdapter.marker at hm
      dsimp only at hm
      split at hm
      · exact (Except.error.inj hm).symm
      · cases hm
    subst hx
    refine ⟨rfl, fun y hy => ?_⟩
    obtain rfl := List.mem_singleton.1 (show y ∈ [_] from hy)
    exact hselect
  | ok marker =>
    rw [hm] at h
    dsimp only at h
    have hquery : obliging (.query σ table marker) = .error (.value "ValueError") :=
      if_neg (by rw [h]; exact Bool.false_ne_true)
    have hfind : (IdempiereAdapter.findMarked σ table marker).answered obliging =
        .error (.value "ValueError") := by
      unfold IdempiereAdapter.findMarked
      exact answered_bind_error hquery
    rw [orRaise_bind, answered_bind_error hfind, answeredCalls_bind_error hfind]
    refine ⟨rfl, fun y hy => ?_⟩
    rcases List.mem_append.1 hy with hy | hy
    · obtain rfl := List.mem_singleton.1 (show y ∈ [_] from hy)
      exact hselect
    · have hcalls : (IdempiereAdapter.findMarked σ table marker).answeredCalls obliging =
          (Call.query σ table marker).answeredCalls obliging := by
        unfold IdempiereAdapter.findMarked
        exact answeredCalls_bind_error hquery
      rw [hcalls] at hy
      obtain rfl := List.mem_singleton.1 (show y ∈ [_] from hy)
      refine ⟨served_obliging _, fun q hq => ?_, fun halias => halias⟩
      rcases hq with hq | hq <;> cases hq

/-- A warehouse's step is refused so. -/
theorem refused_apply {b : Blueprint} (htyped : b.request.Typed) (h : Applicable b step)
    (hkind : step.kind = .createWarehouse) (hfind : findable step = false) :
    (IdempiereAdapter.apply D σ b.request step).answered obliging = .error (.value "ValueError") ∧
      ∀ y ∈ (IdempiereAdapter.apply D σ b.request step).answeredCalls obliging, Smooth y := by
  obtain ⟨hpid, -⟩ := htyped
  unfold Applicable at h
  rw [hkind] at h
  obtain ⟨code, hcode⟩ := h
  have hitem : payloadItem step "warehouse_code" = pure code := by
    unfold payloadItem
    rw [hcode]
  obtain ⟨hanswered, hsmooth⟩ := @refused_createOnce b.request σ step hpid "M_Warehouse"
    [("Name", code), ("Value", code), ("IsActive", .bool true)] hfind
  unfold IdempiereAdapter.apply
  rw [hkind]
  dsimp only
  unfold IdempiereAdapter.createWarehouse
  rw [hitem]
  have hcreate : (do
      let created ← IdempiereAdapter.createOnce σ b.request step "M_Warehouse"
        [("Name", code), ("Value", code), ("IsActive", .bool true)]
      return created.2).answered obliging = .error (.value "ValueError") := answered_bind_error hanswered
  refine ⟨hcreate, fun y hy => hsmooth y ?_⟩
  have hcalls := answeredCalls_bind_error (f := fun created : Int × Json => (pure created.2 : Program Json)) hanswered
  exact hcalls ▸ hy

/-- Steps that are applied, and then one that is refused. -/
theorem refused_applySteps {before after : List ProvisioningStep} {x : Exc} (pid : String)
    (hbefore : ∀ s ∈ before, ∃ result,
      (IdempiereAdapter.apply D σ request s).answered obliging = .ok result)
    (hstep : (IdempiereAdapter.apply D σ request step).answered obliging = .error x) :
    (applySteps D σ request pid (before ++ step :: after)).answered obliging = .error x ∧
      ∃ events, (applySteps D σ request pid (before ++ step :: after)).answeredCalls obliging =
          events ++ (IdempiereAdapter.apply D σ request step).answeredCalls obliging ∧
        ∀ s ∈ before, ∀ y ∈ (IdempiereAdapter.apply D σ request s).answeredCalls obliging, y ∈ events := by
  induction before with
  | nil => exact ⟨answered_bind_error hstep, [], answeredCalls_bind_error hstep, fun s hs => absurd hs List.not_mem_nil⟩
  | cons s before ih =>
    obtain ⟨result, hresult⟩ := hbefore s List.mem_cons_self
    obtain ⟨hanswered, events, hevents, hmem⟩ := ih fun t ht => hbefore t (List.mem_cons_of_mem _ ht)
    have hmark : (ProvisioningStore.markStep pid s.key "completed" result).answered obliging = .ok () := rfl
    rw [List.cons_append, applySteps]
    refine ⟨?_, (IdempiereAdapter.apply D σ request s).answeredCalls obliging ++
      ((ProvisioningStore.markStep pid s.key "completed" result).answeredCalls obliging ++ events), ?_, ?_⟩
    · rw [answered_bind hresult, answered_bind hmark]
      exact hanswered
    · rw [answeredCalls_bind hresult, answeredCalls_bind hmark, hevents, List.append_assoc, List.append_assoc]
    · intro t ht y hy
      rcases List.mem_cons.1 ht with rfl | ht
      · exact List.mem_append_left _ hy
      · exact List.mem_append_right _ (List.mem_append_right _ (hmem t ht y hy))

/-- A pass one of whose steps is refused so. -/
theorem refused_run {operation : LoadedOperation} {runnable : List ProvisioningStep} {x : Exc}
    (hp : prepare D operation.state operation.digest operation.plan = .ok (request, σ, runnable))
    (happlying : operation.status = .applying)
    (h : (applySteps D σ request operation.provisioningId runnable).answered obliging = .error x) :
    (run D operation).answered obliging = .ok (classify x) ∧
      (run D operation).answeredCalls obliging = ⟨.sql (.completedSteps operation.provisioningId), .ok []⟩ ::
        (applySteps D σ request operation.provisioningId runnable).answeredCalls obliging := by
  have hdone : (ProvisioningStore.completedSteps operation.provisioningId).answered obliging = .ok [] := rfl
  have hpending : runnable.filter (fun step => !([] : List String).contains step.key) = runnable :=
    List.filter_eq_self.2 fun _ _ => rfl
  have hcontinues : (!runnable.isEmpty && operation.status != .applying) = false := by
    rw [happlying]
    exact Bool.and_false _
  have hof : (stepsOf D operation request σ runnable).answered obliging = .error x ∧
      (stepsOf D operation request σ runnable).answeredCalls obliging =
        ⟨.sql (.completedSteps operation.provisioningId), .ok []⟩ ::
          (applySteps D σ request operation.provisioningId runnable).answeredCalls obliging := by
    unfold stepsOf
    rw [answered_bind hdone, answeredCalls_bind hdone]
    dsimp only
    rw [hpending, hcontinues, if_neg Bool.false_ne_true]
    exact ⟨answered_bind_error h, congrArg _ (answeredCalls_bind_error h)⟩
  have hsteps : (stepsPhase D operation).answered obliging = .error x ∧
      (stepsPhase D operation).answeredCalls obliging = ⟨.sql (.completedSteps operation.provisioningId), .ok []⟩ ::
        (applySteps D σ request operation.provisioningId runnable).answeredCalls obliging := by
    unfold stepsPhase
    rw [hp, orRaise_bind]
    exact ⟨answered_bind_error hof.1, (answeredCalls_bind_error hof.1).trans hof.2⟩
  have hphases : (runOperation D operation).answered obliging = .error x ∧
      (runOperation D operation).answeredCalls obliging = (stepsPhase D operation).answeredCalls obliging := by
    rw [runOperation_eq]
    exact ⟨answered_bind_error hsteps.1, answeredCalls_bind_error hsteps.1⟩
  obtain ⟨hanswered, hcalls⟩ := @answered_tryCatch _ _ _ _ obliging _ x (fun y => pure (classify y)) hphases.1
  refine ⟨hanswered, hcalls.trans ?_⟩
  rw [hphases.2, hsteps.2]
  exact List.append_nil _

end Started

section Exact

variable {D : ProvisioningDeployment} {pid : String} {row : OperationRow} {b : Blueprint}

/-- **The first warehouse that cannot be looked for**: what comes before it is applied. -/
theorem Planned.first_refused (hb : Planned D pid row b) {runnable : List ProvisioningStep} {σ : Session}
    (hrun : b.plan.steps.mapM (enrichStep D.processes) = .ok runnable)
    (hclient : ∀ s ∈ b.plan.steps, s.kind = .createClient → findable s = true)
    {w : ProvisioningStep} (hw : w ∈ b.plan.steps) (hkind : w.kind = .createWarehouse)
    (hfind : findable w = false) :
    ∃ before step after, runnable = before ++ step :: after ∧ step.kind = .createWarehouse ∧
      findable step = false ∧ (∃ client ∈ before, client.kind = .createClient ∧ findable client = true) ∧
      ∀ s ∈ before, ∃ result,
        (IdempiereAdapter.apply D σ b.request s).answered obliging = .ok result := by
  obtain ⟨client, rest, mapping, hparts, hfirst, -, hmapping, hkinds⟩ := hb.runnable_parts hrun
  obtain ⟨w', hw', he⟩ := mem_of_mapM_left hrun w hw
  have hrest : w' ∈ client :: rest := by
    rw [hparts] at hw'
    rcases List.mem_append.1 hw' with hw' | hw'
    · exact hw'
    · obtain rfl := List.mem_singleton.1 hw'
      rw [enrichStep_kind he, hkind] at hmapping
      cases hmapping
  have hsome : ((client :: rest).find? fun s => s.kind = .createWarehouse && !findable s).isSome = true := by
    rw [List.find?_isSome]
    refine ⟨w', hrest, ?_⟩
    rw [enrichStep_kind he, hkind, findable_congr (enrichStep_key he), hfind]
    rfl
  obtain ⟨step, hstep⟩ := Option.isSome_iff_exists.1 hsome
  obtain ⟨hrefused, before, after, heq, hbefore⟩ := List.find?_eq_some_iff_append.1 hstep
  simp only [Bool.and_eq_true, decide_eq_true_eq, Bool.not_eq_true'] at hrefused
  have hmem : ∀ s ∈ before, s ∈ runnable ∧ s.kind ≠ .persistMapping := by
    intro s hs
    have hs' : s ∈ client :: rest := heq ▸ List.mem_append_left _ hs
    exact ⟨hparts ▸ List.mem_append_left _ hs', hkinds s hs'⟩
  have hfindable : ∀ s ∈ runnable, s.kind = .createClient → findable s = true := by
    intro s hs hk
    obtain ⟨s₀, hs₀, he₀⟩ := mem_of_mapM hrun s hs
    rw [findable_congr (enrichStep_key he₀)]
    exact hclient s₀ hs₀ ((enrichStep_kind he₀).symm.trans hk)
  refine ⟨before, step, after ++ [mapping], ?_, hrefused.1, hrefused.2, ?_, fun s hs => ?_⟩
  · rw [hparts, heq, List.append_assoc, List.cons_append]
  · cases before with
    | nil =>
      obtain ⟨rfl, -⟩ := List.cons.inj heq
      rw [hfirst] at hrefused
      cases hrefused.1
    | cons first before =>
      obtain ⟨rfl, -⟩ := List.cons.inj heq
      exact ⟨client, List.mem_cons_self, hfirst, hfindable client (hmem client List.mem_cons_self).1 hfirst⟩
  · obtain ⟨hrunnable, hne⟩ := hmem s hs
    have happlicable := hb.applicable hrun s hrunnable
    refine answered_apply hb.typed happlicable (fun htable => ?_) hne
    cases hk : s.kind with
    | createClient => exact hfindable s hrunnable hk
    | createWarehouse =>
      have hnot := hbefore s hs
      rw [hk] at hnot
      simpa using hnot
    | createOrganisation =>
      unfold Applicable at happlicable
      rw [hk] at happlicable
      exact happlicable.elim
    | _ =>
      rw [hk] at htable
      cases htable

/-- **A plan that does not finish starts**: its client and what comes before the warehouse is
applied, and the warehouse is refused. -/
theorem Planned.starts (hb : Planned D pid row b) (h : ¬ Finishable D row b) :
    ∃ history : List (Attempt D pid row), Plausible history ∧ ¬ NothingStarted history := by
  unfold Finishable at h
  rw [not_or, not_or] at h
  obtain ⟨hprepared, hclient, hwarehouse⟩ := h
  obtain ⟨w, hw, hkind, hfind⟩ : ∃ w ∈ b.plan.steps, w.kind = .createWarehouse ∧ findable w = false := by
    by_contra hnone
    refine hwarehouse fun step hstep hkind => ?_
    by_contra hfalse
    exact hnone ⟨step, hstep, hkind, Bool.eq_false_iff.2 hfalse⟩
  have hclient' : ∀ s ∈ b.plan.steps, s.kind = .createClient → findable s = true := by
    intro s hs hk
    by_contra hfalse
    exact hclient ⟨s, hs, hk, Bool.eq_false_iff.2 hfalse⟩
  have hrows : planRows D.runtime row.plan = .ok (b.plan.steps.map stepRow) := by
    rw [hb.steps, planRows_planDocument hb.plan]
  cases hp : prepare D row.desiredState row.desiredStateDigest (b.plan.steps.map stepRow) with
  | error x => exact absurd ⟨x, hp⟩ hprepared
  | ok prepared =>
    obtain ⟨request, σ, runnable⟩ := prepared
    obtain ⟨rfl, -, hrun⟩ := hb.enriched hrows hp
    obtain ⟨before, step, after, rfl, hstepKind, hstepFind, ⟨client, hclient, hclientKind, hclientFind⟩, happlied⟩ :=
      @Planned.first_refused D pid row b hb runnable σ hrun hclient' w hw hkind hfind
    obtain ⟨hrefused, hsmooth⟩ := @refused_apply D σ step b hb.typed
      (hb.applicable hrun step (List.mem_append_right _ List.mem_cons_self)) hstepKind hstepFind
    obtain ⟨hanswered, made, hmade, hmem⟩ := @refused_applySteps D b.request σ step before after _ pid happlied hrefused
    let operation : LoadedOperation :=
      ⟨pid, row.desiredState, row.desiredStateDigest, b.plan.steps.map stepRow, .applying, 0, 0⟩
    obtain ⟨hrun, hcalls⟩ := @refused_run D b.request σ operation _ _ hp rfl hanswered
    have hran := trace_answered obliging (run D operation)
    rw [hrun] at hran
    let a : Attempt D pid row := ⟨operation, ⟨rfl, rfl, rfl, hrows⟩, _, _, hran⟩
    have hevents : a.events = ((⟨.sql (.completedSteps pid), .ok []⟩ :: made) ++
        (IdempiereAdapter.apply D σ b.request step).answeredCalls obliging) := by
      show (run D operation).answeredCalls obliging = _
      rw [hcalls, hmade]
      rfl
    have hanswers : ∀ y ∈ a.events, y = ⟨y.1, obliging y.1⟩ := by
      intro y hy
      rw [← answered_of_mem hy]
    refine ⟨[a], ⟨?_, ?_⟩, fun hnone => ?_⟩
    · intro c hc y hy
      obtain rfl := List.mem_singleton.1 hc
      rw [hanswers y hy]
      exact served_obliging _
    · intro events y rest heq
      have hy : y ∈ a.events := by
        have hall : eventsOf [a] = a.events := List.append_nil _
        rw [← hall, heq]
        exact List.mem_append_right _ List.mem_cons_self
      rw [hanswers y hy]
      exact justified_obliging _ _
    · have hdoomed : a.Doomed := by
        refine ⟨.value "ValueError", rfl, .inr rfl, .inr ⟨b.request, σ, before ++ step :: after, hp, step,
          List.mem_append_right _ List.mem_cons_self, _, _, hevents, ?_, hsmooth, ?_⟩⟩
        · have htrace := trace_answered obliging (IdempiereAdapter.apply D σ b.request step)
          rwa [hrefused] at htrace
        · rintro (hx | hx) <;> cases hx
      refine hnone 0 a rfl hdoomed 0 a (Nat.le_refl _) rfl (.inl ?_)
      have hmakes := (@answered_createClient b.request σ client hb.typed.1 ?_ hclientFind).2
      · obtain ⟨y, hy, hwrite⟩ := hmakes
        have happly : IdempiereAdapter.apply D σ b.request client =
            IdempiereAdapter.createClient σ b.request client := by
          unfold IdempiereAdapter.apply
          rw [hclientKind]
        refine ⟨y, ?_, hwrite⟩
        rw [hevents]
        exact List.mem_append_left _ (List.mem_cons_of_mem _ (hmem client hclient y (happly ▸ hy)))
      · exact hb.typed.2.2.2.1

/-- **The operation starts in vain**: its pass is prepared, its client can be looked for, and
one of its warehouses cannot. -/
def startsInVain (D : ProvisioningDeployment) (row : OperationRow) : Bool :=
  match planRows D.runtime row.plan with
  | .error _ => false
  | .ok rows =>
    match prepare D row.desiredState row.desiredStateDigest rows with
    | .error _ => false
    | .ok (_, _, runnable) =>
      runnable.all (fun step => step.kind ≠ .createClient || findable step) &&
        runnable.any fun step => step.kind = .createWarehouse && !findable step

/-- The steps that are stored, with their process ids. -/
def storedRunnable (D : ProvisioningDeployment) (row : OperationRow) :
    Except Exc (List ProvisioningStep) := do
  let stored ← (← planRows D.runtime row.plan).mapM storedStep
  match stored.mapM id with
  | some steps => steps.mapM (enrichStep D.processes)
  | none => throw .stateDrift

theorem Planned.storedRunnable_eq (hb : Planned D pid row b) :
    storedRunnable D row = b.plan.steps.mapM (enrichStep D.processes) := by
  unfold storedRunnable
  rw [hb.steps, planRows_planDocument hb.plan]
  simp only [bind, Except.bind, mapM_storedStep, mapM_id_some]

/-- **The stored steps of an operation are prepared**, where its engine is known. -/
theorem Planned.prepare_stored (hb : Planned D pid row b) {σ : Session} {runnable : List ProvisioningStep}
    (hσ : D.credentials b.assignment.engineInstanceId = some σ) (hdigest : row.desiredStateDigest ≠ some "")
    (hrun : storedRunnable D row = .ok runnable) :
    prepare D row.desiredState row.desiredStateDigest (b.plan.steps.map stepRow) =
      .ok (b.request, σ, runnable) := by
  obtain ⟨state, hstate, hverified, -, hsteps⟩ :=
    reads_back (fun h => hdigest (hb.digest.trans (congrArg some h))) hb.typed hb.plan
  obtain rfl := Except.ok.inj (hstate.symm.trans hb.state)
  have hengine : engineFor D b.request.engineInstanceId = .ok (some σ) := by
    rw [hb.engine]
    exact congrArg Except.ok hσ
  rw [hb.storedRunnable_eq] at hrun
  unfold prepare
  rw [hb.digest, hverified]
  simp only [bind, Except.bind, hsteps, hengine, hrun]
  rfl

theorem Planned.startsInVain_stored (hb : Planned D pid row b) {σ : Session} {runnable : List ProvisioningStep}
    (hσ : D.credentials b.assignment.engineInstanceId = some σ) (hdigest : row.desiredStateDigest ≠ some "")
    (hrun : storedRunnable D row = .ok runnable) :
    startsInVain D row = ((runnable.all fun step => step.kind ≠ .createClient || findable step) &&
      runnable.any fun step => step.kind = .createWarehouse && !findable step) := by
  have hrows : planRows D.runtime row.plan = .ok (b.plan.steps.map stepRow) := by
    rw [hb.steps, planRows_planDocument hb.plan]
  unfold startsInVain
  rw [hrows]
  dsimp only
  rw [hb.prepare_stored hσ hdigest hrun]

/-- The stored row says whether it does. -/
theorem Planned.finishable_iff (hb : Planned D pid row b) :
    Finishable D row b ↔ startsInVain D row = false := by
  have hrows : planRows D.runtime row.plan = .ok (b.plan.steps.map stepRow) := by
    rw [hb.steps, planRows_planDocument hb.plan]
  unfold startsInVain
  rw [hrows]
  dsimp only
  cases hp : prepare D row.desiredState row.desiredStateDigest (b.plan.steps.map stepRow) with
  | error x => exact iff_of_true (.inl ⟨x, hp⟩) rfl
  | ok prepared =>
    obtain ⟨request, σ, runnable⟩ := prepared
    obtain ⟨-, -, hrun⟩ := hb.enriched hrows hp
    have hclient : (∃ step ∈ b.plan.steps, step.kind = .createClient ∧ findable step = false) ↔
        ¬ (runnable.all fun step => step.kind ≠ .createClient || findable step) = true := by
      simp only [List.all_eq_true, Bool.or_eq_true, decide_eq_true_eq, not_forall, not_or, not_not,
        Bool.not_eq_true, exists_prop]
      constructor
      · rintro ⟨step, hstep, hkind, hfind⟩
        obtain ⟨run, hmem, he⟩ := mem_of_mapM_left hrun step hstep
        exact ⟨run, hmem, (enrichStep_kind he).trans hkind, (findable_congr (enrichStep_key he)).trans hfind⟩
      · rintro ⟨run, hmem, hkind, hfind⟩
        obtain ⟨step, hstep, he⟩ := mem_of_mapM hrun run hmem
        exact ⟨step, hstep, (enrichStep_kind he).symm.trans hkind,
          (findable_congr (enrichStep_key he)).symm.trans hfind⟩
    have hwarehouse : (∀ step ∈ b.plan.steps, step.kind = .createWarehouse → findable step = true) ↔
        ¬ (runnable.any fun step => step.kind = .createWarehouse && !findable step) = true := by
      simp only [List.any_eq_true, Bool.and_eq_true, decide_eq_true_eq, Bool.not_eq_true', not_exists,
        not_and, Bool.not_eq_false]
      constructor
      · intro hall run hmem hkind
        obtain ⟨step, hstep, he⟩ := mem_of_mapM hrun run hmem
        rw [findable_congr (enrichStep_key he)]
        exact hall step hstep ((enrichStep_kind he).symm.trans hkind)
      · intro hall step hstep hkind
        obtain ⟨run, hmem, he⟩ := mem_of_mapM_left hrun step hstep
        rw [← findable_congr (enrichStep_key he)]
        exact hall run hmem ((enrichStep_kind he).trans hkind)
    unfold Finishable
    rw [hclient, hwarehouse, Bool.and_eq_false_iff, Bool.not_eq_true, Bool.not_eq_true]
    exact or_iff_right fun ⟨x, hx⟩ => nomatch hp.symm.trans hx

/-- **Nothing starts that cannot finish, exactly where no operation starts in vain**: over any
passes, one after the other, the engine accepting every request. -/
theorem starts_only_finishable_iff (D : ProvisioningDeployment) (huuid : IsUuid5 D.hashes)
    {p : (provisioning D).Pool} (hp : Reached p) {pid : String} {row : OperationRow}
    (hrow : p.state.rows (.operation pid) = some row) :
    (∀ history : List (Attempt D pid row), Plausible history → NothingStarted history) ↔
      startsInVain D row = false := by
  obtain ⟨-, b, hb⟩ := (Reached.sound huuid hp).1.ledger.provisioned.planned pid row hrow
  constructor
  · intro h
    rw [← hb.finishable_iff]
    by_contra hvain
    obtain ⟨history, hhistory, hstarted⟩ := hb.starts hvain
    exact hstarted (h history hhistory)
  · exact fun h history hhistory => (hb.finishable_iff.2 h).nothingStarted hb hhistory

/-- So it is for the accepted request of one market. -/
theorem starts_only_finishable_accepted : ∃ (p : (provisioning acmeDeployment).Pool) (row : OperationRow),
    p.state.rows (.operation "tp_acme.NABK.v1") = some row ∧
    ((∀ history : List (Attempt acmeDeployment "tp_acme.NABK.v1" row), Plausible history →
      NothingStarted history) ↔ startsInVain acmeDeployment row = false) := by
  obtain ⟨p, hp, -, hoperation, -⟩ := acme_accepted
  obtain ⟨row, hrow⟩ := Option.isSome_iff_exists.1 hoperation
  exact ⟨p, row, hrow, starts_only_finishable_iff acmeDeployment acmeHashes_isUuid5 hp hrow⟩

end Exact

/-! ### A warehouse with a long code -/

/-- A warehouse code of two hundred and forty characters. -/
def longCode : String := String.ofList (List.replicate 240 'N')

/-- A deployment whose market has a warehouse with that code. -/
def longDeployment : ProvisioningDeployment :=
  { acmeDeployment with
    dependencies := some ⟨fun _ => some ⟨"key", .dedicatedClient⟩,
      fun _ => some ⟨["KES"], "KE-2026", [longCode], [(longCode, "Africa/Nairobi")]⟩, "production"⟩ }

/-- The same request is accepted there. -/
def longSession : List (provisioning longDeployment).Action :=
  .launch "w" (.request acmePost) :: List.replicate 15 (.call "w" acmeAnswers) ++ [.stop "w"]

/-- The key of the step of its warehouse. -/
def longKey : String := "tp_acme.NABK.v1:60e96e884657:warehouse:KE:" ++ longCode

theorem not_findable_longKey {step : ProvisioningStep} (h : step.key = longKey) : findable step = false := by
  have hcode : longCode.length = 240 := by
    unfold longCode
    rw [String.length_ofList, List.length_replicate]
  have hprefix : IdempiereAdapter.markerPrefix.length = 20 := by decide +kernel
  have hlength : 255 < (IdempiereAdapter.markerPrefix ++ step.key).length := by
    rw [h]
    unfold longKey
    rw [String.length_append, String.length_append, hcode, hprefix]
    omega
  unfold findable IdempiereAdapter.marker
  simp only [if_pos hlength]

/-- The operation is accepted, and starts in vain. -/
theorem long_accepted : ∃ (p : (provisioning longDeployment).Pool) (row : OperationRow), Reached p ∧
    p.state.rows (.operation "tp_acme.NABK.v1") = some row ∧ startsInVain longDeployment row = true := by
  -- the keys are compared, not measured: the length of a long text is dear to compute
  have hrun : (Machine.run longSession (Machine.idle World.empty)).bind
      (fun p => (p.state.rows (.operation "tp_acme.NABK.v1")).map fun row =>
        row.desiredStateDigest ≠ some "" && (storedRunnable longDeployment row).toOption.any fun runnable =>
          (runnable.all fun step => step.kind ≠ .createClient || findable step) &&
            runnable.any fun step => step.kind = .createWarehouse && step.key = longKey) =
        some true := by decide +kernel
  obtain ⟨p, hp, hend⟩ := Option.bind_eq_some_iff.1 hrun
  obtain ⟨row, hrow, hstored⟩ := Option.map_eq_some_iff.1 hend
  have hreached : Reached p := Machine.reaches_of_run (fun _ _ _ => trivial) hp
  refine ⟨p, row, hreached, hrow, ?_⟩
  obtain ⟨-, b, hb⟩ := (@Reached.sound longDeployment acmeHashes_isUuid5 p hreached).1.ledger.provisioned.planned _
    row hrow
  rw [Bool.and_eq_true, decide_eq_true_eq] at hstored
  obtain ⟨hdigest, hsteps⟩ := hstored
  cases hr : storedRunnable longDeployment row with
  | error x =>
    rw [hr] at hsteps
    cases hsteps
  | ok runnable =>
    rw [hr] at hsteps
    obtain ⟨hclients, hwarehouse⟩ := Bool.and_eq_true_iff.1 hsteps
    rw [hb.startsInVain_stored rfl hdigest hr, Bool.and_eq_true]
    refine ⟨hclients, ?_⟩
    obtain ⟨step, hstep, hlong⟩ := List.any_eq_true.1 hwarehouse
    rw [Bool.and_eq_true, decide_eq_true_eq, decide_eq_true_eq] at hlong
    refine List.any_eq_true.2 ⟨step, hstep, ?_⟩
    rw [not_findable_longKey hlong.2]
    simp only [hlong.1, decide_true, Bool.not_false, Bool.and_self]

/-- **Its client is created, and then its warehouse is refused.** -/
theorem long_code_starts : ∃ (p : (provisioning longDeployment).Pool) (row : OperationRow), Reached p ∧
    p.state.rows (.operation "tp_acme.NABK.v1") = some row ∧
    ∃ history : List (Attempt longDeployment "tp_acme.NABK.v1" row), Plausible history ∧
      ¬ NothingStarted history := by
  obtain ⟨p, row, hp, hrow, hvain⟩ := long_accepted
  obtain ⟨-, b, hb⟩ := (@Reached.sound longDeployment acmeHashes_isUuid5 p hp).1.ledger.provisioned.planned _ row hrow
  refine ⟨p, row, hp, hrow, hb.starts fun hfinish => ?_⟩
  rw [hb.finishable_iff, hvain] at hfinish
  cases hfinish

end Provisioning
end BaobabErp
