/-
# The session of a request

The walk through the handler of `POST /provisioning-operations`, from `accept`
(`accept_triple`) over the look-up of the key (`find_triple`) to the answer
(`serve_triple`): whatever a request is answered, its answer says what was
committed for its key.
-/

import BaobabErp.Provisioning.Accepting

namespace BaobabErp
namespace Provisioning

open Python Concurrency AcceptOperation

section

variable {D : ProvisioningDeployment} {w : Worker} {tenant key : String} {found : Option String}
  {pids : List String} {links : List (String × String)} {s : World}

/-! ### `accept` -/

/-- Some rows of a new command are written. -/
def writing (D : ProvisioningDeployment) (w : Worker) (tenant key : String) (found : Option String)
    (pids : List String) (accepted : Option (String × CommandRow))
    (links : List (String × String)) : (coordination D).Assertion w :=
  .ex fun new => (Protocol.Assertion.const (Written D pids accepted links new)).and
    (recording D w tenant key found new)

/-- The operation of a planned entity. -/
def recordOf (entity : PlannedEntity) : String := entity.assignment.provisioningRecordId

theorem insertOperations_triple : ∀ (entities : List PlannedEntity) (pids : List String),
    (∀ entity ∈ entities, Plans D entity) →
    (coordination D).Triple w (writing D w tenant key found pids none []) (insertOperations entities)
      (.ends (fun _ => writing D w tenant key found (pids ++ entities.map recordOf) none [])
        (asked D w tenant key found))
  | [], pids, _ => .pure fun s _ hA => by
      rw [List.map_nil, List.append_nil]
      exact hA
  | entity :: entities, pids, hplans => by
    have hplan := hplans entity List.mem_cons_self
    refine .ex fun new => .given fun hwritten => ?_
    unfold insertOperations
    rw [hplan.provisioningId]
    split
    · rename_i pid k hpid _
      obtain rfl := Json.str.inj hpid
      refine .seq insert_recording fun a => .ex fun d => .given fun ⟨⟨ha, _⟩, _⟩ => ?_
      subst ha
      have hnext : Written D (pids ++ [recordOf entity]) none [] (new.inserted
          (.operation (recordOf entity)) (operationRow entity k d)) :=
        hwritten.withOperation rfl ⟨_, hplan.planned k d⟩
      refine ((insertOperations_triple entities _ fun e he =>
        hplans e (List.mem_cons_of_mem _ he)).pre fun s _ hA => ⟨_, hnext, hA⟩).post fun r s _ hr => ?_
      cases r with
      | ok a =>
        rw [List.map_cons, List.append_cons]
        exact hr
      | error x => exact hr
    · exact .throw fun s _ hA => Recording.asked hA

theorem insertEntities_triple {op : String} {c : CommandRow} :
    ∀ (entities : List PlannedEntity) (links : List (String × String)),
    (∀ entity ∈ entities, Plans D entity ∧ recordOf entity ∈ pids) →
    (coordination D).Triple w (writing D w tenant key found pids (some (op, c)) links)
      (insertEntities op entities)
      (.ends (fun _ => writing D w tenant key found pids (some (op, c))
          (links ++ entities.map fun entity => (entity.legalEntityId, recordOf entity)))
        (asked D w tenant key found))
  | [], links, _ => .pure fun s _ hA => by
      rw [List.map_nil, List.append_nil]
      exact hA
  | entity :: entities, links, hplans => by
    obtain ⟨hplan, hmem⟩ := hplans entity List.mem_cons_self
    refine .ex fun new => .given fun hwritten => ?_
    unfold insertEntities
    rw [hplan.provisioningId]
    refine .seq insert_recording fun a => .ex fun d => .given fun ⟨⟨ha, hentity⟩, howner, _⟩ => ?_
    subst ha
    have hnext : Written D pids (some (op, c)) (links ++ [(entity.legalEntityId, recordOf entity)])
        (new.inserted (.commandEntity op entity.legalEntityId) (recordOf entity)) :=
      hwritten.withEntity hmem hentity (howner _ List.mem_cons_self)
    refine ((insertEntities_triple entities _ fun e he =>
      hplans e (List.mem_cons_of_mem _ he)).pre fun s _ hA => ⟨_, hnext, hA⟩).post fun r s _ hr => ?_
    cases r with
    | ok a =>
      rw [List.map_cons, List.append_cons]
      exact hr
    | error x => exact hr

/-- **A command with all that belongs to it is written.** -/
def accepting (D : ProvisioningDeployment) (w : Worker) (tenant key : String)
    (found : Option String) (op : String) (c : CommandRow) : (coordination D).Assertion w :=
  .ex fun new => (Protocol.Assertion.const (∀ rows : Rows, (∀ k v, new k = some v → rows k = none) →
    Accepts D rows op c new)).and (recording D w tenant key found new)

theorem announce_accepting {op : String} {c : CommandRow} {new : Rows}
    (hwritten : Written D pids (some (op, c)) links new)
    (hall : ∀ pid ∈ pids, ∃ le, (le, pid) ∈ links) (hne : pids ≠ [])
    (hstate : c.state = .accepted ∧ c.failureCode = none ∧ c.revision = 1) :
    (coordination D).Triple w (recording D w tenant key found new) (CommandStore.announce D op c)
      (.ends (fun _ => accepting D w tenant key found op c) (asked D w tenant key found)) := by
  unfold CommandStore.announce
  refine .seq (B := fun event => (Protocol.Assertion.const
    (CommandEvents.provisioningChanged D.hashes op c = .ok event)).and
      (recording D w tenant key found new))
    (orRaise_triple (fun event he s hA => ⟨he, hA⟩) fun _ _ _ hA => Recording.asked hA) fun event =>
      .given fun hevent => ?_
  have hvalid : (CommandEvents.provisioningChanged D.hashes op c).toOption.isSome = true := by
    rw [hevent]
    rfl
  obtain rfl := CommandEvents.provisioningChanged_eq hevent
  have hid : (CommandEvents.changed D.hashes op c).id = CommandEvents.eventId D.hashes op 1 := by
    rw [← hstate.2.2]
    rfl
  unfold recordEvent
  split
  · exact .throw fun _ _ hA => Recording.asked hA
  split_ifs
  · exact .throw fun _ _ hA => Recording.asked hA
  · exact .throw fun _ _ hA => Recording.asked hA
  rw [hid]
  refine .seq insert_recording fun a => .ex fun d => .given fun ⟨⟨ha, _⟩, _⟩ => .pure fun s _ hA => ?_
  subst ha
  exact ⟨_, fun rows hfresh => hwritten.accepts hall hne hstate hvalid rfl hfresh, hA⟩

/-- **`accept`.** -/
theorem accept_triple {command : ProvisioningCommand} {principal fingerprint : String}
    {entities : List PlannedEntity} (hplans : ∀ entity ∈ entities, Plans D entity)
    (hlength : entities.length = command.legalEntityIds.length) :
    (coordination D).Triple w (untouched D w tenant key found)
      (accept D command key principal fingerprint entities)
      (.ends (fun x => (Protocol.Assertion.const (x.2.tenantId = command.tenantId ∧
          x.2.idempotencyKey = key ∧ x.2.requestFingerprint = fingerprint)).and
        (accepting D w tenant key found x.1 x.2)) (asked D w tenant key found)) := by
  unfold accept
  refine Protocol.Triple.bind (Q := fun _ => untouched D w tenant key found) (quiet_triple rfl)
    (fun op => ?_) fun _ _ _ hA => Untouched.asked hA
  refine .seq ((insertOperations_triple entities [] hplans).pre fun s _ hA =>
    ⟨_, .empty, Untouched.recording hA⟩) fun _ => .ex fun new => .given fun hwritten => ?_
  refine .seq insert_recording fun row => .ex fun d => .given fun ⟨⟨hrow, _⟩, _, hcheck⟩ => ?_
  subst hrow
  rw [List.nil_append] at hwritten
  have hne : entities ≠ [] := by
    rintro rfl
    have hnil : command.legalEntityIds = [] := List.length_eq_zero_iff.1 hlength.symm
    simp [Schema.check, commandRow, hnil, sorted] at hcheck
  refine .seq ((insertEntities_triple entities [] fun e he =>
    ⟨hplans e he, List.mem_map_of_mem he⟩).pre fun s _ hA => ⟨_, hwritten.withCommand, hA⟩) fun _ =>
      .ex fun new' => .given fun hlinked => ?_
  refine .seq (announce_accepting hlinked (fun pid hpid => ?_) (by simpa using hne) ⟨rfl, rfl, rfl⟩)
    fun _ => .pure fun s _ hA => ⟨⟨rfl, rfl, rfl⟩, hA⟩
  obtain ⟨entity, hentity, rfl⟩ := List.mem_map.1 hpid
  refine ⟨entity.legalEntityId, ?_⟩
  rw [List.nil_append]
  exact List.mem_map_of_mem hentity

/-! ### What is planned -/

/-- The request is refused, or it goes on with something of which `φ` holds. -/
def refusedOr {α : Type} (D : ProvisioningDeployment) (w : Worker) (tenant key : String)
    (found : Option String) (φ : α → Prop) : Except Response α → (coordination D).Assertion w
  | .error refusal => (Protocol.Assertion.const (refusal.operationId = none)).and
      (untouched D w tenant key found)
  | .ok a => (Protocol.Assertion.const (φ a)).and (untouched D w tenant key found)

theorem quiet_untouched {e : Eff} (he : e.isQuiet = true) :
    (coordination D).Triple w (untouched D w tenant key found) (Prog.perform e)
      (.ends (fun _ => untouched D w tenant key found) (asked D w tenant key found)) :=
  (quiet_triple he).post fun r _ _ h => by
    cases r with
    | ok a => exact h
    | error x => exact Untouched.asked h

theorem baseline_untouched {e : Eff} (he : e.isBaseline = true) :
    (coordination D).Triple w (untouched D w tenant key found) (Prog.perform e)
      (.ends (fun _ => untouched D w tenant key found) (asked D w tenant key found)) := by
  refine .perform (fun s _ _ => ?_) fun c s r t _ _ hA _ hx => ?_
  · cases e with
    | commit => cases he
    | createRecord => cases he
    | answer => cases he
    | _ => trivial
  · rcases exec_baseline (D := D) he hx with rfl | ⟨⟨x, rfl⟩, rfl⟩
    · cases r with
      | ok a => exact hA
      | error x => exact Untouched.asked hA
    · exact (Asked.abort (Untouched.asked hA)).asked

/-- An assignment that is approved and names what the command names. -/
def IsAssigned (D : ProvisioningDeployment) (command : ProvisioningCommand) (le : String)
    (a : CpErpAssignment) : Prop :=
  D.approves a = true ∧ differences a command le = []

theorem resolveOne_triple {command : ProvisioningCommand} {tenant' le : String} :
    (coordination D).Triple w (untouched D w tenant key found) (resolveOne command tenant' le)
      (.ends (refusedOr D w tenant key found (IsAssigned D command le))
        (asked D w tenant key found)) := by
  unfold resolveOne
  refine .tryCatch (Q := .ends (refusedOr D w tenant key found (IsAssigned D command le))
    (untouched D w tenant key found)) ?_ (fun _ _ _ hA => hA) fun x => ?_
  · refine .seq (B := fun a => (Protocol.Assertion.const (D.approves a = true)).and
      (untouched D w tenant key found)) (.perform (fun _ _ _ => trivial)
        fun c s r t _ _ hA _ hx => ?_) fun a => .given fun ha => ?_
    · obtain ⟨rfl, happroved⟩ := exec_resolveAssignment (D := D) (w := w) hx
      cases r with
      | ok a => exact ⟨happroved a rfl, hA⟩
      | error x => exact hA
    · dsimp only
      split_ifs with hdiff
      · exact .pure fun _ _ hA => ⟨⟨ha, List.isEmpty_iff.1 hdiff⟩, hA⟩
      · exact .pure fun _ _ hA => ⟨rfl, hA⟩
  · split
    · exact .pure fun _ _ hA => ⟨rfl, hA⟩
    · exact .pure fun _ _ hA => ⟨rfl, hA⟩
    · exact .pure fun _ _ hA => ⟨rfl, hA⟩
    · exact .throw fun _ _ hA => Untouched.asked hA

theorem resolveAll_triple {command : ProvisioningCommand} {tenant' : String} :
    ∀ ids : List String, (coordination D).Triple w (untouched D w tenant key found)
      (resolveAll command tenant' ids)
      (.ends (refusedOr D w tenant key found fun as => as.length = ids.length ∧
          ∀ a ∈ as, ∃ le ∈ ids, IsAssigned D command le a) (asked D w tenant key found))
  | [] => .pure fun _ _ hA => ⟨⟨rfl, fun _ h => absurd h List.not_mem_nil⟩, hA⟩
  | le :: ids => by
    unfold resolveAll
    refine .seq resolveOne_triple fun x => ?_
    cases x with
    | error refusal => exact .pure fun _ _ hA => hA
    | ok a =>
      refine .given fun ha => .seq (resolveAll_triple ids) fun y => ?_
      cases y with
      | error refusal => exact .pure fun _ _ hA => hA
      | ok as =>
        refine .given fun ⟨hlength, hall⟩ => .pure fun _ _ hA =>
          ⟨⟨congrArg Nat.succ hlength, fun b hb => ?_⟩, hA⟩
        rcases List.mem_cons.1 hb with rfl | hb
        · exact ⟨le, List.mem_cons_self, ha⟩
        · obtain ⟨e, he, hassigned⟩ := hall b hb
          exact ⟨e, List.mem_cons_of_mem _ he, hassigned⟩

theorem exactBaselines_triple : ∀ refs : List FinanceBaselineRef,
    (coordination D).Triple w (untouched D w tenant key found) (exactBaselines D refs)
      (.ends (refusedOr D w tenant key found fun _ => True) (asked D w tenant key found))
  | [] => .pure fun _ _ hA => ⟨trivial, hA⟩
  | ref :: refs => by
    unfold exactBaselines
    refine .seq (baseline_untouched rfl) fun baseline => ?_
    split
    · exact .pure fun _ _ hA => ⟨rfl, hA⟩
    · refine .seq (exactBaselines_triple refs) fun y => ?_
      cases y with
      | error refusal => exact .pure fun _ _ hA => hA
      | ok bs => exact .pure fun _ _ hA => hA

theorem effectiveBaselines_triple {now : Instant} :
    ∀ bs : List (String × FinancialConfigurationBaseline),
    (coordination D).Triple w (untouched D w tenant key found) (effectiveBaselines now bs)
      (.ends (refusedOr D w tenant key found fun _ => True) (asked D w tenant key found))
  | [] => .pure fun _ _ hA => ⟨trivial, hA⟩
  | (le, b) :: bs => by
    unfold effectiveBaselines
    refine .seq (baseline_untouched rfl) fun status => ?_
    dsimp only
    split_ifs
    · exact effectiveBaselines_triple bs
    · exact .pure fun _ _ hA => ⟨rfl, hA⟩

/-- What `planAll` refuses it refuses with a problem. -/
theorem planAll_refused {P : ProvisioningDependencies} {tenant : String} {now : Instant}
    {baselines : List (String × FinancialConfigurationBaseline)} {refusal : Response} :
    ∀ {as : List CpErpAssignment}, planAll D P tenant now baselines as = .ok (.error refusal) →
      refusal.operationId = none
  | [], h => by cases h
  | a :: as, h => by
    unfold planAll at h
    split at h
    · split at h
      · obtain rfl := Except.error.inj (Except.ok.inj h)
        rfl
      · cases h
    · split at h
      · cases h
      · rename_i hrest
        obtain rfl := Except.error.inj (Except.ok.inj h)
        exact planAll_refused hrest
      · cases h

/-- **Steps 1 to 4** plan the operations of approved assignments. -/
theorem plan_triple {P : ProvisioningDependencies} {tenant' : String} {command : ProvisioningCommand}
    (hp : isTagged "tp_" command.authority.tenantProvisioningId = true)
    (hle : ∀ le ∈ command.legalEntityIds, isLegalEntity le = true) :
    (coordination D).Triple w (untouched D w tenant key found) (plan D P tenant' command)
      (.ends (refusedOr D w tenant key found fun entities =>
          entities.length = command.legalEntityIds.length ∧ ∀ entity ∈ entities, Plans D entity)
        (asked D w tenant key found)) := by
  have hrefuse : ∀ {detail code : String}, (coordination D).Triple w
      (untouched D w tenant key found)
      (pure (.error (conflict detail code)) : Program (Except Response (List PlannedEntity)))
      (.ends (refusedOr D w tenant key found fun entities =>
          entities.length = command.legalEntityIds.length ∧ ∀ entity ∈ entities, Plans D entity)
        (asked D w tenant key found)) := .pure fun _ _ hA => ⟨rfl, hA⟩
  unfold plan
  refine .seq (resolveAll_triple _) fun x => ?_
  cases x with
  | error refusal => exact .pure fun _ _ hA => hA
  | ok assignments =>
    refine .given fun ⟨hlength, hassigned⟩ => ?_
    dsimp only
    split
    · exact hrefuse
    refine .seq (quiet_untouched rfl) fun now => ?_
    split
    · exact hrefuse
    refine .seq (exactBaselines_triple _) fun y => ?_
    cases y with
    | error refusal => exact .pure fun _ _ hA => hA
    | ok baselines =>
      refine .given fun _ => .seq (effectiveBaselines_triple _) fun z => ?_
      cases z with
      | error refusal => exact .pure fun _ _ hA => hA
      | ok u =>
        refine .given fun _ => .seq (B := fun result => (Protocol.Assertion.const
          (planAll D P tenant' now baselines assignments = .ok result)).and
            (untouched D w tenant key found))
          (orRaise_triple (fun result hr s hA => ⟨hr, hA⟩) fun _ _ _ hA => Untouched.asked hA)
          fun result => .given fun hresult => ?_
        cases result with
        | error refusal => exact .pure fun _ _ hA => ⟨planAll_refused hresult, hA⟩
        | ok entities =>
          dsimp only
          split_ifs
          · exact hrefuse
          refine .pure fun _ _ hA => ⟨⟨?_, fun entity he => ?_⟩, hA⟩
          · rw [(planAll_ok hresult).1, hlength]
            exact List.length_insertionSort ..
          · obtain ⟨a, ha, hplan⟩ := (planAll_ok hresult).2 entity he
            obtain ⟨le, hmem, happroved, hdiff⟩ := hassigned a ha
            obtain ⟨-, hprov, rfl⟩ := differences_nil hdiff
            have hin : a.legalEntityId ∈ command.legalEntityIds :=
              (List.perm_insertionSort ..).mem_iff.1 hmem
            refine planEntity_plans happroved ?_ (isLegalEntity_colon (hle _ hin)) hplan
            rw [hprov]
            exact isTagged_colon (by decide) hp

/-! ### The look-up of the key -/

/-- The key names the command, which was accepted with the fingerprint. -/
def naming (D : ProvisioningDeployment) (w : Worker) (tenant key op fingerprint : String) :
    (coordination D).Assertion w :=
  settled (fun s => (Fact.commandOf tenant key op fingerprint).holds s.rows s.engine)
    fun _ h hA => (Fact.commandOf tenant key op fingerprint).mono h.forward h.engine hA

/-- What a look-up of the key tells. -/
def keyed (D : ProvisioningDeployment) (w : Worker) (tenant key : String) (found : Option String) :
    Option String → (coordination D).Assertion w
  | none => (Protocol.Assertion.const (found = none)).and (untouched D w tenant key found)
  | some op => .ex fun fingerprint => (untouched D w tenant key found).and
      (naming D w tenant key op fingerprint)

/-- **`find`**: no command only where the key named none on arrival. -/
theorem find_triple : (coordination D).Triple w (untouched D w tenant key found)
    (CommandStore.find tenant key)
    (.ends (fun
      | none => (Protocol.Assertion.const (found = none)).and (untouched D w tenant key found)
      | some (op, row) => (untouched D w tenant key found).and
          (naming D w tenant key op row.requestFingerprint)) (asked D w tenant key found)) := by
  unfold CommandStore.find
  refine .seq (B := keyed D w tenant key found)
    (sql_triple (fun s _ hA => (Asked.abort (Untouched.asked hA)).asked)
      fun s d a ws hs hA hq => ?_) fun a => ?_
  · obtain ⟨rfl, rfl⟩ := Prod.mk.inj (Except.ok.inj hq)
    rw [World.write_nil, hA.clean.view]
    cases hkey : s.rows (.commandKey tenant key) with
    | none =>
      refine ⟨?_, hA⟩
      cases hf : found with
      | none => rfl
      | some op =>
        rw [hA.asked.keyed op hf] at hkey
        cases hkey
    | some op =>
      obtain ⟨c, hc, -⟩ := (hs.ledger.linked.key tenant key op).1 hkey
      exact ⟨c.requestFingerprint, hA, hkey, c, hc, rfl⟩
  · cases a with
    | none => exact .pure fun _ _ hA => hA
    | some op =>
      refine .ex fun fingerprint => ?_
      refine .seq (B := fun b : Option CommandRow => (Protocol.Assertion.const (∃ row, b = some row ∧
          row.requestFingerprint = fingerprint)).and ((untouched D w tenant key found).and
            (naming D w tenant key op fingerprint)))
        (sql_triple (fun s _ hA => (Asked.abort (Untouched.asked hA.1)).asked)
          fun s d b ws hs hA hq => ?_) fun b => .given fun hread => ?_
      · obtain ⟨rfl, rfl⟩ := Prod.mk.inj (Except.ok.inj hq)
        obtain ⟨-, c, hc, hfp⟩ := id hA.2
        rw [World.write_nil]
        exact ⟨⟨c, (congrFun hA.1.clean.view _).trans hc, hfp⟩, hA⟩
      · obtain ⟨row, rfl, rfl⟩ := hread
        exact .pure fun _ _ hA => hA

/-! ### The answer -/

/-- The answer says what was committed. -/
def answered (D : ProvisioningDeployment) (w : Worker) (tenant key : String)
    (fingerprint : Option String) (response : Response) : (coordination D).Assertion w :=
  settled (fun s => Answered s.rows
    ⟨tenant, key, fingerprint, response, s.arrived w, s.wrote w⟩) fun _ h hA => by
      rw [h.same.arrived, h.same.wrote]
      exact hA.forward h.forward

/-- The answer will say what is committed. -/
def answering (D : ProvisioningDeployment) (w : Worker) (tenant key : String)
    (found fingerprint : Option String) (response : Response) : (coordination D).Assertion w :=
  ((untouched D w tenant key found).and (answered D w tenant key fingerprint response)).or
    (.ex fun op => .ex fun c : CommandRow => (Protocol.Assertion.const ((response = accepted op c ∧
        fingerprint = some c.requestFingerprint) ∧ c.tenantId = tenant ∧ c.idempotencyKey = key)).and
      (accepting D w tenant key found op c))

/-- A refusal of a request that came to no look-up, or whose key named nothing. -/
theorem answered_refusal {fingerprint : Option String} {response : Response}
    (hs : Coordinated D s) (hA : Asked D w tenant key found s) (hr : response.operationId = none)
    (hf : fingerprint = none ∨ found = none ∨ response.status = 500) :
    (answered D w tenant key fingerprint response).holds s where
  accepted op document h := by
    dsimp only at h
    rw [h] at hr
    cases hr
  refused _ := hA.wrote
  replayed op hop := by
    obtain ⟨c, hc, -⟩ := (hs.ledger.linked.key tenant key op).1
      (hA.keyed op (hA.arrived.symm.trans hop))
    refine ⟨c, hc, fun f hfp => ?_⟩
    rcases hf with hf | hf | hf
    · rw [hf] at hfp
      cases hfp
    · rw [hA.arrived, hf] at hop
      cases hop
    · exact .inl hf

/-- The answer to a key that names a command. -/
theorem answered_found {op fingerprint : String} {row : CommandRow} {response : Response}
    (hA : Asked D w tenant key found s)
    (hn : (naming D w tenant key op row.requestFingerprint).holds s)
    (hr : (fingerprint = row.requestFingerprint ∧ response = accepted op row) ∨
      (fingerprint ≠ row.requestFingerprint ∧ response =
        conflict "this Idempotency-Key was used for a different request" idempotencyKeyReused)) :
    (answered D w tenant key (some fingerprint) response).holds s := by
  obtain ⟨hkey, c, hc, hfp⟩ := hn
  refine ⟨fun op' document h => ?_, fun h => hA.wrote, fun op' hop => ?_⟩
  · rcases hr with ⟨hsame, rfl⟩ | ⟨-, rfl⟩
    · obtain ⟨rfl, -⟩ := Response.state.inj h
      exact ⟨c, hkey, hc, by rw [hsame, hfp]⟩
    · cases h
  · have hop' := hA.keyed op' (hA.arrived.symm.trans hop)
    obtain rfl : op = op' := Option.some.inj (hkey.symm.trans hop')
    refine ⟨c, hc, fun f hf => .inr ?_⟩
    obtain rfl := Option.some.inj hf
    rcases hr with ⟨hsame, rfl⟩ | ⟨hne, rfl⟩
    · exact .inl ⟨hsame.trans hfp.symm, rfl⟩
    · exact .inr ⟨fun h => hne (h.trans hfp), rfl, rfl⟩

/-- **What is committed for the answer.** -/
theorem commit_answering {fingerprint : Option String} {response : Response} :
    (coordination D).Triple w (answering D w tenant key found fingerprint response) Call.commit
      (.ends (fun _ => answered D w tenant key fingerprint response)
        (asked D w tenant key found)) := by
  refine .or ?_ (.ex fun op => .ex fun c => .given fun ⟨⟨hresponse, hfp⟩, htenant, hkey⟩ =>
    .ex fun new => .given fun haccepts => ?_)
  · refine commit_triple (fun s hs hA => .of_clean hs hA.1.clean)
      (fun s _ hA => (Asked.abort hA.1.asked).asked) fun s _ _ hA => ?_
    obtain ⟨⟨⟨hwrote, harrived, hkeyed⟩, hclean, hdirty⟩, hanswered⟩ := hA
    have hsame : (s.commit w).wrote w = s.wrote w := by
      show Function.update s.wrote w (s.wrote w || s.dirty w) w = _
      rw [Function.update_self, hdirty, Bool.or_false]
    show Answered (s.commit w).rows ⟨tenant, key, fingerprint, response, s.arrived w,
      (s.commit w).wrote w⟩
    rw [hsame, World.rows_commit, hclean.view]
    exact hanswered
  · refine commit_triple (fun s hs hA => ?_) (fun s _ hA => (Asked.abort (Recording.asked hA)).asked)
      fun s _ _ hA => ?_
    · have ha := haccepts s.rows (Recording.fresh hA)
      refine ⟨?_, ?_, fun k pid hk hown => ?_, fun pid row row' op' le hr hr' hne _ => ?_⟩
      · rw [Recording.view hA]
        exact hs.ledger.accept ha
      · rw [Recording.view hA]
        refine .of_keep (fun k v hv => ha.keep hv) fun op' hop le => ?_
        refine Rows.over_none ?_
        cases hle : new (.commandEntity op' le) with
        | none => rfl
        | some p =>
          obtain ⟨rfl, -⟩ := ha.owner op' le p hle
          rw [ha.fresh _ _ ha.command] at hop
          cases hop
      · rw [Recording.own hA, ne_eq, Option.map_eq_none_iff, ← ne_eq, Option.ne_none_iff_exists'] at hown
        obtain ⟨v, hv⟩ := hown
        right
        cases k with
        | operation p =>
          obtain rfl := Option.some.inj hk
          exact ha.fresh _ _ hv
        | step p key' =>
          rw [ha.rest _ rfl rfl] at hv
          cases hv
        | nativeMapping p key' =>
          rw [ha.rest _ rfl rfl] at hv
          cases hv
        | _ => cases hk
      · rw [Recording.view hA] at hr'
        obtain rfl : row = row' := Option.some.inj ((ha.keep hr).symm.trans hr')
        exact absurd rfl hne
    · have ha := haccepts s.rows (Recording.fresh hA)
      have hop := (ha.key tenant key op).2 ⟨rfl, htenant, hkey⟩
      refine ⟨fun op' document h => ?_, fun h => ?_, fun op' hop' => ?_⟩
      · rw [World.rows_commit, Recording.view hA]
        dsimp only at h
        rw [hresponse] at h
        obtain ⟨rfl, -⟩ := Response.state.inj h
        exact ⟨c, Rows.over_some hop, Rows.over_some ha.command, hfp⟩
      · dsimp only at h
        rw [hresponse] at h
        cases h
      · -- a key that named a command cannot get another one
        have hold := (Recording.asked hA).keyed op' ((Recording.asked hA).arrived.symm.trans hop')
        rw [ha.fresh _ _ hop] at hold
        cases hold

/-! ### The handler -/

theorem acceptOnce_triple {command : ProvisioningCommand} {principal fingerprint : String}
    {entities : List PlannedEntity} (htenant : command.tenantId = tenant)
    (hplans : ∀ entity ∈ entities, Plans D entity)
    (hlength : entities.length = command.legalEntityIds.length) (hfound : found = none) :
    (coordination D).Triple w (untouched D w tenant key found)
      (acceptOnce D command key principal fingerprint entities)
      (.ends (fun response => answering D w tenant key found (some fingerprint) response)
        (asked D w tenant key found)) := by
  unfold acceptOnce
  refine .tryCatch (Q := .ends (fun response => answering D w tenant key found (some fingerprint)
    response) (asked D w tenant key found)) ?_ (fun _ _ _ hA => hA) fun x => ?_
  · refine .seq (accept_triple hplans hlength) fun x => .given fun ⟨ht, hk, hf⟩ =>
      .pure fun _ _ hA => .inr ⟨x.1, x.2, ⟨⟨rfl, by rw [hf]⟩, ht.trans htenant, hk⟩, hA⟩
  · split
    · refine Protocol.Triple.bind (Q := fun _ => untouched D w tenant key found)
        (rollback_triple fun s _ hA => Asked.abort hA) (fun _ => .pure fun s hs hA => .inl ⟨hA, ?_⟩)
        fun _ _ _ hA => Untouched.asked hA
      exact answered_refusal hs (Untouched.asked hA) rfl (.inr (.inl hfound))
    · exact .throw fun _ _ hA => hA

theorem lockTransaction_untouched {text : String} {seed : Int} :
    (coordination D).Triple w (untouched D w tenant key found) (Call.lockTransaction text seed)
      (.ends (fun _ => untouched D w tenant key found) (asked D w tenant key found)) := by
  refine .perform (fun _ _ _ => trivial) fun c s r t _ _ hA _ he => ?_
  rcases exec_lockTransaction (D := D) he with ⟨f, rfl, rfl⟩ | ⟨rfl, -, rfl⟩
  · exact (Asked.abort (Untouched.asked hA)).asked
  · obtain ⟨⟨hwrote, harrived, hkeyed⟩, hclean, hdirty⟩ := hA
    exact ⟨⟨hwrote, harrived, hkeyed⟩, hclean, hdirty⟩

/-- The turn of a request. -/
theorem receive_untouched :
    (coordination D).Triple w (untouched D w tenant key found) (Call.receive tenant key)
      (.ends (fun _ => .ex fun found => untouched D w tenant key found) (.const False)) := by
  refine .perform (fun _ _ _ => trivial) fun c s r t _ _ hA _ he => ?_
  obtain ⟨rfl, rfl⟩ := exec_receive (D := D) (w := w) (c := c) he
  obtain ⟨-, hclean, hdirty⟩ := hA
  exact ⟨s.rows (.commandKey tenant key), ⟨⟨Function.update_self .., Function.update_self ..,
    fun _ h => h⟩, hclean, hdirty⟩⟩

/-- **`request_provisioning`**, of a request with this key. -/
theorem requestProvisioning_triple {post : Post} (htenant : post.tenantId = tenant)
    (hkey : post.idempotencyKey.getD "" = key) :
    (coordination D).Triple w (untouched D w tenant key found) (requestProvisioning D post)
      (.ends (fun response => .ex fun found =>
          answering D w tenant key found (fingerprintOf D post) response)
        (.ex fun found => asked D w tenant key found)) := by
  have hfind : ∀ {α : Type} {found : Option String} {p : Program α}
      {A : (coordination D).Assertion w} {Q : Option String → α → (coordination D).Assertion w},
      (coordination D).Triple w A p (.ends (Q found) (asked D w tenant key found)) →
      (coordination D).Triple w A p (.ends (fun a => .ex fun found => Q found a)
        (.ex fun found => asked D w tenant key found)) := fun {_ found _ _ _} h =>
    h.post fun r s _ hr => by
      cases r with
      | ok a => exact ⟨found, hr⟩
      | error x => exact ⟨found, hr⟩
  unfold requestProvisioning fingerprintOf
  cases hadmit : admission D post with
  | error refusal =>
    refine .pure fun s hs hA => ⟨found, .inl ⟨hA, ?_⟩⟩
    exact answered_refusal hs (Untouched.asked hA) (admission_refused hadmit) (.inl rfl)
  | ok x =>
    obtain ⟨k, command, P⟩ := x
    obtain ⟨hk, hcommand, hp, hle⟩ := admission_ok hadmit
    rw [hk] at hkey
    obtain rfl : k = key := hkey
    subst htenant
    dsimp only
    unfold requestAdmitted CommandStore.lockScope
    refine Protocol.Triple.bind lockTransaction_untouched (fun _ => ?_) fun _ _ _ hA => ⟨found, hA⟩
    refine Protocol.Triple.bind receive_untouched (fun _ => .ex fun turn => ?_)
      fun _ _ _ hA => hA.elim
    refine hfind (Q := fun found response => answering D w post.tenantId k found _ response)
      (.seq find_triple fun a => ?_)
    cases a with
    | some x =>
      obtain ⟨op, row⟩ := x
      dsimp only
      split
      · rename_i hne
        refine .pure fun s _ hA => .inl ⟨hA.1, answered_found (Untouched.asked hA.1) hA.2 (.inr ⟨?_, rfl⟩)⟩
        exact fun h => hne h.symm
      · rename_i hsame
        refine .pure fun s _ hA => .inl ⟨hA.1, answered_found (Untouched.asked hA.1) hA.2 (.inl ⟨?_, rfl⟩)⟩
        exact (not_not.1 hsame).symm
    | none =>
      refine .given fun hfound => .seq (plan_triple hp hle) fun y => ?_
      cases y with
      | error refusal =>
        refine .given fun hrefusal => .pure fun s hs hA => .inl ⟨hA, ?_⟩
        exact answered_refusal hs (Untouched.asked hA) hrefusal (.inr (.inl hfound))
      | ok entities =>
        refine .given fun ⟨hlength, hplans⟩ => ?_
        exact acceptOnce_triple hcommand hplans hlength hfound

/-- Nothing is written, and nothing was since the last commit. -/
def idle (D : ProvisioningDeployment) (w : Worker) : (coordination D).Assertion w :=
  settled (fun s => s.Clean w ∧ s.dirty w = false) fun _ h hA =>
    ⟨by unfold World.Clean; rw [h.same.own]; exact hA.1, h.same.dirty.trans hA.2⟩

/-- **A request from its arrival to its answer.** -/
theorem serve_triple {post : Post} :
    (coordination D).Triple w (idle D w) (serve D post) fun _ => .const True := by
  set key := post.idempotencyKey.getD "" with hkey
  unfold serve
  refine Protocol.Triple.bind (Q := .ends (fun _ => .ex fun found =>
    untouched D w post.tenantId key found) (.const False)) (.perform (fun _ _ _ => trivial)
      fun c s r t _ _ hA _ he => ?_) (fun _ => .ex fun found => ?_) fun _ _ _ _ => trivial
  · obtain ⟨rfl, rfl⟩ := exec_receive (D := D) (w := w) (c := c) he
    exact ⟨s.rows (.commandKey post.tenantId key), ⟨⟨Function.update_self .., Function.update_self ..,
      fun _ h => h⟩, hA.1, hA.2⟩⟩
  refine Protocol.Triple.bind (Q := .ends (fun response =>
    answered D w post.tenantId key (fingerprintOf D post) response) (.const False)) ?_
    (fun response => ?_) fun _ _ _ _ => trivial
  · refine .tryCatch (Q := .ends (fun response =>
      answered D w post.tenantId key (fingerprintOf D post) response)
        (.ex fun found => asked D w post.tenantId key found)) ?_ (fun _ _ _ hA => hA) fun x =>
          .ex fun turn => ?_
    · refine .seq (requestProvisioning_triple rfl hkey.symm) fun response => .ex fun turn => ?_
      exact Protocol.Triple.bind commit_answering (fun _ => .pure fun _ _ hA => hA)
        fun _ _ _ hA => ⟨turn, hA⟩
    · refine Protocol.Triple.bind (Q := .ends (fun _ => untouched D w post.tenantId key turn)
        (.const False)) ?_ (fun _ => .pure fun s hs hA => ?_) fun _ _ _ hA => hA.elim
      · exact .tryCatch (Q := fun _ => untouched D w post.tenantId key turn)
          (rollback_triple fun s _ hA => Asked.abort hA) (fun _ _ _ hA => hA)
          fun _ => .pure fun _ _ hA => hA
      · exact answered_refusal hs (Untouched.asked hA) rfl (.inr (.inr rfl))
  · exact .perform (fun s _ hA => hA) fun _ _ _ _ _ _ _ _ _ => trivial

end

end Provisioning
end BaobabErp
