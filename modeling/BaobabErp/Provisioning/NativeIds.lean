/-
# Recording native ids and completed steps

The transactions a pass commits between its calls of the engine
(`putNativeId_triple`, `markStep_triple`), and the search and creation of the
record of a step (`createOnce_triple`): whichever way it goes, the operation has
the id of its marked record afterwards.
-/

import BaobabErp.Provisioning.Blueprints
import BaobabErp.Provisioning.Sessions

namespace BaobabErp
namespace Provisioning

open Python Concurrency

/-- The rows are those of the blueprint's operation. -/
def IsOf (D : ProvisioningDeployment) (pid : String) (b : Blueprint) (mine : Rows) : Prop :=
  ∃ row : OperationRow, mine (.operation pid) = some row ∧ Planned D pid row b

/-- **What a pass adds to the operation's rows.** -/
structure Grown (pid : String) (mine mine' : Rows) : Prop where
  operation : mine' (.operation pid) = mine (.operation pid)
  step : ∀ key, (mine (.step pid key)).isSome = true → (mine' (.step pid key)).isSome = true
  native : ∀ key, ∀ id : Int, mine (.nativeMapping pid key) = some id →
    mine' (.nativeMapping pid key) = some id

section

variable {D : ProvisioningDeployment} {w : Worker} {pid : String} {b b' : Blueprint}
  {mine mine' : Rows} {ws : List (Write Row)} {M : Fact} {s : World}
  {A B : (coordination D).Assertion w}

theorem Grown.refl : Grown pid mine mine := ⟨rfl, fun _ h => h, fun _ _ h => h⟩

theorem Grown.trans {rows : Rows} (h : Grown pid mine mine') (h' : Grown pid mine' rows) :
    Grown pid mine rows :=
  ⟨h'.operation.trans h.operation, fun key hs => h'.step key (h.step key hs),
    fun key id hid => h'.native key id (h.native key id hid)⟩

theorem Grown.isOf (h : Grown pid mine mine') (hb : IsOf D pid b mine) : IsOf D pid b mine' := by
  obtain ⟨row, hrow, hp⟩ := hb
  exact ⟨row, h.operation.trans hrow, hp⟩

theorem Grown.withNative {key : String} {id : Int} (h : mine (.nativeMapping pid key) = none ∨
    mine (.nativeMapping pid key) = some id) :
    Grown pid mine (Function.update mine (.nativeMapping pid key) (some id)) := by
  refine ⟨Function.update_of_ne (by simp) _ _, fun k hs => ?_, fun k i hi => ?_⟩
  · rwa [Function.update_of_ne (by simp)]
  · by_cases hk : Key.nativeMapping pid k = .nativeMapping pid key
    · cases hk
      rw [Function.update_self]
      rcases h with h | h
      · rw [h] at hi
        cases hi
      · exact h.symm.trans hi
    · rwa [Function.update_of_ne hk]

theorem Grown.withStep {key : String} {row : StepRow} :
    Grown pid mine (Function.update mine (.step pid key) (some row)) := by
  refine ⟨Function.update_of_ne (by simp) _ _, fun k hs => ?_, fun k i hi => ?_⟩
  · by_cases hk : Key.step pid k = .step pid key
    · rw [hk, Function.update_self]
      rfl
    · rwa [Function.update_of_ne hk]
  · rwa [Function.update_of_ne (by simp)]

/-! ### Blueprints of one row -/

theorem Bound.agree {row : OperationRow} {engine : List NativeRecord} {step : ProvisioningStep}
    {id : Int} (hb : Planned D pid row b) (hb' : Planned D pid row b')
    (h : Bound D engine b step id) : Bound D engine b' step id := by
  obtain ⟨-, -, -, -, hengine⟩ := hb.agree hb'
  unfold Bound at h ⊢
  rwa [hengine]

theorem Done.agree {row : OperationRow} {rows : Rows} {step : ProvisioningStep} {srow : StepRow}
    (hb : Planned D pid row b) (hb' : Planned D pid row b') (h : Done pid b rows step srow) :
    Done pid b' rows step srow := by
  obtain ⟨-, -, htenant, hentity, hengine⟩ := hb.agree hb'
  unfold Done at h ⊢
  rwa [htenant, hentity, hengine]

/-! ### Reading the operation's rows -/

/-- A row of the operation is what the session knows it to be. -/
theorem select_mine {k : Key} (hk : k.owner = some pid) :
    (coordination D).Triple w (working D w pid mine [] M) (Call.sql (.select k))
      (.ends (fun a => (Protocol.Assertion.const (a = mine k)).and (working D w pid mine [] M))
        (stopped D w pid)) := by
  refine Working.sql (fun _ h => h) fun s now a ws hs hA hq => ?_
  obtain ⟨rfl, rfl⟩ := Prod.mk.inj (Except.ok.inj hq)
  rw [World.write_nil]
  exact ⟨hA.view_mine hk, hA⟩

theorem quiet_working {e : Eff} (he : e.isQuiet = true) :
    (coordination D).Triple w (working D w pid mine [] M) (Prog.perform e)
      (.ends (fun _ => working D w pid mine [] M) (stopped D w pid)) :=
  (quiet_triple he).post fun r _ _ h => by
    cases r with
    | ok a => exact h
    | error x => exact Working.stopped h

/-! ### What is committed between the calls of the engine -/

/-- **`put_native_id`**: of a step the id of its marked record, or 1; as the primary
client that of the client's step. -/
theorem putNativeId_triple {key : String} {id : Int} (hb : IsOf D pid b mine)
    (hfit : mine (.nativeMapping pid key) = none ∨ mine (.nativeMapping pid key) = some id)
    (hbound : ∀ rows engine, M.holds rows engine → ∀ step ∈ b.plan.steps,
      IdempiereAdapter.resourceKey step = key → Bound D engine b step id)
    (hprimary : key = IdempiereAdapter.clientAliasKey → ∀ step ∈ b.plan.steps,
      step.kind = .createClient →
        mine (.nativeMapping pid (IdempiereAdapter.resourceKey step)) = some id) :
    (coordination D).Triple w (working D w pid mine [] M) (NativeMappings.putNativeId pid key id)
      (.ends (fun _ => working D w pid
        (Function.update mine (.nativeMapping pid key) (some id)) [] M) (stopped D w pid)) := by
  obtain ⟨row, hrow, hplanned⟩ := hb
  have hop : Database.overlay mine [⟨.nativeMapping pid key, some id⟩] (.operation pid) = some row := by
    rw [Database.overlay_of_not_mem (by simp), hrow]
  unfold NativeMappings.putNativeId
  refine .seq (B := fun _ => working D w pid mine [⟨.nativeMapping pid key, some id⟩] M)
    (Working.sql (fun _ h => h) fun s now a ws hs hA hq => ?_) fun _ => ?_
  · obtain ⟨-, rfl⟩ := Query.upsert_ok (fun _ => rfl) (fun _ => rfl) hq
    exact hA.write
  refine commit_triple (fun s hs hA => ?_) (fun s _ hA => (Working.abort hA).stopped)
    fun s _ hg hA => Working.commit hA hg ?_
  · have hrow' : s.rows (.operation pid) = some row := (hA.mine _ rfl).trans hrow
    have hsame : mine (.nativeMapping pid key) = some id →
        Database.overlay s.rows [⟨.nativeMapping pid key, some id⟩] = s.rows := fun hsome =>
      update_same ((hA.mine _ rfl).trans hsome)
    refine Working.commits hA (fun k hk p hp => ?_) ?_ ?_ (.inl fun r r' hr hr' => ?_)
    · obtain rfl := List.mem_singleton.1 hk
      exact (Option.some.inj hp).symm
    · rcases hfit with hnone | hsome
      · refine hs.ledger.withNative (by rw [hrow']; rfl) ((hA.mine _ rfl).trans hnone)
          (fun r b' hr hb' step hstep hkey => ?_) fun hkey r b' hr hb' step hstep hk => ?_
        · obtain rfl : row = r := Option.some.inj (hrow'.symm.trans hr)
          rw [(hplanned.agree hb').2.1] at hstep
          exact (hbound s.rows s.engine hA.known step hstep hkey).agree hplanned hb'
        · obtain rfl : row = r := Option.some.inj (hrow'.symm.trans hr)
          rw [(hplanned.agree hb').2.1] at hstep
          exact (hA.mine _ rfl).trans (hprimary hkey step hstep hk)
      · rw [hsame hsome]
        exact hs.ledger
    · rcases hfit with hnone | hsome
      · exact .of_none ((hA.mine _ rfl).trans hnone) fun _ _ h => by cases h
      · rw [hsame hsome]
        exact .refl _
    · rw [hop] at hr'
      rw [hrow] at hr
      rw [← Option.some.inj hr', ← Option.some.inj hr]
  · rw [hop]
    rfl

/-- **`mark_step`**, with what the step has left open. -/
theorem markStep_triple (ws : List (Write Row)) (B : (coordination D).Assertion w) {key : String}
    {result : Json} (hb : IsOf D pid b mine)
    (hB : ∀ (s : World) ws', B.holds s → B.holds (s.write w ws'))
    (hkeys : ∀ k ∈ ws.map Sigma.fst, k.owner = none)
    (hopen : ∀ (s : World) ws', Coordinated D s → Working D w pid mine ws' M s → B.holds s →
      Ledger D (Database.overlay s.rows ws) s.engine ∧
        Forward s.rows (Database.overlay s.rows ws) ∧
        ∀ step ∈ b.plan.steps, step.key = key →
          Done pid b (Database.overlay s.rows ws) step ⟨"completed", result⟩) :
    (coordination D).Triple w ((working D w pid mine ws M).and B)
      (ProvisioningStore.markStep pid key "completed" result)
      (.ends (fun _ => working D w pid (Function.update mine (.step pid key)
        (some (⟨"completed", result⟩ : StepRow))) [] M) (stopped D w pid)) := by
  obtain ⟨row, hrow, hplanned⟩ := hb
  have happend : ∀ rows : Rows, Database.overlay rows
      (ws ++ [⟨.step pid key, some (⟨"completed", result⟩ : StepRow)⟩]) =
      Function.update (Database.overlay rows ws) (.step pid key)
        (some (⟨"completed", result⟩ : StepRow)) := fun rows => by
    unfold Database.overlay
    rw [List.foldl_append]
    rfl
  have hothers : ∀ (rows : Rows) k, k.owner = some pid → Database.overlay rows ws k = rows k :=
    fun rows k hk => Database.overlay_of_not_mem fun hmem => by
      rw [hkeys k hmem] at hk
      cases hk
  have hmine : ∀ k, k.owner = some pid → Database.overlay mine
      (ws ++ [⟨.step pid key, some (⟨"completed", result⟩ : StepRow)⟩]) k =
      Function.update mine (.step pid key) (some (⟨"completed", result⟩ : StepRow)) k :=
    fun k hk => by
      rw [happend]
      by_cases h : k = .step pid key
      · subst h
        rw [Function.update_self, Function.update_self]
      · rw [Function.update_of_ne h, Function.update_of_ne h, hothers mine k hk]
  have hop : Database.overlay mine (ws ++ [⟨.step pid key,
      some (⟨"completed", result⟩ : StepRow)⟩]) (.operation pid) = some row := by
    rw [hmine _ rfl, Function.update_of_ne (by simp), hrow]
  unfold ProvisioningStore.markStep
  refine .seq (B := fun _ => (working D w pid mine (ws ++ [⟨.step pid key,
      some (⟨"completed", result⟩ : StepRow)⟩]) M).and B)
    (sql_triple (fun s _ hA => (Working.abort hA.1).stopped) fun s now a ws' hs hA hq => ?_)
    fun _ => ?_
  · obtain ⟨-, rfl⟩ := Query.upsert_ok (fun _ => rfl) (fun _ => rfl) hq
    exact ⟨hA.1.write, hB _ _ hA.2⟩
  refine commit_triple (fun s hs hA => ?_) (fun s _ hA => (Working.abort hA.1).stopped)
    fun s _ hg hA => (Working.commit hA.1 hg (by rw [hop]; rfl)).congr fun k hk => (hmine k hk).symm
  obtain ⟨hA, hBs⟩ := hA
  obtain ⟨hledger, hforward, hdone⟩ := hopen s _ hs hA hBs
  have hrow' : Database.overlay s.rows ws (.operation pid) = some row := by
    rw [hothers _ _ rfl, hA.mine _ rfl, hrow]
  refine Working.commits hA (fun k hk p hp => ?_) ?_ ?_ (.inl fun r r' hr hr' => ?_)
  · rw [List.map_append, List.mem_append] at hk
    rcases hk with hk | hk
    · rw [hkeys k hk] at hp
      cases hp
    · obtain rfl := List.mem_singleton.1 hk
      exact (Option.some.inj hp).symm
  · rw [happend]
    refine hledger.withStep (by rw [hrow']; rfl) fun r b' hr hb' step hstep hkey => ?_
    obtain rfl : row = r := Option.some.inj (hrow'.symm.trans hr)
    rw [(hplanned.agree hb').2.1] at hstep
    exact ⟨rfl, (hdone step hstep hkey).agree hplanned hb'⟩
  · rw [happend]
    exact hforward.trans .withStep
  · rw [hop] at hr'
    rw [hrow] at hr
    rw [← Option.some.inj hr', ← Option.some.inj hr]

/-! ### The record of a step -/

/-- No record of the table has the marker, unless something else wrote it. -/
def unmarked (D : ProvisioningDeployment) (w : Worker) (pid baseUrl table m : String)
    (hp : ':' ∉ pid.toList) (hm : MarkerOf pid m) : (coordination D).Assertion w :=
  settled (fun s => s.db.Locked w (lockOf D pid) ∧ (Unmarked D →
      ∀ x ∈ s.engine, x.baseUrl = baseUrl → x.table = table → x.description ≠ some m))
    fun _ h ⟨hl, hnone⟩ => ⟨h.same.kept.locked.1 hl, fun hu x hx hb ht hd =>
      hnone hu x (h.unmarked hu pid hp hl m hm x hx hd) hb ht hd⟩

theorem descriptionOf_insertMember (fields : List (String × Json)) (m : String) :
    descriptionOf (Json.insertMember fields "Description" (.str m)) = some m := by
  unfold descriptionOf Json.get
  rw [Json.lookup_insertMember]
  rfl

/-- The ids a search answers with are those of records with the value. -/
theorem mem_of_query {engine : List NativeRecord} {baseUrl table m : String} {id : Int}
    (h : id ∈ (engine.filter fun x =>
      x.baseUrl == baseUrl && x.table == table && x.description == some m).map NativeRecord.id) :
    (⟨baseUrl, table, id, some m⟩ : NativeRecord) ∈ engine := by
  obtain ⟨x, hx, rfl⟩ := List.mem_map.1 h
  rw [List.mem_filter, Bool.and_eq_true, Bool.and_eq_true, beq_iff_eq, beq_iff_eq, beq_iff_eq] at hx
  obtain ⟨hx, ⟨rfl, rfl⟩, hd⟩ := hx
  rw [← hd]
  exact hx

/-- **The search for the marker**: it finds none, or a record that has it. -/
theorem findMarked_triple {baseUrl table m : String} {σ : Session} (hp : ':' ∉ pid.toList)
    (hm : MarkerOf pid m) (hσ : σ.baseUrl = baseUrl) :
    (coordination D).Triple w (working D w pid mine [] .top) (IdempiereAdapter.findMarked σ table m)
      (.ends (fun
        | none => (working D w pid mine [] .top).and (unmarked D w pid baseUrl table m hp hm)
        | some id => working D w pid mine [] (.record ⟨baseUrl, table, id, some m⟩))
        (stopped D w pid)) := by
  subst hσ
  unfold IdempiereAdapter.findMarked
  refine .seq (B := fun ids : List Int => match ids with
    | [] => (working D w pid mine [] .top).and (unmarked D w pid σ.baseUrl table m hp hm)
    | id :: _ => working D w pid mine [] (.record ⟨σ.baseUrl, table, id, some m⟩)) ?_ fun ids => ?_
  · refine .perform (fun _ _ _ => trivial) fun c s r t _ _ hA _ he => ?_
    obtain ⟨rfl, ⟨f, rfl⟩ | rfl⟩ := exec_query (D := D) (w := w) he
    · exact Working.stopped hA
    · simp only [Protocol.Assertion.ends]
      split
      · rename_i hnil
        rw [List.map_eq_nil_iff, List.filter_eq_nil_iff] at hnil
        refine ⟨hA, Working.locked hA, fun _ x hx hb ht hd => ?_⟩
        have := hnil x hx
        rw [hb, ht, hd] at this
        simp at this
      · rename_i id rest hids
        exact Working.of_known hA (mem_of_query (by rw [hids]; exact List.mem_cons_self))
  · cases ids with
    | nil => exact .pure fun _ _ h => h
    | cons id rest =>
      cases rest with
      | nil => exact .pure fun _ _ h => h
      | cons _ _ => exact .throw fun _ _ h => Working.stopped h

/-- **A record is created**, with a marker that no record of its table has. -/
theorem createRecord_triple {table m : String} {σ : Session} {fields : List (String × Json)}
    (hp : ':' ∉ pid.toList) (hm : MarkerOf pid m) (hfields : descriptionOf fields = some m) :
    (coordination D).Triple w
      ((working D w pid mine [] .top).and (unmarked D w pid σ.baseUrl table m hp hm))
      (Call.createRecord σ table fields)
      (.ends (fun id => working D w pid mine [] (.record ⟨σ.baseUrl, table, id, some m⟩))
        (stopped D w pid)) := by
  refine .perform (fun s _ ⟨_, hl, hnone⟩ m' hm' _ => ?_) fun c s r t _ _ hA _ he => ?_
  · obtain rfl : m = m' := Option.some.inj (hfields.symm.trans hm')
    exact ⟨⟨pid, hp, hm, hl⟩, hnone⟩
  · obtain ⟨hA, -⟩ := hA
    rcases exec_createRecord (D := D) (w := w) he with ⟨f, rfl, rfl⟩ | ⟨id, -, rfl, rfl | ⟨f, rfl⟩⟩
    · exact Working.stopped hA
    · refine ⟨hA.locked, hA.found, hA.mine, hA.wrote, ?_⟩
      rw [hfields]
      exact List.mem_cons_self
    · exact Working.stopped (M := .top) ⟨hA.locked, hA.found, hA.mine, hA.wrote, trivial⟩

theorem textParam_bind {β : Type} {t : String} {f : String → Program β} :
    (textParam (.str t) >>= f) = f t := rfl

theorem payloadItem_triple {step : ProvisioningStep} {name : String}
    (h : ∀ s : World, A.holds s → B.holds s) :
    (coordination D).Triple w A (payloadItem step name) (.ends (fun _ => A) B) := by
  unfold payloadItem
  split
  · exact .pure fun _ _ hA => hA
  · exact .throw fun s _ hA => h s hA

/-- **`_create_once`**: the operation has the id of the step's one marked record. -/
theorem createOnce_triple {σ : Session} {step planned : ProvisioningStep} {table : String}
    {fields : List (String × Json)} (hb : IsOf D pid b mine)
    (hσ : D.credentials b.assignment.engineInstanceId = some σ) (hs : planned ∈ b.plan.steps)
    (hkey : step.key = planned.key) (hkind : step.kind = planned.kind)
    (ht : IdempiereAdapter.table planned.kind = some table) :
    (coordination D).Triple w (working D w pid mine [] .top)
      (IdempiereAdapter.createOnce σ b.request step table fields)
      (.ends (fun x => .ex fun mine' => (Protocol.Assertion.const (Grown pid mine mine' ∧
          mine' (.nativeMapping pid (IdempiereAdapter.resourceKey planned)) = some x.1 ∧
          ∃ reused adopted, x.2 = IdempiereAdapter.createResult table x.1 reused adopted)).and
        (working D w pid mine' [] .top)) (stopped D w pid)) := by
  obtain ⟨row, hrow, hplanned⟩ := id hb
  have hresource : IdempiereAdapter.resourceKey step = IdempiereAdapter.resourceKey planned := by
    unfold IdempiereAdapter.resourceKey
    rw [hkey, hkind]
  have hmarker := hplanned.markerOf hs
  -- the id of a record with the step's marker is recorded
  have hput : ∀ {id : Int} {reused adopted : Bool},
      mine (.nativeMapping pid (IdempiereAdapter.resourceKey planned)) = none →
      (coordination D).Triple w
        (working D w pid mine [] (.record ⟨σ.baseUrl, table, id,
          some (IdempiereAdapter.markerPrefix ++ planned.key)⟩))
        (do
          NativeMappings.putNativeId pid (IdempiereAdapter.resourceKey planned) id
          pure (id, IdempiereAdapter.createResult table id reused adopted))
        (.ends (fun x => .ex fun mine' => (Protocol.Assertion.const (Grown pid mine mine' ∧
            mine' (.nativeMapping pid (IdempiereAdapter.resourceKey planned)) = some x.1 ∧
            ∃ reused adopted, x.2 = IdempiereAdapter.createResult table x.1 reused adopted)).and
          (working D w pid mine' [] .top)) (stopped D w pid)) := by
    intro id reused adopted hnone
    refine .seq (putNativeId_triple hb (.inl hnone) (fun rows engine hrec step' hstep' hkey' => ?_)
      fun halias => absurd halias (resourceKey_ne_alias planned)) fun _ => .pure fun s _ hA => ?_
    · obtain ⟨hkind', hkey'⟩ := resourceKey_inj hkey'
      unfold Bound
      rw [hkind', ht]
      refine ⟨σ, hσ, ?_⟩
      unfold IsMarked
      rw [hkey']
      exact hrec
    · exact ⟨_, ⟨.withNative (.inl hnone), Function.update_self .., _, _, rfl⟩, hA.of_known trivial⟩
  unfold IdempiereAdapter.createOnce
  rw [hplanned.provisioningId, textParam_bind]
  refine .seq (select_mine rfl) fun a => .given fun ha => ?_
  rw [hresource] at ha
  cases a with
  | some existing =>
    refine .seq (quiet_working rfl) fun _ => .pure fun s _ hA => ?_
    exact ⟨mine, ⟨.refl, ha.symm, _, _, rfl⟩, hA⟩
  | none =>
    rw [hresource]
    refine .seq (B := fun m => (Protocol.Assertion.const
      (m = IdempiereAdapter.markerPrefix ++ planned.key)).and (working D w pid mine [] .top))
      (orRaise_triple (fun m hm s hA => ⟨?_, hA⟩) fun _ _ _ hA => Working.stopped hA) fun m => ?_
    · unfold IdempiereAdapter.marker at hm
      dsimp only at hm
      split_ifs at hm
      rw [← hkey]
      exact (Except.ok.inj hm).symm
    refine .given fun hm => ?_
    subst hm
    refine .seq (findMarked_triple hplanned.colon hmarker rfl) fun found => ?_
    cases found with
    | some adopted => exact hput ha.symm
    | none =>
      refine .seq (createRecord_triple hplanned.colon hmarker
        (descriptionOf_insertMember fields _)) fun id => ?_
      exact hput ha.symm

end

end Provisioning
end BaobabErp
