/-
# How provisioning sessions coordinate

`coordination D` is the protocol of all sessions over the provisioning tables: a
transaction that commits leaves the ledger as it should be and takes nothing
back, writes the rows of an operation under its lock only, and moves a status
with the command's row locked; a record with a provisioning marker is created
under the lock of its operation, and only when there is none.  `Settled` sums up
what a session can rely on of the others, and the assertions below are made of
it.
-/

import BaobabErp.Customers.Payload
import BaobabErp.Provisioning.LedgerSteps
import BaobabErp.Provisioning.Machine

namespace BaobabErp
namespace Provisioning

open Python Concurrency

/-- The session lock of an operation. -/
def lockOf (D : ProvisioningDeployment) (pid : String) : Int := D.lockHash pid Execution.lockSeed

/-! ### Markers -/

/-- A description that provisioning writes. -/
def IsMarker (m : String) : Prop := IdempiereAdapter.markerPrefix.toList <+: m.toList

/-- A marker of a step of the operation. -/
def MarkerOf (pid m : String) : Prop :=
  (IdempiereAdapter.markerPrefix ++ pid ++ ":").toList <+: m.toList

theorem MarkerOf.isMarker {pid m : String} (h : MarkerOf pid m) : IsMarker m := by
  unfold MarkerOf at h
  rw [String.toList_append, String.toList_append, List.append_assoc] at h
  exact (List.prefix_append _ _).trans h

/-- A marker names its operation. -/
theorem MarkerOf.unique {pid pid' m : String} (hp : ':' ∉ pid.toList) (hp' : ':' ∉ pid'.toList)
    (h : MarkerOf pid m) (h' : MarkerOf pid' m) : pid = pid' := by
  unfold MarkerOf at h h'
  obtain ⟨rest, hr⟩ := h
  obtain ⟨rest', hr'⟩ := h'
  rw [← hr'] at hr
  simp only [String.toList_append, List.append_assoc] at hr
  have hcons : ":".toList = [':'] := rfl
  have := List.append_cancel_left hr
  rw [hcons, List.singleton_append, List.singleton_append] at this
  exact String.toList_inj.1 (CustomerProjection.append_colon_inj hp hp' this).1

/-- Nothing else writes a description that provisioning writes. -/
def Unmarked (D : ProvisioningDeployment) : Prop :=
  ∀ r, D.foreign r = true → ∀ m, r.description = some m → ¬ IsMarker m

/-! ### The protocol -/

/-- What an answer says of the command of its key. -/
structure Answered (rows : Rows) (x : Exchange) : Prop where
  accepted : ∀ op document, x.response = .state op document → ∃ c : CommandRow,
    rows (.commandKey x.tenant x.key) = some op ∧ rows (.command op) = some c ∧
      x.fingerprint = some c.requestFingerprint
  refused : x.response.operationId = none → x.wrote = false
  /-- The key named a command when the request arrived. -/
  replayed : ∀ op, x.arrived = some op → ∃ c : CommandRow, rows (.command op) = some c ∧
    ∀ f, x.fingerprint = some f → x.response.status = 500 ∨
      (f = c.requestFingerprint ∧ x.response.operationId = some op) ∨
      (f ≠ c.requestFingerprint ∧ x.response.status = 409 ∧
        x.response.code = some AcceptOperation.idempotencyKeyReused)

theorem Answered.forward {rows rows' : Rows} {x : Exchange} (h : Answered rows x)
    (hf : Forward rows rows') : Answered rows' x := by
  obtain ⟨haccepted, hrefused, hreplayed⟩ := h
  refine ⟨fun op document hr => ?_, hrefused, fun op hop => ?_⟩
  · obtain ⟨c, hkey, hc, hfp⟩ := haccepted op document hr
    obtain ⟨d, hd, -, -, hfp', -⟩ := hf.command op c hc
    exact ⟨d, hf.permanent _ rfl _ hkey, hd, by rw [hfp, hfp']⟩
  · obtain ⟨c, hc, hcase⟩ := hreplayed op hop
    obtain ⟨d, hd, -, -, hfp', -⟩ := hf.command op c hc
    exact ⟨d, hd, by rwa [hfp']⟩

/-- What a transaction that commits must have seen to. -/
structure Commits (D : ProvisioningDeployment) (w : Worker) (s : World) : Prop where
  ledger : Ledger D (s.view w) s.engine
  forward : Forward s.rows (s.view w)
  owned : ∀ k pid, k.owner = some pid → s.own w k ≠ none →
    s.db.Locked w (lockOf D pid) ∨ s.rows (.operation pid) = none
  projected : ∀ pid, ∀ row row' : OperationRow, ∀ op le, s.rows (.operation pid) = some row →
    s.view w (.operation pid) = some row' → row.status ≠ row'.status →
      s.rows (.entityOwner pid) = some (op, le) → s.own w (.command op) ≠ none

/-- When a record may be created. -/
def Creates (D : ProvisioningDeployment) (w : Worker) (s : World) (baseUrl table : String)
    (description : Option String) : Prop :=
  ∀ m, description = some m → IsMarker m →
    (∃ pid, ':' ∉ pid.toList ∧ MarkerOf pid m ∧ s.db.Locked w (lockOf D pid)) ∧
      (Unmarked D → ∀ x ∈ s.engine, x.baseUrl = baseUrl → x.table = table →
        x.description ≠ some m)

/-- **The clients of different installations have different ids**, as far as
provisioning made them. -/
def ClientsApart (engine : List NativeRecord) : Prop :=
  ∀ x ∈ engine, ∀ y ∈ engine, x.table = "AD_Client" → y.table = "AD_Client" →
    ∀ m n, x.description = some m → y.description = some n → IsMarker m → IsMarker n →
      x.id = y.id → x.baseUrl = y.baseUrl

/-- The client and organisation of a new mapping are not those of another tenant's or
legal entity's. -/
def MapsFreely (w : Worker) : Query → World → Prop
  | .insert (.tenantMapping tenant legalEntity) row, s => ∀ d tenant' legalEntity',
    s.view w (.tenantNative (row d).adClientId (row d).adOrgId) = some (tenant', legalEntity') →
      tenant' = tenant ∧ legalEntity' = legalEntity
  | _, _ => True

/-- Whether the statement is the `INSERT` of a tenant mapping. -/
def Query.mapsTenant : Query → Bool
  | .insert (.tenantMapping _ _) _ => true
  | _ => false

theorem mapsFreely_of {w : Worker} {q : Query} {s : World} (h : q.mapsTenant = false) :
    MapsFreely w q s := by
  unfold Query.mapsTenant at h
  split at h
  · cases h
  · rename_i hne
    unfold MapsFreely
    split
    · exact absurd rfl (hne _ _ _)
    · trivial

/-- What every call must satisfy. -/
def Guard (D : ProvisioningDeployment) (w : Worker) : Eff → World → Prop
  | .commit, s => Commits D w s
  | .sql q, s => Unmarked D → ClientsApart s.engine → MapsFreely w q s
  | .createRecord σ table fields, s => Creates D w s σ.baseUrl table (descriptionOf fields)
  | .answer tenant key fingerprint response, s =>
    Answered s.rows ⟨tenant, key, fingerprint, response, s.arrived w, s.wrote w⟩
  | _, _ => True

/-- **The invariant of all interleavings.** -/
structure Coordinated (D : ProvisioningDeployment) (s : World) : Prop where
  ledger : Ledger D s.rows s.engine
  indexed : s.db.Indexed
  distinct : ∀ x ∈ s.engine, ∀ y ∈ s.engine, x.sameIdentity y = true → x = y
  marked : Unmarked D → ∀ x ∈ s.engine, ∀ y ∈ s.engine, x.baseUrl = y.baseUrl → x.table = y.table →
    ∀ m, IsMarker m → x.description = some m → y.description = some m → x = y
  answered : ∀ x ∈ s.exchanges, Answered s.rows x

section

variable {D : ProvisioningDeployment} {v w : Worker} {e : Eff} {s t : World}

theorem NativeRecord.sameIdentity_self (r : NativeRecord) : r.sameIdentity r = true := by
  simp [NativeRecord.sameIdentity]

theorem NativeRecord.sameIdentity_comm (a b : NativeRecord) :
    a.sameIdentity b = b.sameIdentity a := by
  unfold NativeRecord.sameIdentity
  rw [Bool.beq_comm (a := a.baseUrl), Bool.beq_comm (a := a.table), Bool.beq_comm (a := a.id)]

/-- A new record, whose marker, if it has one, is new in its table. -/
theorem Coordinated.create {r : NativeRecord} (h : Coordinated D s) (hnew : IsNew D s r)
    (hmarker : Unmarked D → ∀ m, r.description = some m → IsMarker m →
      ∀ x ∈ s.engine, x.baseUrl = r.baseUrl → x.table = r.table → x.description ≠ some m) :
    Coordinated D (s.create r) := by
  obtain ⟨hledger, hindexed, hdistinct, hmarked, hanswered⟩ := h
  refine ⟨hledger.grow fun x hx => List.mem_cons_of_mem _ hx, hindexed, ?_, ?_, hanswered⟩
  · intro x hx y hy hxy
    rcases List.mem_cons.1 hx with hxr | hxs
    · rcases List.mem_cons.1 hy with hyr | hys
      · rw [hxr, hyr]
      · rw [hxr, NativeRecord.sameIdentity_comm, hnew.2 y hys] at hxy
        cases hxy
    · rcases List.mem_cons.1 hy with hyr | hys
      · rw [hyr, hnew.2 x hxs] at hxy
        cases hxy
      · exact hdistinct x hxs y hys hxy
  · intro hu x hx y hy hbase htable m hm hxm hym
    rcases List.mem_cons.1 hx with hxr | hxs
    · rcases List.mem_cons.1 hy with hyr | hys
      · rw [hxr, hyr]
      · rw [hxr] at hbase htable hxm
        exact absurd hym (hmarker hu m hxm hm y hys hbase.symm htable.symm)
    · rcases List.mem_cons.1 hy with hyr | hys
      · rw [hyr] at hbase htable hym
        exact absurd hxm (hmarker hu m hym hm x hxs hbase htable)
      · exact hmarked hu x hxs y hys hbase htable m hm hxm hym

theorem Coordinated.of_same (h : Coordinated D s) (hindexed : t.db.Indexed) (hrows : t.rows = s.rows)
    (hengine : t.engine = s.engine) (hexchanges : t.exchanges = s.exchanges) : Coordinated D t where
  ledger := by
    rw [hrows, hengine]
    exact h.ledger
  indexed := hindexed
  distinct := hengine ▸ h.distinct
  marked := hengine ▸ h.marked
  answered := by
    rw [hrows, hexchanges]
    exact h.answered

/-- **A guarded call keeps the invariant.** -/
theorem Coordinated.move (h : Coordinated D s) (hg : Guard D w e s) (hm : Move D w s e t) :
    Coordinated D t := by
  have hindexed := hm.db.indexed h.indexed
  cases hm with
  | create hnew => exact h.create hnew fun hu m hd hm => (hg m hd hm).2 hu
  | commit =>
    exact ⟨hg.ledger, hindexed, h.distinct, h.marked,
      fun x hx => (h.answered x hx).forward hg.forward⟩
  | answer =>
    refine ⟨h.ledger, hindexed, h.distinct, h.marked, fun x hx => ?_⟩
    rcases List.mem_cons.1 hx with rfl | hx
    · exact hg
    · exact h.answered x hx
  | write hf => exact h.of_same hindexed Database.committed_apply rfl rfl
  | release => exact h.of_same hindexed (congrArg Store.committed Database.store_release) rfl rfl
  | _ => exact h.of_same hindexed rfl rfl rfl

theorem Coordinated.close (h : Coordinated D s) : Coordinated D (s.close w) :=
  ⟨h.ledger, h.indexed.close, h.distinct, h.marked, h.answered⟩

theorem Coordinated.env {a : Env} (h : Coordinated D s) (he : env D a s = some t) :
    Coordinated D t := by
  obtain ⟨r⟩ := a
  obtain ⟨hforeign, hnew, rfl⟩ := env_create he
  exact h.create hnew fun hu m hd hm => absurd hm (hu r hforeign m hd)

end

/-- **The protocol of provisioning.** -/
def coordination (D : ProvisioningDeployment) : Protocol (provisioning D) where
  Inv := Coordinated D
  Guard := Guard D
  EnvOk _ _ := True
  inv_exec h hg he := h.move hg (exec_move he)
  inv_close h := h.close
  inv_env h _ he := h.env he

/-! ### What a session can rely on -/

/-- **What the other sessions leave of what concerns `w`.** -/
structure Settled (D : ProvisioningDeployment) (w : Worker) (s t : World) : Prop where
  same : World.Same w s t
  forward : Forward s.rows t.rows
  engine : ∀ x ∈ s.engine, x ∈ t.engine
  held : ∀ k, s.own w k ≠ none → t.rows k = s.rows k
  owned : ∀ pid, s.db.Locked w (lockOf D pid) → (s.rows (.operation pid)).isSome = true →
    ∀ k, k.owner = some pid → t.rows k = s.rows k
  unmarked : Unmarked D → ∀ pid, ':' ∉ pid.toList → s.db.Locked w (lockOf D pid) → ∀ m, MarkerOf pid m →
    ∀ x ∈ t.engine, x.description = some m → x ∈ s.engine
  projected : ∀ op c, s.own w (.command op) ≠ none → s.rows (.command op) = some c →
    ∀ pid le, s.rows (.entityOwner pid) = some (op, le) →
      ∀ row row' : OperationRow, s.rows (.operation pid) = some row →
        t.rows (.operation pid) = some row' → row'.status = row.status

section

variable {D : ProvisioningDeployment} {v w : Worker} {e : Eff} {s t : World}

/-- Rows and engine stay, and so does everything of `w`. -/
theorem Settled.of_same (hsame : World.Same w s t) (hrows : t.rows = s.rows)
    (hengine : t.engine = s.engine) : Settled D w s t where
  same := hsame
  forward := hrows ▸ .refl _
  engine x hx := hengine ▸ hx
  held k _ := by rw [hrows]
  owned pid _ _ k _ := by rw [hrows]
  unmarked _ pid _ _ m _ x hx _ := hengine ▸ hx
  projected op c _ _ pid le _ row row' hr hr' := by
    rw [hrows, hr] at hr'
    rw [Option.some.inj hr']

theorem Settled.of_create {r : NativeRecord} (hsame : World.Same w s (s.create r))
    (hmarker : Unmarked D → ∀ pid, ':' ∉ pid.toList → s.db.Locked w (lockOf D pid) → ∀ m,
      MarkerOf pid m → r.description ≠ some m) : Settled D w s (s.create r) where
  same := hsame
  forward := .refl _
  engine x hx := List.mem_cons_of_mem _ hx
  held k _ := rfl
  owned pid _ _ k _ := rfl
  unmarked hu pid hp hl m hm x hx hd := by
    rcases List.mem_cons.1 hx with rfl | hx
    · exact absurd hd (hmarker hu pid hp hl m hm)
    · exact hx
  projected op c _ _ pid le _ row row' hr hr' := by
    rw [show s.rows (.operation pid) = some row' from hr'] at hr
    rw [Option.some.inj hr]

/-- Two sessions do not hold one lock. -/
theorem locked_unique {d : Database Worker Row} {h : Int} (hv : d.Locked v h) (hw : d.Locked w h) :
    v = w := by
  obtain ⟨n, hn⟩ := hv
  obtain ⟨m, hm⟩ := hw
  rw [hn] at hm
  exact congrArg Prod.fst (Option.some.inj hm)

/-- Another session commits. -/
theorem Settled.of_commit (hvw : w ≠ v) (hg : Commits D v s) : Settled D w s (s.commit v) where
  same := (Move.commit (D := D)).same_other hvw
  forward := hg.forward
  engine x hx := hx
  held k hk := by
    obtain ⟨row, hrow⟩ := Option.ne_none_iff_exists'.1 hk
    show s.view v k = _
    rw [World.view_eq, World.own_exclusive hvw.symm hrow]
    rfl
  owned pid hl hs k hk := by
    show s.view v k = _
    rw [World.view_eq]
    cases hown : s.own v k with
    | none => rfl
    | some row =>
      rcases hg.owned k pid hk (by rw [hown]; exact Option.some_ne_none _) with hlv | hnone
      · exact absurd (locked_unique hl hlv) hvw
      · rw [hnone] at hs
        cases hs
  unmarked _ pid _ _ m _ x hx _ := hx
  projected op c hown hc pid le howner row row' hr hr' := by
    by_contra hne
    obtain ⟨x, hx⟩ := Option.ne_none_iff_exists'.1 hown
    have := hg.projected pid row row' op le hr hr' (fun h => hne h.symm) howner
    rw [World.own_exclusive hvw.symm hx] at this
    exact this rfl

/-- **What the others do.** -/
theorem other_settled {s t : (provisioning D).State} (h : (coordination D).Other w s t) :
    Settled D w s t := by
  cases h with
  | @exec v e c _ r _ hv hi hg he =>
    have hm := exec_move he
    have hsame := hm.same_other hv.symm
    replace hg : Guard D v e s := hg
    cases hm with
    | commit => exact .of_commit hv.symm hg
    | create hnew =>
      refine .of_create hsame fun _ pid hp hl m hm hd => ?_
      obtain ⟨⟨pid', hp', hm', hl'⟩, -⟩ := hg m hd hm.isMarker
      obtain rfl := hm.unique hp hp' hm'
      exact hv (locked_unique hl' hl)
    | write hf => exact .of_same hsame Database.committed_apply rfl
    | release => exact .of_same hsame (congrArg Store.committed Database.store_release) rfl
    | _ => exact .of_same hsame rfl rfl
  | close hv hi => exact .of_same (close_same hv.symm) rfl rfl
  | @env a _ _ hi ha he =>
    obtain ⟨r⟩ := a
    obtain ⟨hforeign, hnew, rfl⟩ := env_create he
    refine .of_create ⟨.refl, rfl, rfl, rfl⟩ fun hu pid hp hl m hm hd => ?_
    exact hu r hforeign m hd hm.isMarker

end

end Provisioning
end BaobabErp
