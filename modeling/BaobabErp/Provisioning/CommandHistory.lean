/-
# The state of a provisioning command, over every run

What the committed rows say of a command in every state that any interleaving of
workers and requests reaches: its state is the one derived from the statuses of
its operations, every revision of it was announced by one event, and it only goes
forward (`command_follows_operations`).
-/

import BaobabErp.Provisioning.Serving
import BaobabErp.Provisioning.WorkerPass

namespace BaobabErp
namespace Provisioning

open Python Concurrency

section

variable {D : ProvisioningDeployment}

/-! ### Runs of the workers and requests -/

theorem Linked.empty : Linked fun _ => none where
  owner op le pid := by
    constructor
    · intro h
      cases h
    · intro h
      cases h
  key tenant key op := by
    constructor
    · intro h
      cases h
    · rintro ⟨c, h, -⟩
      cases h
  owned _ := rfl
  command _ _ h := h
  entity _ h := by cases h
  step _ _ h := h
  native _ _ h := h
  tenantNative _ _ _ _ h := by cases h

theorem Ledger.empty : Ledger D (fun _ => none) [] where
  linked := Linked.empty
  commanded := by
    constructor <;> intros <;> contradiction
  provisioned := by
    constructor <;> intros <;> contradiction

theorem Coordinated.empty : Coordinated D World.empty where
  ledger := Ledger.empty
  indexed := Database.Indexed.empty
  distinct _ h := absurd h List.not_mem_nil
  marked _ _ h := absurd h List.not_mem_nil
  answered _ h := absurd h List.not_mem_nil

/-- Any schedule, with anything the environment can do. -/
abbrev anySchedule (D : ProvisioningDeployment) : (provisioning D).Action → (provisioning D).Pool →
    Prop := fun _ _ => True

/-- **Workers and requests keep to the protocol.** -/
def coordinated (huuid : IsUuid5 D.hashes) : (coordination D).Verified (anySchedule D) where
  idle := idle D
  envOk _ := trivial
  close _ := ⟨World.clean_close, Function.update_self ..⟩
  main _
    | .worker _ => (runOnce_triple huuid).conseq (fun _ _ h => h.1) fun _ _ _ _ => trivial
    | .request _ => serve_triple

/-- The states that are reached from the empty database. -/
abbrev Reached (p : (provisioning D).Pool) : Prop :=
  Machine.Reaches (anySchedule D) (Machine.idle World.empty) p

theorem Reached.sound (huuid : IsUuid5 D.hashes) {p : (provisioning D).Pool} (h : Reached p) :
    (coordinated huuid).Sound p := by
  refine Protocol.Verified.Sound.reaches ?_ h
  refine Protocol.Verified.sound_idle Coordinated.empty fun w => ⟨?_, rfl⟩
  funext k
  rfl

/-- **What one call leaves of the committed rows.** -/
theorem forward_of_move {w : Worker} {e : Eff} {s t : World} (hg : Guard D w e s)
    (hm : Move D w s e t) : Forward s.rows t.rows := by
  rcases hm.rows with hrows | ⟨rfl, rfl⟩
  · rw [hrows]
    exact .refl _
  · exact Commits.forward hg

/-- **Nothing committed is taken back.** -/
theorem Reached.forward (huuid : IsUuid5 D.hashes) {p q : (provisioning D).Pool} (hp : Reached p)
    (hq : Machine.Reaches (anySchedule D) p q) : Forward p.state.rows q.state.rows := by
  refine Protocol.Verified.Sound.relates (R := fun s t : World => Forward s.rows t.rows)
    (fun s => .refl s.rows) (fun h h' => h.trans h') (fun _ hg he => forward_of_move hg (exec_move he))
    (fun _ => .refl _) (fun {a s t} _ _ he => ?_) (hp.sound huuid) hq
  obtain ⟨r⟩ := a
  obtain ⟨-, -, rfl⟩ := env_create he
  exact .refl _

/-! ### The derived state -/

/-- The statuses of a command's operations are statuses an accepted operation can have. -/
theorem Ledger.executed {rows : Rows} {engine : List NativeRecord} (hl : Ledger D rows engine)
    {op : String} {status : ProvisioningStatus} (h : HasStatus rows op status) :
    status.executed := by
  obtain ⟨le, pid, row, -, hrow, rfl⟩ := h
  exact (hl.provisioned.planned pid row hrow).1

/-- A command has operations. -/
theorem Ledger.hasStatus {rows : Rows} {engine : List NativeRecord} (hl : Ledger D rows engine)
    {op : String} {c : CommandRow} (hc : rows (.command op) = some c) :
    ∃ status, HasStatus rows op status := by
  obtain ⟨le, hle⟩ := hl.linked.entity op (by rw [hc]; rfl)
  obtain ⟨pid, hpid⟩ := Option.isSome_iff_exists.1 hle
  have hfound := hl.linked.owned pid
  rw [(hl.linked.owner op le pid).1 hpid] at hfound
  obtain ⟨row, hrow⟩ := Option.isSome_iff_exists.1 hfound
  exact ⟨row.status, le, pid, row, hpid, hrow, rfl⟩

/-- **The stored state is the derived one.** -/
theorem Ledger.derive_eq {rows : Rows} {engine : List NativeRecord} (hl : Ledger D rows engine)
    {op : String} {c : CommandRow} (hc : rows (.command op) = some c)
    {seen : List ProvisioningStatus} (hseen : Statuses rows op seen) :
    derive seen = .ok (c.state, c.failureCode) := by
  obtain ⟨status, hstatus⟩ := hl.hasStatus hc
  have hne : seen ≠ [] := List.ne_nil_of_mem ((hseen status).2 hstatus)
  obtain ⟨state, code, hderive, hderived⟩ :=
    derive_derived hne fun s hs => hl.executed ((hseen s).1 hs)
  have hstored := hl.commanded.derived op c hc seen hseen
  have hup : ∀ s ∈ seen, ∃ s' ∈ seen, s.rank ≤ s'.rank := fun s hs => ⟨s, hs, Nat.le_refl _⟩
  have hdown : ∀ s' ∈ seen, ∃ s ∈ seen, s.rank ≤ s'.rank := fun s hs => ⟨s, hs, Nat.le_refl _⟩
  have hle := hderived.rank_mono hstored hne hup hdown
  have hge := hstored.rank_mono hderived hne hup hdown
  obtain rfl := hderived.state_eq hstored (Nat.le_antisymm hle hge)
  obtain rfl := hderived.code_eq hstored
  exact hderive

/-! ### The announced history -/

/-- The revision an event of a command names. -/
def announcedRevision (e : CloudEvent) : Json :=
  match e.data with
  | .obj members => Json.get members "revision"
  | _ => .null

/-- The event announces the revision of the command. -/
def Announces (op : String) (revision : Nat) (e : CloudEvent) : Prop :=
  e.type = CommandEvents.eventType ∧ e.subject = "provisioning:" ++ op ∧
    announcedRevision e = .int revision

/-- **The history of a command**: its revisions from 1 on, each of them announced
by one event that carries its document, each state ahead of the one before. -/
structure History (H : Hashes) (rows : Rows) (op : String) (c : CommandRow)
    (history : Nat → CommandRow) : Prop where
  first : 1 ≤ c.revision
  last : history c.revision = c
  dense : ∀ i, 1 ≤ i → i ≤ c.revision → (history i).revision = i
  announced : ∀ i, 1 ≤ i → i ≤ c.revision → ∃! id, ∃ o : OutboxRow, ∃ e,
    rows (.outbox id) = some o ∧ o.content = .event e ∧ Announces op i e
  document : ∀ i, 1 ≤ i → i ≤ c.revision → ∀ id, ∀ o : OutboxRow, ∀ e,
    rows (.outbox id) = some o → o.content = .event e → Announces op i e →
      e = CommandEvents.changed H op (history i)
  /-- There is no event of a later revision. -/
  present : ∀ id, ∀ o : OutboxRow, ∀ e i, rows (.outbox id) = some o → o.content = .event e →
    Announces op i e → 1 ≤ i ∧ i ≤ c.revision
  forward : ∀ i, 1 ≤ i → i < c.revision → (history i).state.rank < (history (i + 1)).state.rank

theorem announces_changed {H : Hashes} {op : String} {c : CommandRow} :
    Announces op c.revision (CommandEvents.changed H op c) := ⟨rfl, rfl, rfl⟩

/-- An event in the outbox that announces a revision is the one of that revision. -/
theorem Commanded.announces {H : Hashes} {rows : Rows} (hc : Commanded H rows) {op id : String}
    {o : OutboxRow} {e : CloudEvent} {i : Nat} (ho : rows (.outbox id) = some o)
    (he : o.content = .event e) (ha : Announces op i e) :
    id = CommandEvents.eventId H op i ∧ ∃ c : CommandRow, rows (.command op) = some c ∧ 1 ≤ i ∧
      i ≤ c.revision := by
  obtain ⟨op', c, d, hop, hd, hdc, rfl, rfl⟩ := hc.only id o ho e he ha.1
  obtain ⟨-, hsubject, hrevision⟩ := ha
  have hlists := congrArg String.toList (show "provisioning:" ++ op' = "provisioning:" ++ op from hsubject)
  rw [String.toList_append, String.toList_append] at hlists
  obtain rfl : op' = op := String.toList_inj.1 (List.append_cancel_left hlists)
  have hint : (Json.int d.revision) = .int i := hrevision
  obtain rfl : d.revision = i := by
    have := Json.int.inj hint
    omega
  exact ⟨rfl, c, hop, hd, hdc⟩

/-- **A command has its history.** -/
theorem Commanded.history {H : Hashes} {rows : Rows} (hc : Commanded H rows) {op : String}
    {c : CommandRow} (hop : rows (.command op) = some c) : ∃ history, History H rows op c history := by
  obtain ⟨history, hlast, hfirst, hannounced, hforward⟩ := hc.announced op c hop
  refine ⟨history, hfirst, hlast, fun i h1 hi => (hannounced i h1 hi).1, fun i h1 hi => ?_,
    fun i h1 hi id o e ho he ha => ?_, fun id o e i ho he ha => ?_, hforward⟩
  · obtain ⟨hrevision, o, ho, hcontent⟩ := hannounced i h1 hi
    refine ⟨_, ⟨o, _, ho, hcontent, ?_⟩, fun id ⟨o', e', ho', he', ha'⟩ => ?_⟩
    · have : Announces op (history i).revision (CommandEvents.changed H op (history i)) :=
        announces_changed
      rwa [hrevision] at this
    · rw [(hc.announces ho' he' ha').1, hrevision]
  · obtain ⟨hrevision, o', ho', hcontent⟩ := hannounced i h1 hi
    rw [hrevision, ← (hc.announces ho he ha).1] at ho'
    obtain rfl : o' = o := Option.some.inj (ho'.symm.trans ho)
    exact OutboxContent.event.inj (he.symm.trans hcontent)
  · obtain ⟨-, c', hop', h1, hi⟩ := hc.announces ho he ha
    obtain rfl : c' = c := Option.some.inj (hop'.symm.trans hop)
    exact ⟨h1, hi⟩

/-! ### Every run -/

/-- What the committed rows say of every command. -/
def CommandsDerived (H : Hashes) (rows : Rows) : Prop :=
  ∀ op, ∀ c : CommandRow, rows (.command op) = some c →
    (∃ seen, Statuses rows op seen) ∧
    (∀ seen, Statuses rows op seen → derive seen = .ok (c.state, c.failureCode)) ∧
    ∃ history, History H rows op c history

/-- **What becomes of a command between two states of a run**: it stays, its
announcements stay, and a change of it is a later revision that is ahead of it,
which a failed command has none of. -/
def CommandsAdvance (rows rows' : Rows) : Prop :=
  (∀ op, ∀ c : CommandRow, rows (.command op) = some c →
    ∃ d : CommandRow, rows' (.command op) = some d ∧
      (d = c ∨ (c.revision < d.revision ∧ c.state.rank < d.state.rank)) ∧
      (c.state = .failed → d = c)) ∧
  ∀ id, ∀ o : OutboxRow, rows (.outbox id) = some o → rows' (.outbox id) = some o

/-- **A command follows its operations.** In every state that any interleaving of
any number of workers and requests reaches, with any crashes and failed calls, the
committed state of every command is the one derived from the committed statuses of
its operations, and its revisions are announced one by one; from there on it only
goes forward. -/
theorem command_follows_operations (D : ProvisioningDeployment) (huuid : IsUuid5 D.hashes)
    {p q : (provisioning D).Pool} (hp : Reached p) (hq : Machine.Reaches (anySchedule D) p q) :
    CommandsDerived D.hashes q.state.rows ∧ CommandsAdvance p.state.rows q.state.rows := by
  have hl : Ledger D q.state.rows q.state.engine := (Reached.sound huuid (hp.trans hq)).1.ledger
  have hforward := hp.forward huuid hq
  refine ⟨fun op c hc => ⟨exists_statuses _ op, fun seen hseen => hl.derive_eq hc hseen,
    hl.commanded.history hc⟩, fun op c hc => ?_, fun id o ho => hforward.permanent _ rfl _ ho⟩
  obtain ⟨d, hd, -, -, -, hcase⟩ := hforward.command op c hc
  refine ⟨d, hd, hcase, fun hfailed => hcase.resolve_right fun hlater => ?_⟩
  have hlt := hlater.2
  obtain ⟨seen, hseen⟩ := exists_statuses q.state.rows op
  have hle := (hl.commanded.derived op d hd seen hseen).rank_le
  rw [hfailed] at hlt
  have hfour : CommandState.failed.rank = 4 := rfl
  omega

end

/-! ### A request of one market -/

def acmeDigest : String :=
  "sha256:aaaaaaaaaaaaaaaaaaaaaaaaaaaaaaaaaaaaaaaaaaaaaaaaaaaaaaaaaaaaaaaa"

/-- The assignment Control Plane approved. -/
def acmeAssignment : CpErpAssignment where
  tenantId := "tn_acme"
  tenantProvisioningId := "tp_acme"
  planId := "plan_acme"
  planVersion := 1
  planDigest := acmeDigest
  legalEntityId := "NABK"
  legalName := "Acme Kenya"
  jurisdictionCode := "KE"
  registrationIdentifiers := [[("type", .str "COMPANY_REGISTRATION"), ("value", .str "PVT-1")]]
  verificationState := "VERIFIED"
  markets := [⟨"KE", ["SELLING"]⟩]
  engineId := "baobab-erp"
  engineInstanceId := "engine-1"
  isolationRequirement := "row_level_security"
  capabilities := ["finance.order-consequence.process"]
  expiresAt := 4000000000000000

theorem newYear_valid : 1 ≤ 2026 ∧ 2026 ≤ 9999 ∧ 1 ≤ 1 ∧ 1 ≤ 12 ∧ 1 ≤ 1 ∧
    1 ≤ daysInMonth 2026 1 := by decide

def acmeBaseline : FinancialConfigurationBaseline where
  legalEntityId := "NABK"
  version := 1
  functionalCurrency := "KES"
  fiscalYearStartMonth := 1
  chartOfAccountsTemplate := "coa-ke"
  accountingSchema := "ifrs"
  taxProfile := "vat-ke"
  costingMethod := "average"
  effectiveFrom := ⟨2026, 1, 1, newYear_valid⟩
  approvedBy := "finance"
  approvedAt := ⟨⟨2026, 1, 1, newYear_valid⟩, 0, 0, 0, 0, some 0, DateTime.midnight_valid⟩
  evidenceReference := "board-1"

/-- The UUIDs of the texts that occur below, told apart by their last characters, and
one digest. -/
def acmeHashes : Hashes where
  uuid5 _ name :=
    match name.toList.getLast? with
    | some '1' => "a5dc84bb-9cce-5b17-aada-a379c7070ba9"
    | some '2' => "865e30f1-00c1-5e08-acc5-bcfd47c78e79"
    | some '3' => "3998a4e4-092a-51da-9ede-9d121cbb027b"
    | some '4' => "dba862ae-989d-5008-82c4-17596c90413f"
    | _ => "9c39ca35-cf91-5126-9c68-64a6efeee591"
  sha256 _ := "60e96e8846578a9f955bbcd64656f40ddda13a3218b2ebc7e7e00bcfb8c38d18"
  hashtext _ := 0

/-- A deployment with one engine, where nobody else creates records. -/
def acmeDeployment : ProvisioningDeployment where
  hashes := acmeHashes
  lockHash text seed := text.length + seed
  runtime := ⟨fun _ => none, fun _ _ => .lt, fun s => s.toList.all Char.isUpper,
    fun s => String.ofList (s.toList.map Char.toLower)⟩
  credentials _ := some ⟨"https://engine", "erp", 0, 0, 0⟩
  processes := some ⟨101, [("KE", 102)]⟩
  dependencies := some ⟨fun _ => some ⟨"key", .dedicatedClient⟩,
    fun _ => some ⟨["KES"], "KE-2026", ["NBO-1"], []⟩, "production"⟩
  issues _ _ _ := true
  foreign _ := false
  approves _ := true

/-- The request for it. -/
def acmePost : AcceptOperation.Post where
  tenantId := "tn_acme"
  principal := "control-plane"
  body := .json (.obj
    [("tenant_id", .str "tn_acme"), ("context_id", .str "11111111-1111-4111-8111-111111111111"),
      ("control_plane_authority", .obj [("tenant_provisioning_id", .str "tp_acme"),
        ("plan_id", .str "plan_acme"), ("plan_version", .int 1), ("plan_digest", .str acmeDigest)]),
      ("legal_entity_ids", .arr [.str "NABK"]),
      ("finance_baselines", .arr [.obj
        [("baseline_id", .str "fb_60e96e8846578a9f955bbcd64656f40d"), ("legal_entity_id", .str "NABK"),
          ("version", .int 1),
          ("digest",
            .str "sha256:60e96e8846578a9f955bbcd64656f40ddda13a3218b2ebc7e7e00bcfb8c38d18"),
          ("effective_from", .str "2026-01-01"), ("authority", baselineAuthority)]]),
      ("requested_countries", .arr [.str "KE"]), ("functional_currencies", .arr [.str "KES"])])
  idempotencyKey := some "provision-acme-0001"

/-- What is answered to the calls below. -/
def acmeAnswers : Provisioning.Choice :=
  { now := 1767225600000000, random := "8d6f0c1e-5b1f-4a52-9c0e-0d5f3b7a1c1a", id := 1000
    assignment := some acmeAssignment, baseline := some acmeBaseline, text := "EFFECTIVE" }

/-- The command that is accepted. -/
def acmeOperation : String := "8d6f0c1e-5b1f-4a52-9c0e-0d5f3b7a1c1a"

/-- A session from its launch to its end. -/
def acmeSession (l : Launch) (calls : Nat) : List (provisioning acmeDeployment).Action :=
  .launch "w" l :: List.replicate calls (.call "w" acmeAnswers) ++ [.stop "w"]

theorem acmeHashes_isUuid5 : IsUuid5 acmeHashes := by
  intro ns name
  unfold acmeHashes
  dsimp only
  split <;> decide +kernel

/-- The request is accepted; nothing is in the engine yet. -/
theorem acme_accepted : ∃ p : (provisioning acmeDeployment).Pool, Reached p ∧
    (p.state.rows (.command acmeOperation)).isSome = true ∧
    (p.state.rows (.operation "tp_acme.NABK.v1")).isSome = true ∧ p.state.engine = [] ∧
    p.state.exchanges.map (fun x => x.response.operationId) = [some acmeOperation] := by
  have hrun : (Machine.run (acmeSession (.request acmePost) 15) (Machine.idle World.empty)).map
      (fun p => ((p.state.rows (.command acmeOperation)).isSome,
        (p.state.rows (.operation "tp_acme.NABK.v1")).isSome, p.state.engine,
        p.state.exchanges.map fun x => x.response.operationId)) =
          some (true, true, [], [some acmeOperation]) := by decide +kernel
  obtain ⟨p, hp, hend⟩ := Option.map_eq_some_iff.1 hrun
  obtain ⟨hcommand, hend⟩ := Prod.mk.inj hend
  obtain ⟨hoperation, hend⟩ := Prod.mk.inj hend
  obtain ⟨hengine, hexchanges⟩ := Prod.mk.inj hend
  exact ⟨p, Machine.reaches_of_run (fun _ _ _ => trivial) hp, hcommand, hoperation, hengine,
    hexchanges⟩

/-- The accepted command has one revision, which is announced. -/
theorem command_follows_operations_accepted : ∃ p : (provisioning acmeDeployment).Pool,
    (p.state.rows (.command acmeOperation)).isSome = true ∧
      CommandsDerived acmeHashes p.state.rows ∧ CommandsAdvance p.state.rows p.state.rows := by
  obtain ⟨p, hp, hcommand, -⟩ := acme_accepted
  exact ⟨p, hcommand, command_follows_operations acmeDeployment acmeHashes_isUuid5 hp .refl⟩

end Provisioning
end BaobabErp
