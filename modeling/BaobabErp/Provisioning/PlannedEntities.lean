/-
# What an admitted request plans

A request that is admitted names its tenant provisioning and its legal entities
in grammars without a colon (`admission_ok`), and what is planned for one of them
is the operation of an approved assignment (`planEntity_plans`).
-/

import BaobabErp.Provisioning.AcceptOperation
import BaobabErp.Provisioning.Ledger

namespace BaobabErp
namespace Provisioning

open Python

/-! ### The command -/

theorem isTagged_colon {pre s : String} (hpre : ':' ∉ pre.toList) (h : isTagged pre s = true) :
    ':' ∉ s.toList := by
  unfold isTagged at h
  rw [Bool.and_eq_true, Bool.and_eq_true] at h
  obtain ⟨⟨hp, -⟩, hall⟩ := h
  intro hc
  rw [← List.prefix_iff_eq_append.1 (List.isPrefixOf_iff_prefix.1 hp)] at hc
  rcases List.mem_append.1 hc with hc | hc
  · exact hpre hc
  · have := List.all_eq_true.1 hall ':' hc
    revert this
    decide

theorem isLegalEntity_colon {s : String} (h : isLegalEntity s = true) : ':' ∉ s.toList := by
  intro hc
  unfold isLegalEntity at h
  split at h
  · rename_i c cs hs
    rw [hs] at hc
    rw [Bool.and_eq_true] at h
    rcases List.mem_cons.1 hc with rfl | hc
    · exact absurd h.1 (by decide)
    · rcases Identifiers.legalEntityTail_mem h.2 _ hc with hc | hc | hc <;> revert hc <;> decide
  · cases h

/-- What a text member holds is in its grammar. -/
theorem textOfMember_grammar {value : Json} {grammar : String → Bool} {field s : String}
    {low high : Nat} (h : (textOfMember value grammar field low high).1 = some s) :
    grammar s = true := by
  unfold textOfMember at h
  split at h
  · split_ifs at h with hg
    · obtain rfl := Option.some.inj h
      simp only [Bool.and_eq_true] at hg
      exact hg.2
  · cases h

theorem setOfMember_grammar {value : Json} {grammar : String → Bool} {field s : String}
    {minimum low high : Nat} (h : s ∈ (setOfMember value grammar field minimum low high).1) :
    grammar s = true := by
  unfold setOfMember at h
  split at h
  · split at h
    · cases h
    · dsimp only at h
      rw [List.mem_filter, List.mem_filterMap] at h
      obtain ⟨⟨x, hx, hs⟩, -⟩ := h
      obtain ⟨y, -, rfl⟩ := List.mem_map.1 hx
      exact textOfMember_grammar hs
  · cases h

theorem whenPresent_cases {α : Type} {ms : List (String × Json)} {name : String} {absent : α}
    {f : Json → α × Errors} :
    (∃ value, (whenPresent ms name absent f).1 = (f value).1) ∨
      (whenPresent ms name absent f).1 = absent := by
  unfold whenPresent
  split
  · exact .inl ⟨_, rfl⟩
  · exact .inr rfl

theorem authorityOf_grammar {value : Json} {authority : ControlPlaneAuthority}
    (h : (authorityOf value).1 = some authority) :
    isTagged "tp_" authority.tenantProvisioningId = true := by
  unfold authorityOf at h
  split at h
  · dsimp only at h
    split at h
    · rename_i hp _ _ _
      split_ifs at h
      · obtain rfl := Option.some.inj h
        exact textOfMember_grammar hp
    · cases h
  · cases h

/-- **What a command names** is in the grammars of its members. -/
theorem parseCommand_ok {R : Runtime} {body : Json} {command : ProvisioningCommand}
    (h : parseCommand R body = .ok command) :
    isTagged "tp_" command.authority.tenantProvisioningId = true ∧
      ∀ le ∈ command.legalEntityIds, isLegalEntity le = true := by
  unfold parseCommand at h
  split at h
  · dsimp only at h
    split at h
    · rename_i hauthority
      split_ifs at h
      obtain rfl := Except.ok.inj h
      constructor
      · rcases whenPresent_cases (f := authorityOf) with ⟨value, hv⟩ | hv
        · exact authorityOf_grammar (hv.symm.trans hauthority)
        · rw [hv] at hauthority
          cases hauthority
      · intro le hle
        rcases whenPresent_cases (f := fun v =>
          setOfMember v isLegalEntity "legal_entity_ids" 1 3 63) with ⟨value, hv⟩ | hv
        · exact setOfMember_grammar (hv ▸ hle)
        · rw [hv] at hle
          cases hle
    · cases h
  · cases h

namespace AcceptOperation

variable {D : ProvisioningDeployment}

/-- **What is known of an admitted request.** -/
theorem admission_ok {post : Post} {key : String} {command : ProvisioningCommand}
    {P : ProvisioningDependencies} (h : admission D post = .ok (key, command, P)) :
    post.idempotencyKey = some key ∧ command.tenantId = post.tenantId ∧
      isTagged "tp_" command.authority.tenantProvisioningId = true ∧
      ∀ le ∈ command.legalEntityIds, isLegalEntity le = true := by
  unfold admission at h
  dsimp only at h
  split at h
  · rename_i k hk
    split at h
    · cases h
    · cases h
    · rename_i body _
      rw [pure_bind, pure_bind] at h
      split at h
      · rename_i c hparse
        rw [pure_bind] at h
        by_cases htenant : c.tenantId = post.tenantId
        · rw [if_neg (not_not.2 htenant)] at h
          split at h
          · cases h
          · obtain ⟨rfl, hrest⟩ := Prod.mk.inj (Except.ok.inj h)
            obtain ⟨rfl, rfl⟩ := Prod.mk.inj hrest
            exact ⟨(Option.filter_eq_some_iff.1 hk).1, htenant, parseCommand_ok hparse⟩
        · rw [if_pos htenant] at h
          cases h
      · cases h
  · cases h

/-- A request that is not admitted is refused with a problem. -/
theorem admission_refused {post : Post} {refusal : Response}
    (h : admission D post = .error refusal) : refusal.operationId = none := by
  unfold admission at h
  dsimp only at h
  split at h
  · rw [pure_bind] at h
    split at h
    · obtain rfl := Except.error.inj h
      rfl
    · obtain rfl := Except.error.inj h
      rfl
    · rw [pure_bind] at h
      split at h
      · rename_i c _
        rw [pure_bind] at h
        by_cases htenant : c.tenantId = post.tenantId
        · rw [if_neg (not_not.2 htenant)] at h
          split at h
          · obtain rfl := Except.error.inj h
            rfl
          · cases h
        · rw [if_pos htenant] at h
          obtain rfl := Except.error.inj h
          rfl
      · obtain rfl := Except.error.inj h
        rfl
  · obtain rfl := Except.error.inj h
    rfl

/-! ### The plan of a legal entity -/

theorem differences_nil {a : CpErpAssignment} {command : ProvisioningCommand} {le : String}
    (h : differences a command le = []) : a.tenantId = command.tenantId ∧
      a.tenantProvisioningId = command.authority.tenantProvisioningId ∧ a.legalEntityId = le := by
  unfold differences at h
  rw [List.map_eq_nil_iff, List.filter_eq_nil_iff] at h
  refine ⟨?_, ?_, ?_⟩
  · simpa using h ("tenant_id", decide (a.tenantId = command.tenantId)) (by simp)
  · simpa using h ("tenant_provisioning_id",
      decide (a.tenantProvisioningId = command.authority.tenantProvisioningId)) (by simp)
  · simpa using h ("legal_entity_id", decide (a.legalEntityId = le)) (by simp)

theorem provisioningRecordId_colon {a : CpErpAssignment}
    (hp : ':' ∉ a.tenantProvisioningId.toList) (hle : ':' ∉ a.legalEntityId.toList) :
    ':' ∉ a.provisioningRecordId.toList := by
  unfold CpErpAssignment.provisioningRecordId
  simp only [String.toList_append, List.mem_append, not_or]
  refine ⟨⟨⟨⟨hp, by decide⟩, hle⟩, by decide⟩, fun h => ?_⟩
  rcases Json.toString_int_mem h with h | h <;> revert h <;> decide

/-- **The request of an assignment** names what the assignment names. -/
theorem materializeRequest_ok {H : Hashes} {R : Runtime} {P : ProvisioningDependencies}
    {a : CpErpAssignment} {b : FinancialConfigurationBaseline} {now : Instant}
    {request : ErpProvisioningRequest} (h : materializeRequest H R P a b now = .ok request) :
    request.Typed ∧ request.provisioningId = .str a.provisioningRecordId ∧
      request.tenantId = .str a.tenantId ∧ request.legalEntityId = .str a.legalEntityId ∧
      request.engineInstanceId = .str a.engineInstanceId := by
  unfold materializeRequest at h
  obtain ⟨-, -, h⟩ := bind_eq_ok h
  obtain ⟨markets, hmarkets, h⟩ := bind_eq_ok h
  obtain ⟨registration, -, h⟩ := bind_eq_ok h
  obtain rfl := Except.ok.inj h
  refine ⟨⟨⟨_, rfl⟩, ⟨_, rfl⟩, ⟨_, rfl⟩, ⟨_, rfl⟩, ⟨_, rfl⟩, ⟨_, rfl⟩, ⟨_, rfl⟩, ⟨_, rfl⟩, ⟨_, rfl⟩,
    ⟨_, rfl⟩, ⟨_, rfl⟩, ⟨⟨_, rfl⟩, ⟨_, rfl⟩, ⟨_, rfl⟩, ⟨_, rfl⟩, ⟨_, rfl⟩, ⟨_, rfl⟩⟩, fun m hm => ?_,
    isTextSet_sortedTexts _⟩, rfl, rfl, rfl, rfl⟩
  obtain ⟨x, -, hx⟩ := mem_of_mapM hmarkets m hm
  exact materializeMarket_typed hx

theorem buildRequest_ok {H : Hashes} {R : Runtime} {P : ProvisioningDependencies}
    {tenant le : String} {a : CpErpAssignment} {baseline : Option FinancialConfigurationBaseline}
    {now : Instant} {request : ErpProvisioningRequest}
    (h : buildRequest H R P tenant le a baseline now = .ok request) :
    ∃ b, materializeRequest H R P a b now = .ok request := by
  unfold buildRequest at h
  dsimp only at h
  split at h
  · cases h
  obtain ⟨mode, -, h⟩ := bind_eq_ok h
  split at h
  · cases h
  · split at h
    · cases h
    · split at h
      · cases h
      · exact ⟨_, h⟩

/-- **A planned entity is the operation of its assignment.** -/
structure Plans (D : ProvisioningDeployment) (entity : PlannedEntity) : Prop where
  provisioningId : entity.request.provisioningId = .str entity.assignment.provisioningRecordId
  planned : ∀ key d, Planned D entity.assignment.provisioningRecordId (operationRow entity key d)
    ⟨entity.assignment, entity.request, entity.plan⟩

theorem planEntity_plans {P : ProvisioningDependencies} {tenant : String} {now : Instant}
    {baselines : List (String × FinancialConfigurationBaseline)} {a : CpErpAssignment}
    {entity : PlannedEntity} (happroved : D.approves a = true)
    (hp : ':' ∉ a.tenantProvisioningId.toList) (hle : ':' ∉ a.legalEntityId.toList)
    (h : planEntity D P tenant now baselines a = .ok entity) : Plans D entity := by
  unfold planEntity at h
  obtain ⟨request, hrequest, h⟩ := bind_eq_ok h
  obtain ⟨plan, hplan, h⟩ := bind_eq_ok h
  obtain ⟨document, hdocument, h⟩ := bind_eq_ok h
  obtain rfl := Except.ok.inj h
  obtain ⟨b, hb⟩ := buildRequest_ok hrequest
  obtain ⟨htyped, hid, htenant, hentity, hengine⟩ := materializeRequest_ok hb
  exact ⟨hid, fun key d =>
    { approved := happroved
      record := rfl
      colon := provisioningRecordId_colon hp hle
      typed := htyped
      provisioningId := hid
      tenant := htenant
      legalEntity := hentity
      engine := hengine
      plan := hplan
      state := hdocument
      digest := rfl
      steps := rfl }⟩

/-- **Every planned entity comes from an assignment**, in their order. -/
theorem planAll_ok {P : ProvisioningDependencies} {tenant : String} {now : Instant}
    {baselines : List (String × FinancialConfigurationBaseline)} :
    ∀ {as : List CpErpAssignment} {entities : List PlannedEntity},
      planAll D P tenant now baselines as = .ok (.ok entities) →
        entities.length = as.length ∧ ∀ entity ∈ entities, ∃ a ∈ as,
          planEntity D P tenant now baselines a = .ok entity
  | [], entities, h => by
    obtain rfl := Except.ok.inj (Except.ok.inj h)
    exact ⟨rfl, fun _ h => absurd h List.not_mem_nil⟩
  | a :: as, entities, h => by
    unfold planAll at h
    split at h
    · split at h
      · cases h
      · cases h
    · rename_i entity hentity
      split at h
      · cases h
      · cases h
      · rename_i rest hrest
        obtain rfl := Except.ok.inj (Except.ok.inj h)
        obtain ⟨hlength, hall⟩ := planAll_ok hrest
        refine ⟨congrArg Nat.succ hlength, fun e he => ?_⟩
        rcases List.mem_cons.1 he with rfl | he
        · exact ⟨a, List.mem_cons_self, hentity⟩
        · obtain ⟨x, hx, hplan⟩ := hall e he
          exact ⟨x, List.mem_cons_of_mem _ hx, hplan⟩

end AcceptOperation

end Provisioning
end BaobabErp
