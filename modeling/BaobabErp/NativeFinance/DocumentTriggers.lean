/-
# The triggers of documents and organisations keep the contract

A document that is inserted waits for its provenance (`waitingFact`), which the
trigger at the end of the statement records; a document that is changed, or an
organisation, is held before the trigger looks at what hangs on it, and what the
trigger finds is still so when the row is written (`suitsFact`, `ownersFact`).
-/

import BaobabErp.NativeFinance.PlacementTriggers

namespace BaobabErp
namespace NativeFinance
namespace PlacementStore

open Concurrency

variable {D : FinanceBaselines.Deployment} {d d' : Db D} {t u : Session} {table : GovernedTable}
  {x : RecordId}

/-! ### What a query says of a document -/

/-- A client without a placement has no provenance. -/
theorem agreesOn_of_not_placed {reading : Reading} {clients : List Int} {row : Document}
    (hd : Sound d) (hq : (Query.clientIsPlaced clients).answer d t reading = false)
    (hc : row.adClientId ∈ clients) :
    AgreesOn x (some (show Row D (documentKey x) from row)) (d.view t (provenanceKey x)) := by
  intro o p ho hp hclient
  obtain rfl : row = o := Option.some.inj ho
  obtain ⟨r, hr, hrc, -⟩ := hd.provenances.namedView t x _ p hp rfl
  rw [Query.answer, List.any_eq_false] at hq
  refine absurd ?_ (hq r.1 ((mem_placements hd.history.indexed).2 ⟨_, r, hr, rfl⟩))
  rw [List.contains_iff_mem, hrc, hclient]
  exact hc

theorem forbidUncataloguedFamily_proves {A : Fact D t} {clients : List Int} :
    Proves t A (forbidUncataloguedFamily table clients) fun _ => A := by
  unfold forbidUncataloguedFamily
  split_ifs
  · exact refuse_proves (f := id) (B := fun _ => A) (ask_proves fun _ _ _ hA => hA) fun _ _ _ _ h => h
  · exact .ret fun _ _ h => h

/-- What is the provenance of the current placement names. -/
theorem currentPlacement_mem {reading : Reading} {client org : Int} {p : PlacementRow}
    (hd : d.Indexed) (h : currentPlacement d t reading client org = some p) :
    ∃ (i : String × Int) (r : Filed D i.1 i.2), i = (p.placementId, p.version) ∧
      d.view t (placementKey i) = some r ∧ r.1.adClientId = client ∧ r.1.adOrgId = org := by
  unfold currentPlacement at h
  obtain ⟨⟨q, n⟩, hfind, rfl⟩ := Option.map_eq_some_iff.1 h
  have hmem : q ∈ placements d t :=
    (reading.order_perm _).mem_iff.1 (List.fst_mem_of_mem_zipIdx (List.mem_of_find?_eq_some hfind))
  have hof := List.find?_some hfind
  simp only [PlacementRow.of, Bool.and_eq_true, decide_eq_true_eq] at hof
  obtain ⟨i, r, hr, rfl⟩ := (mem_placements hd).1 hmem
  exact ⟨i, r, by rw [r.2.2.1, r.2.2.2], hr, hof.1.1.1, hof.1.1.2⟩

/-! ### Documents that are inserted -/

theorem insertHeaders_proves (rows : List (Int × Document)) :
    ∀ before, Proves (D := D) t (waitingFact table before) (insertHeaders table rows)
      fun _ => waitingFact table (before ++ rows) := by
  induction rows with
  | nil =>
    intro before
    rw [List.append_nil]
    exact .ret fun _ _ h => h
  | cons y rows ih =>
    intro before
    refine forbidUncataloguedFamily_proves.seq fun _ =>
      .seq (B := fun _ => waitingFact table (before ++ [y])) ?_ fun _ => ?_
    · refine sql_proves (fun _ _ _ => trivial) fun d d' reading a hd hA hr => ?_
      obtain ⟨hnone, hf, rfl⟩ := insertNative_eq hr
      refine ⟨fun x hx => ?_, fun z hz => ?_⟩
      · have hxy : documentKey x ≠ documentKey (table, y.1) := by
          intro heq
          refine hx y (List.mem_append_right _ (List.mem_singleton.2 rfl)) ?_
          obtain ⟨h₁, h₂⟩ := NativeKey.document.inj (Key.native.inj heq)
          exact Prod.ext h₁ h₂
        rw [show ((d.put t ⟨documentKey (table, y.1), some y.2⟩).view t (documentKey x)) =
          d.view t (documentKey x) from Store.view_put_of_ne hxy]
        exact hA.1 x fun z hz => hx z (List.mem_append_left _ hz)
      · rcases List.mem_append.1 hz with hz | hz
        · obtain ⟨hh, hview⟩ := hA.2 z hz
          have hzy : documentKey (table, z.1) ≠ documentKey (table, y.1) := by
            intro heq
            have hrec : z.1 = y.1 := (NativeKey.document.inj (Key.native.inj heq)).2
            rw [← hrec, hview] at hnone
            cases hnone
          exact ⟨Store.holds_put_iff.2 (.inr ⟨hzy, hh⟩), (Store.view_put_of_ne hzy).trans hview⟩
        · obtain rfl := List.mem_singleton.1 hz
          exact ⟨Store.holds_put_self, Store.view_put_self⟩
    · rw [List.append_cons before y rows]
      exact ih (before ++ [y])

/-- **The provenance of a document that waits for it.** -/
theorem recordDocumentProvenance_proves {y : Int × Document} {rows : List (Int × Document)} :
    Proves (D := D) t (waitingFact table (y :: rows)) (recordDocumentProvenance table y.1 y.2)
      fun _ => waitingFact table rows := by
  -- the rest waits once the document is right
  have hrest : ∀ {d : Db D}, (waitingFact (t := t) table (y :: rows)).holds d →
      AgreesOn (table, y.1) (d.view t (documentKey (table, y.1)))
        (d.view t (provenanceKey (table, y.1))) → (waitingFact (t := t) table rows).holds d := by
    intro d hA hy
    refine ⟨fun x hx => ?_, fun z hz => hA.2 z (List.mem_cons_of_mem _ hz)⟩
    by_cases hxy : x = (table, y.1)
    · exact hxy ▸ hy
    · exact hA.1 x (List.forall_mem_cons.2 ⟨hxy, hx⟩)
  unfold recordDocumentProvenance
  refine Dialect.Contract.Proves.seq (B := fun placed => (waitingFact table (y :: rows)).and
    ⟨fun d => placed = false → (waitingFact (t := t) table rows).holds d,
      fun hu hd hd' hm h hf => (waitingFact table rows).stable hu hd hd' hm (h hf)⟩)
    (ask_proves fun d reading hd hA => ⟨hA, fun hf => hrest hA ?_⟩) fun placed => ?_
  · rw [show d.view t (documentKey (table, y.1)) = some y.2 from (hA.2 y List.mem_cons_self).2]
    exact agreesOn_of_not_placed hd hf (List.mem_singleton.2 rfl)
  cases placed with
  | false => exact .ret fun d _ hA => hA.2 rfl
  | true =>
    refine .seq (B := fun
      | none => waitingFact table (y :: rows)
      | some (p : PlacementRow) => (waitingFact table (y :: rows)).and
        (placedFact (p.placementId, p.version) y.2.adClientId y.2.adOrgId))
      (ask_proves fun d reading hd hA => ?_) fun current => ?_
    · cases hcur : (Query.currentPlacement y.2.adClientId y.2.adOrgId).answer d t reading with
      | none => exact hA.1
      | some p =>
        obtain ⟨i, r, rfl, hr, hc, ho⟩ := currentPlacement_mem hd.history.indexed hcur
        exact ⟨hA.1, r, hr, hc, ho⟩
    cases current with
    | none => exact .raise
    | some p =>
      dsimp only
      split_ifs with hpos
      · refine sql_proves (fun d hd hA => ?_) fun d d' reading a hd hA hr => ?_
        · refine ⟨(hA.1.2 y List.mem_cons_self).1, fun q hq _ => ?_⟩
          obtain rfl := Option.some.inj hq
          exact hA.2
        · obtain ⟨-, -, hf, rfl⟩ := insertProvenance_eq hr
          refine ⟨fun x hx => ?_, fun z hz => ?_⟩
          · rw [show (Concurrency.Database.put d t ⟨provenanceKey (table, y.1), _⟩).view t (documentKey x) =
              d.view t (documentKey x) from Store.view_put_of_ne nofun]
            by_cases hxy : x = (table, y.1)
            · subst hxy
              intro o q ho hq _
              obtain rfl := Option.some.inj ((hA.1.2 y List.mem_cons_self).2.symm.trans ho)
              obtain rfl := Option.some.inj (Store.view_put_self.symm.trans hq)
              rfl
            · have hne : provenanceKey x ≠ provenanceKey (table, y.1) :=
                fun heq => hxy (provenanceKey_injective heq)
              rw [show (Concurrency.Database.put d t ⟨provenanceKey (table, y.1), _⟩).view t (provenanceKey x) =
                d.view t (provenanceKey x) from Store.view_put_of_ne hne]
              exact hA.1.1 x (List.forall_mem_cons.2 ⟨hxy, hx⟩)
          · obtain ⟨hh, hview⟩ := hA.1.2 z (List.mem_cons_of_mem _ hz)
            have hne : documentKey (table, z.1) ≠ provenanceKey (table, y.1) := nofun
            exact ⟨Store.holds_put_iff.2 (.inr ⟨hne, hh⟩), (Store.view_put_of_ne hne).trans hview⟩
      · exact .raise

theorem recordProvenances_proves (rows : List (Int × Document)) :
    Proves (D := D) t (waitingFact table rows) (recordProvenances table rows) fun _ => ready t := by
  induction rows with
  | nil => exact .ret fun d _ hA x => hA.1 x nofun
  | cons y rows ih => exact recordDocumentProvenance_proves.seq fun _ => ih

theorem insertDocuments_proves (rows : List (Int × Document)) :
    Proves (D := D) t (ready t) (insertDocuments table rows) fun _ => ready t := by
  refine .seq (B := fun _ => waitingFact table rows) ?_ fun _ => recordProvenances_proves rows
  exact (insertHeaders_proves rows []).pre fun d _ hA => ⟨fun x _ => hA x, nofun⟩

/-! ### Documents that are changed -/

/-- The row of a document is written as its provenance allows. -/
theorem writeDocument_proves {row : Option Document} :
    Proves (D := D) t ((ready t).and (suitsFact x row)) (sql (.writeNative (.document x.1 x.2) row))
      fun _ => ready t := by
  refine sql_proves (fun _ _ _ => trivial) fun d d' reading a hd hA hr => ?_
  obtain ⟨-, rfl⟩ := write_eq hr
  intro z
  have hprov : provenanceKey z ≠ documentKey x := nofun
  rw [show (Concurrency.Database.put d t ⟨documentKey x, row⟩).view t (provenanceKey z) =
    d.view t (provenanceKey z) from Store.view_put_of_ne hprov]
  by_cases hz : documentKey z = documentKey x
  · obtain ⟨h₁, h₂⟩ := NativeKey.document.inj (Key.native.inj hz)
    obtain rfl : z = x := Prod.ext h₁ h₂
    rw [show (Concurrency.Database.put d t ⟨documentKey z, row⟩).view t (documentKey z) = row from
      Store.view_put_self]
    exact hA.2.2
  · rw [show (Concurrency.Database.put d t ⟨documentKey x, row⟩).view t (documentKey z) =
      d.view t (documentKey z) from Store.view_put_of_ne hz]
    exact hA.1 z

/-- A row is locked and read. -/
theorem lockNative_proves {k : NativeKey} :
    Proves (D := D) t (ready t) (sql (.lockNative k)) fun
      | none => ready t
      | some row => (ready t).and (heldFact k row) := by
  refine sql_proves (fun _ _ _ => trivial) fun d d' reading found hd hA hr => ?_
  have hready : (ready t).holds d' := agrees_quiet rfl hr hA
  obtain ⟨-, ⟨rfl, -⟩ | ⟨row, rfl, -, rfl⟩⟩ := lockNative_eq hr
  · exact hready
  · exact ⟨hready, Store.holds_put_self, Store.view_put_self⟩

/-- **A document that moves** has no provenance of the client it moves to. -/
theorem forbidDocumentOrgChange_proves {old new : Document} :
    Proves (D := D) t ((ready t).and (heldFact (.document x.1 x.2) old))
      (forbidDocumentOrgChange old new) fun _ => (ready t).and (suitsFact x (some new)) := by
  unfold forbidDocumentOrgChange
  split_ifs with hsame
  · subst hsame
    refine .ret fun d _ hA => ⟨hA.1, hA.2.1, ?_⟩
    have hagrees := hA.1 x
    rw [show d.view t (documentKey x) = some new from hA.2.2] at hagrees
    exact hagrees
  · refine refuse_proves (f := id) (B := fun placed =>
      ((ready t).and (heldFact (.document x.1 x.2) old)).and
        ⟨fun d => placed = false → (suitsFact (t := t) x (some new)).holds d,
          fun hu hd hd' hm h hf => (suitsFact x (some new)).stable hu hd hd' hm (h hf)⟩)
      (ask_proves fun d reading hd hA => ⟨hA, fun hf => ⟨hA.2.1, ?_⟩⟩)
      fun b d _ hb hB => ⟨hB.1.1, hB.2 hb⟩
    exact agreesOn_of_not_placed hd hf (List.mem_cons_of_mem _ (List.mem_singleton.2 rfl))

theorem updateDocument_proves {record : Int} {new : Document → Document} :
    Proves (D := D) t (ready t) (updateDocument table record new) fun _ => ready t := by
  refine lockNative_proves.seq fun found => ?_
  cases found with
  | none => exact .ret fun _ _ h => h
  | some old =>
    exact (forbidDocumentOrgChange_proves (x := (table, record))).seq fun _ =>
      forbidUncataloguedFamily_proves.seq fun _ => writeDocument_proves (x := (table, record))

theorem deleteDocument_proves {record : Int} :
    Proves (D := D) t (ready t) (deleteDocument table record) fun _ => ready t := by
  refine lockNative_proves.seq fun found => ?_
  cases found with
  | none => exact .ret fun _ _ h => h
  | some old =>
    refine forbidUncataloguedFamily_proves.seq fun _ =>
      (writeDocument_proves (x := (table, record))).pre fun d _ hA => ?_
    refine ⟨hA.1, hA.2.1, fun o p ho => ?_⟩
    cases ho

/-! ### Organisations -/

/-- **An organisation that changes hands** has no open placement. -/
theorem placedAdOrgChangeGuard_proves {org : Int} {old : AdOrg} {new : Option AdOrg} :
    Proves (D := D) t ((ready t).and (heldFact (.adOrg org) old)) (placedAdOrgChangeGuard org old new)
      fun _ => (ready t).and (ownersFact org new) := by
  -- the open placements go by the row as it is
  have howns : ∀ d : Db D, Sound d → nativeAt d t (.adOrg org) = some old →
      ∀ (i : String × Int) (r : Filed D i.1 i.2), d.view t (placementKey i) = some r →
        r.1.effectiveTo = none → r.1.adOrgId = org → old.owns r.1.adClientId = true := by
    intro d hd hold i r hr hopen horg
    obtain ⟨o, ho, howns⟩ := hd.ownership.ownedView t i org r hr hopen horg
    obtain rfl : old = o := Option.some.inj (hold.symm.trans ho)
    exact howns
  unfold placedAdOrgChangeGuard
  split_ifs with hsame
  · subst hsame
    exact .ret fun d hd hA => ⟨hA.1, hA.2.1, fun i r hr hopen horg =>
      ⟨old, rfl, howns d hd hA.2.2 i r hr hopen horg⟩⟩
  · refine refuse_proves (f := id) (B := fun placed =>
      ((ready t).and (heldFact (.adOrg org) old)).and
        ⟨fun d => placed = false → (ownersFact (t := t) org new).holds d,
          fun hu hd hd' hm h hf => (ownersFact org new).stable hu hd hd' hm (h hf)⟩)
      (ask_proves fun d reading hd hA => ⟨hA, fun hf => ⟨hA.2.1, fun i r hr hopen horg => ?_⟩⟩)
      fun b d _ hb hB => ⟨hB.1.1, hB.2 hb⟩
    have hclient := howns d hd hA.2.2 i r hr hopen horg
    simp only [AdOrg.owns, Bool.and_eq_true, decide_eq_true_eq] at hclient
    rw [Query.answer, List.any_eq_false] at hf
    refine absurd ?_ (hf r.1 ((mem_placements hd.history.indexed).2 ⟨i, r, hr, rfl⟩))
    simp only [PlacementRow.of, hclient.1, horg, hopen, decide_true, Bool.and_true,
      Option.isNone_none]

theorem changeAdOrg_proves {org : Int} {new : AdOrg → Option AdOrg} :
    Proves (D := D) t (ready t) (changeAdOrg org new) fun _ => ready t := by
  refine lockNative_proves.seq fun found => ?_
  cases found with
  | none => exact .ret fun _ _ h => h
  | some old =>
    exact placedAdOrgChangeGuard_proves.seq fun _ =>
      sql_proves (fun d _ hA => hA.2.2) fun _ _ _ _ _ hA hr => agrees_quiet rfl hr hA.1

/-! ### Every call -/

/-- **Every call of a session keeps the contract.** -/
theorem body_proves (c : Call) : Proves (D := D) t (ready t) (body c) fun _ => ready t := by
  cases c with
  | read q => exact ask_proves fun _ _ _ hA => hA
  | insertPlacements rows => exact insertPlacements_proves rows
  | updatePlacement id v new => exact quiet_proves rfl fun _ => trivial
  | deletePlacement id v => exact quiet_proves rfl fun _ => trivial
  | alterProvenance table record => exact quiet_proves rfl fun _ => trivial
  | insertDocuments table rows => exact insertDocuments_proves rows
  | updateDocument table record new => exact updateDocument_proves
  | deleteDocument table record => exact deleteDocument_proves
  | insertAdOrg org row => exact quiet_proves rfl fun _ => trivial
  | changeAdOrg org new => exact changeAdOrg_proves
  | commit => exact Dialect.Contract.Proves.commit
  | rollback => exact Dialect.Contract.Proves.rollback

/-- **Every program of calls keeps the contract.** -/
theorem kept : (contract D).Kept main := fun _ p =>
  Prog.Closed.interpret Protocol.closed_keeps (fun c => (body_proves c).keeps) p

theorem sound_empty : Sound (.empty : Db D) := ⟨.empty, .empty, .empty⟩

variable {p q : (Sessions D).Pool}

/-- **Every state of every run keeps what every history keeps.** -/
theorem sound_of_reaches (h : Reaches (initial D) p) : Sound p.state.db := kept.inv sound_empty h

end PlacementStore
end NativeFinance
end BaobabErp
