/-
# Engine records and written rows over a run

No call deletes an engine record or changes what it is looked up by
(`EngineGrows`), and an installation never gives one id of a table to two
records (`Distinct`).  A version of a row that an `INSERT` leaves behind is the
inserted row or was there before (`exec_insert_version`, `exec_upsert_version`).
-/

import BaobabErp.Platform.Accesses
import Mathlib.Data.List.Pairwise

namespace BaobabErp

open Concurrency World

/-- Every record is still there. -/
def EngineGrows (s t : World) : Prop := ∀ r ∈ s.engine, ∃ q ∈ t.engine, SameRecord q r

/-- **Record ids are unique** in each table of an installation. -/
def Distinct (s : World) : Prop := s.engine.Pairwise fun a b => a.sameIdentity b = false

namespace Fields

/-- A record found by POReference is an order. -/
theorem table_of_order {f : Fields} {value : String} (h : f.lookup = some (.cOrder, value)) :
    f.table = "C_Order" := by
  cases f with
  | order _ => rfl
  | partner f =>
    obtain ⟨_, _, he⟩ := Option.map_eq_some_iff.1 h
    cases he
  | document _ _ => cases h

/-- A record found by Description is a partner. -/
theorem table_of_partner {f : Fields} {value : String} (h : f.lookup = some (.cBPartner, value)) :
    f.table = "C_BPartner" := by
  cases f with
  | order f =>
    obtain ⟨_, _, he⟩ := Option.map_eq_some_iff.1 h
    cases he
  | partner _ => rfl
  | document _ _ => cases h

end Fields

section

variable {D : Deployment} {w : Worker} {c : Choice} {s t u : World}

theorem sameIdentity_iff {a b : EngineRecord} : a.sameIdentity b = true ↔
    a.home.baseUrl = b.home.baseUrl ∧ a.fields.table = b.fields.table ∧ a.id = b.id := by
  unfold EngineRecord.sameIdentity
  rw [Bool.and_eq_true, Bool.and_eq_true, beq_iff_eq, beq_iff_eq, beq_iff_eq, and_assoc]

theorem sameIdentity_same {a b p q : EngineRecord} (h : SameRecord a p) (h' : SameRecord b q) :
    a.sameIdentity b = p.sameIdentity q := by
  unfold EngineRecord.sameIdentity
  rw [h.home, h'.home, h.table, h'.table, h.id, h'.id]

theorem sameIdentity_comm (a b : EngineRecord) : a.sameIdentity b = b.sameIdentity a := by
  rw [Bool.eq_iff_iff, sameIdentity_iff, sameIdentity_iff]
  exact ⟨fun h => ⟨h.1.symm, h.2.1.symm, h.2.2.symm⟩, fun h => ⟨h.1.symm, h.2.1.symm, h.2.2.symm⟩⟩

/-- Two records with one id in one table of one installation are one record. -/
theorem Distinct.eq {a b : EngineRecord} (h : Distinct s) (ha : a ∈ s.engine) (hb : b ∈ s.engine)
    (hurl : a.home.baseUrl = b.home.baseUrl) (htable : a.fields.table = b.fields.table)
    (hid : a.id = b.id) : a = b := by
  have : Std.Symm fun a b : EngineRecord => a.sameIdentity b = false :=
    ⟨fun a b hab => (sameIdentity_comm b a).trans hab⟩
  by_contra hne
  have hfalse := List.Pairwise.forall h ha hb hne
  rw [sameIdentity_iff.2 ⟨hurl, htable, hid⟩] at hfalse
  cases hfalse

/-! ### The engine over one step -/

theorem EngineGrows.of_eq (h : t.engine = s.engine) : EngineGrows s t :=
  fun r hr => ⟨r, h ▸ hr, .refl r⟩

theorem exec_engineGrows {e : Eff} {r : Except Exc (Ans e)} (h : exec D w e c s = some (r, t)) :
    EngineGrows s t := by
  intro q hq
  rcases exec_engine h with ⟨f, ht, hf⟩ | ⟨σ, fields, -, ht⟩
  · exact ⟨f q, ht ▸ List.mem_map_of_mem hq, hf q⟩
  · exact ⟨q, ht ▸ List.mem_cons_of_mem _ hq, .refl q⟩

theorem env_engineGrows {a : Env} (h : env a s = some t) : EngineGrows s t := by
  obtain ⟨-, -, -, ⟨hen, -⟩ | ⟨q, -, -, -, hen⟩⟩ := env_cases h
  · exact .of_eq hen
  · exact fun r hr => ⟨r, hen ▸ List.mem_cons_of_mem _ hr, .refl r⟩

theorem exec_distinct {e : Eff} {r : Except Exc (Ans e)} (h : exec D w e c s = some (r, t))
    (hs : Distinct s) : Distinct t := by
  unfold Distinct at hs ⊢
  rcases exec_engine h with ⟨f, ht, hf⟩ | ⟨σ, fields, rfl, ht⟩
  · rw [ht, List.pairwise_map]
    refine hs.imp fun {a b} hab => ?_
    rw [sameIdentity_same (hf a) (hf b)]
    exact hab
  · rw [ht, List.pairwise_cons]
    refine ⟨fun q hq => ?_, hs⟩
    rw [sameIdentity_comm]
    exact (exec_createRecord h).1 q hq

theorem env_distinct {a : Env} (h : env a s = some t) (hs : Distinct s) : Distinct t := by
  unfold Distinct at hs ⊢
  obtain ⟨-, -, -, ⟨hen, -⟩ | ⟨q, -, hq, -, hen⟩⟩ := env_cases h
  · rwa [hen]
  · rw [hen, List.pairwise_cons]
    refine ⟨fun p hp => ?_, hs⟩
    rw [sameIdentity_comm]
    exact hq p hp

/-! ### The versions a statement leaves behind -/

theorem writeIndexed_version {k : Key} {row : Row k} {d : Cell k} (hindex : ∀ i, k ≠ .index i)
    (h : (s.writeIndexed w k row).Version k d) :
    d = ⟨row, s.creatorOf w k, s.current w⟩ ∨ s.Version k d := by
  have hfold : ∀ (entries : List Index) (u : World),
      (entries.foldl (fun s e => s.write w (.index e) ()) u).Version k d → u.Version k d := by
    intro entries
    induction entries with
    | nil => exact fun _ h => h
    | cons e rest ih => exact fun u h => (ih _ h).of_put_ne (hindex e) rfl
  exact (World.Version.of_put rfl (hfold _ _ h)).imp_left fun h => (Option.some.inj h).symm

theorem exec_insert_version {k : Key} {row : Defaults → Row k} {r : Except Exc (Row k)}
    {d : Cell k} (h : exec D w (.insert k row) c s = some (r, t)) (hindex : ∀ i, k ≠ .index i)
    (hd : t.Version k d) :
    (d.row = row c.defaults ∧ d.creator = s.current w) ∨ s.Version k d := by
  rcases exec_insert h with ⟨-, rfl⟩ | ⟨-, hc, -, rfl, -, -⟩
  · exact .inr (hd.of_rollback rfl)
  · refine (writeIndexed_version hindex hd).imp_left ?_
    rintro rfl
    refine ⟨rfl, ?_⟩
    show World.creatorOf s w k = _
    unfold World.creatorOf
    rw [hc]

theorem exec_upsert_version {k : Key} {row : Defaults → Row k} {set : Row k → Row k}
    {r : Except Exc (Row k)} {d : Cell k} (h : exec D w (.upsert k row set) c s = some (r, t))
    (hindex : ∀ i, k ≠ .index i) (hd : t.Version k d) :
    (d.row = row c.defaults ∧ d.creator = s.current w) ∨
      (∃ d', s.cell w k = some d' ∧ d.row = set d'.row ∧ d.creator = d'.creator) ∨
        s.Version k d := by
  rcases exec_upsert h with ⟨-, rfl⟩ | ⟨-, ⟨cell, hc, -, hst⟩ | ⟨hc, -, rfl⟩⟩
  · exact .inr (.inr (hd.of_rollback rfl))
  · refine .inr ((World.Version.of_put hst hd).imp_left fun h => ?_)
    obtain rfl := Option.some.inj h
    refine ⟨cell, hc, rfl, ?_⟩
    show World.creatorOf s w k = _
    unfold World.creatorOf
    rw [hc]
  · refine (writeIndexed_version hindex hd).imp (fun h => ?_) .inr
    obtain rfl := h
    refine ⟨rfl, ?_⟩
    show World.creatorOf s w k = _
    unfold World.creatorOf
    rw [hc]

end

end BaobabErp
