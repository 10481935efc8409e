/-
# What passes the egress guard

In a protected runtime a native write needs the exact request of the innermost
`authorised_native_financial_request` around it, an unspent operation of the
innermost governed scope, and a governed scope around it whose marker names the
action and the company (`requireNativeFinancialAuthority_ok`).

The permits of a run are tied to its scopes by one invariant (`Sound`): a permit
that is set is that of the innermost request scope, a marker that is set is that of
a scope around, and an operation that is not spent is that of the innermost
governed scope, in which nothing was written yet.  Leaving a scope restores what
held where it was entered, and nothing sent inside a scope was sent for an earlier
one; so the invariant is carried by the rule of runs (`Script.run_rel`), and each
governed scope lets one write through at most (`egress_guarded`).
-/

import BaobabErp.Integration.IdempiereClient

namespace BaobabErp
namespace Egress

open Python Scoping

/-! ### The first segment of a path -/

theorem segments_append {s rest : List Char} (hs : ∀ c ∈ s, c ≠ '/')
    (hrest : rest = [] ∨ ∃ r, rest = '/' :: r) : ∃ tail, segments (s ++ rest) = s :: tail := by
  induction s with
  | nil =>
    rcases hrest with rfl | ⟨r, rfl⟩
    · exact ⟨[], rfl⟩
    · exact ⟨segments r, by simp [segments]⟩
  | cons c s ih =>
    obtain ⟨tail, htail⟩ := ih fun d hd => hs d (List.mem_cons_of_mem _ hd)
    have hc : (c == '/') = false := beq_false_of_ne (hs c List.mem_cons_self)
    exact ⟨tail, by simp [segments, hc, htail]⟩

theorem rdropWhile_append_of_last {s rest : List Char} {p : Char → Bool}
    (hs : ∀ c ∈ s, p c = false) : (s ++ rest).rdropWhile p = s ++ rest.rdropWhile p := by
  have hrev : s.reverse.dropWhile p = s.reverse := by
    cases h : s.reverse with
    | nil => rfl
    | cons c cs =>
      have hc : c ∈ s := List.mem_reverse.1 (h ▸ List.mem_cons_self)
      rw [List.dropWhile_cons, hs c hc]
      rfl
  rw [List.rdropWhile, List.rdropWhile, List.reverse_append, List.dropWhile_append]
  split_ifs with hempty
  · have hnil : rest.reverse.dropWhile p = [] := List.isEmpty_iff.1 hempty
    rw [hrev, hnil, List.reverse_reverse, List.reverse_nil, List.append_nil]
  · rw [List.reverse_append, List.reverse_reverse]

/-- The first segment of `/s/…`. -/
theorem segments_stripSlashes {s : List Char} (hne : s ≠ []) (hs : ∀ c ∈ s, c ≠ '/')
    (r : List Char) : ∃ tail, segments (stripSlashes ('/' :: (s ++ '/' :: r))) = s :: tail := by
  have hs' : ∀ c ∈ s, (c == '/') = false := fun c hc => beq_false_of_ne (hs c hc)
  have hdrop : ('/' :: (s ++ '/' :: r)).dropWhile (· == '/') = s ++ '/' :: r := by
    cases s with
    | nil => exact absurd rfl hne
    | cons c s =>
      have hc := hs' c List.mem_cons_self
      simp [hc]
  rw [stripSlashes, hdrop, rdropWhile_append_of_last hs']
  refine segments_append hs ?_
  cases h : ('/' :: r).rdropWhile (· == '/') with
  | nil => exact .inl rfl
  | cons c cs =>
    have hp := List.rdropWhile_prefix (· == '/') ('/' :: r)
    rw [h] at hp
    exact .inr ⟨cs, by rw [(List.cons_prefix_cons.1 hp).1]⟩

/-- Nothing of a text without marks is cut off by `urlsplit`. -/
theorem urlsplit_append {s t : String} (hs : ∀ c ∈ s.toList, c ≠ '#' ∧ c ≠ '?' ∧ c ≠ '\t' ∧
    c ≠ '\r' ∧ c ≠ '\n') : ∃ r, (urlsplit (s ++ t)).path = s.toList ++ r := by
  have hclean : s.toList.filter (fun c => !(c == '\t' || c == '\r' || c == '\n')) = s.toList := by
    refine List.filter_eq_self.2 fun c hc => ?_
    obtain ⟨-, -, h₁, h₂, h₃⟩ := hs c hc
    simp [h₁, h₂, h₃]
  have hcut : ∀ (mark : Char) (r : List Char), (∀ c ∈ s.toList, c ≠ mark) →
      (cutAt mark (s.toList ++ r)).1 = s.toList ++ (cutAt mark r).1 := by
    intro mark r h
    exact List.takeWhile_append_of_pos fun c hc => by simp [h c hc]
  simp only [urlsplit, String.toList_append, List.filter_append, hclean]
  rw [hcut '#' _ fun c hc => (hs c hc).1, hcut '?' _ fun c hc => (hs c hc).2.1]
  exact ⟨_, rfl⟩

/-! ### Native writes -/

/-- The request is for a model or a process, and is no `GET`. -/
def nativeWrite (method target : String) : Bool :=
  ["POST", "PUT", "PATCH", "DELETE"].contains method &&
    ("/models/".toList.isPrefixOf target.toList || "/processes/".toList.isPrefixOf target.toList)

/-- **A models/processes write.** -/
def Exchange.isWrite (x : Exchange) : Bool := nativeWrite x.method x.path

/-- The native action a request performs, `none` when it is none of the known ones. -/
def requestAction (target : String) (keys : List String) : Option String :=
  match segments (stripSlashes (urlsplit target).path) with
  | first :: rest =>
    if first == "models".toList then
      creationActions.lookup (upper (String.ofList (rest.headD [])))
    else completeAction keys
  | [] => none

/-- The action of an exchange, by its path and the names in its document. -/
def Exchange.action (x : Exchange) : Option String :=
  requestAction x.path (match x.body with
    | some (.obj members) => members.map Prod.fst
    | _ => [])

theorem upper_of_write {method target : String} (h : nativeWrite method target = true) :
    ["POST", "PUT", "PATCH", "DELETE"].contains method = true ∧ upper method = method := by
  rw [nativeWrite, Bool.and_eq_true] at h
  have hm := h.1
  rw [List.contains_iff_mem] at hm
  refine ⟨h.1, ?_⟩
  simp only [List.mem_cons, List.not_mem_nil, or_false] at hm
  rcases hm with rfl | rfl | rfl | rfl <;> decide +kernel

theorem segments_of_write {method target : String} (h : nativeWrite method target = true) :
    ∃ first rest, segments (stripSlashes (urlsplit target).path) = first :: rest ∧
      (first == "models".toList || first == "processes".toList) = true := by
  rw [nativeWrite, Bool.and_eq_true, Bool.or_eq_true] at h
  have hfirst : ∀ s : String, ("/" ++ s ++ "/").toList.isPrefixOf target.toList = true →
      s.toList ≠ [] → (∀ c ∈ s.toList, c ≠ '/') →
      (∀ c ∈ ("/" ++ s ++ "/").toList, c ≠ '#' ∧ c ≠ '?' ∧ c ≠ '\t' ∧ c ≠ '\r' ∧ c ≠ '\n') →
      ∃ rest, segments (stripSlashes (urlsplit target).path) = s.toList :: rest := by
    intro s hp hne hslash hmarks
    obtain ⟨t, ht⟩ := List.isPrefixOf_iff_prefix.1 hp
    have htarget : target = "/" ++ s ++ "/" ++ String.ofList t := by
      rw [← String.toList_inj, String.toList_append, String.toList_ofList, ht]
    obtain ⟨r, hr⟩ := urlsplit_append (t := String.ofList t) hmarks
    rw [htarget, hr]
    simpa using segments_stripSlashes hne hslash r
  rcases h.2 with hp | hp
  · obtain ⟨rest, hrest⟩ := hfirst "models" hp (by decide) (by simp) (by simp)
    exact ⟨_, rest, hrest, by decide⟩
  · obtain ⟨rest, hrest⟩ := hfirst "processes" hp (by decide) (by simp) (by simp)
    exact ⟨_, rest, hrest, by decide⟩

/-! ### What the guard asks for -/

theorem deny_ok {refused : Bool} {u : Unit} (h : deny refused = .ok u) : refused = false := by
  cases refused with
  | false => rfl
  | true => cases h

/-- A marker for the company of a session. -/
def Bound (scope : OrderExecution.TenantScope) (credentials : Credentials) : Prop :=
  scope.adClientId = credentials.clientId ∧ scope.adOrgId = credentials.organizationId

theorem bound_of_companyBound {scope : OrderExecution.TenantScope} {credentials : Credentials}
    (h : companyBound scope credentials = true) : Bound scope credentials := by
  simp only [companyBound, Bool.and_eq_true, beq_iff_eq] at h
  exact ⟨h.1.1.1, h.1.1.2⟩

/-- A marker in force names the action, for the company of the session. -/
def Marked (ctx : Context) (action : String) (credentials : Credentials) : Prop :=
  (∃ m, ctx.nativeAction = some m ∧ m.action = action ∧ Bound m.scope credentials) ∨
  (action = "post_customer_invoice" ∧ ∃ m, ctx.invoicePost = some m ∧ Bound m.scope credentials)

theorem requireModel_ok {G : Gate} {ctx : Context} {method : String} {data : Body}
    {credentials : Credentials} {rest : List (List Char)} {u : Unit}
    (h : requireModel G ctx method data credentials rest = .ok u) :
    ∃ action, creationActions.lookup (upper (String.ofList (rest.headD []))) = some action ∧
      Marked ctx action credentials := by
  cases rest with
  | nil => cases h
  | cons segment rest =>
    obtain ⟨_, -, h⟩ := bind_eq_ok h
    obtain ⟨_, -, h⟩ := bind_eq_ok h
    split at h
    · rename_i action native haction hnative
      obtain ⟨_, hmarker, -⟩ := bind_eq_ok h
      have hm := deny_ok hmarker
      rw [Bool.or_eq_false_iff, Bool.not_eq_false', bne_eq_false_iff_eq] at hm
      exact ⟨action, haction, .inl ⟨native, hnative, hm.2, bound_of_companyBound hm.1⟩⟩
    · cases h

theorem requireProcess_ok {G : Gate} {ctx : Context} {method : String} {data : Body}
    {credentials : Credentials} {rest : List (List Char)} {u : Unit}
    (h : requireProcess G ctx method data credentials rest = .ok u) :
    ∃ action, completeAction data.keys = some action ∧ Marked ctx action credentials := by
  unfold requireProcess at h
  split at h
  · obtain ⟨_, -, h⟩ := bind_eq_ok h
    obtain ⟨_, -, h⟩ := bind_eq_ok h
    split at h
    · rename_i action haction
      obtain ⟨_, -, h⟩ := bind_eq_ok h
      obtain ⟨_, -, h⟩ := bind_eq_ok h
      obtain ⟨_, -, h⟩ := bind_eq_ok h
      have hbound := deny_ok h
      rw [Bool.not_eq_false', processBound] at hbound
      refine ⟨action, haction, ?_⟩
      split_ifs at hbound with hpost
      · obtain ⟨m, hm, hc⟩ := (Option.any_eq_true _ _).1 hbound
        exact .inr ⟨by simpa using hpost, m, hm, bound_of_companyBound hc⟩
      · obtain ⟨m, hm, hc⟩ := (Option.any_eq_true _ _).1 hbound
        rw [Bool.and_eq_true, beq_iff_eq] at hc
        exact .inl ⟨m, hm, hc.2, bound_of_companyBound hc.1⟩
    · cases h
  · cases h

theorem requireExactRequest_ok {G : Gate} {ctx ctx' : Context} {method path : String} {body : Body}
    {consume : Bool} (h : requireExactRequest G ctx method path body consume = .ok ctx') :
    ctx.nativeRequest = some (upper method, path, requestDigest G body) ∧
      ctx.nativeActionSpent = false ∧
      ctx' = if consume then { ctx with nativeRequest := none, nativeActionSpent := true }
        else ctx := by
  obtain ⟨_, hreq, h⟩ := bind_eq_ok h
  obtain ⟨_, hspent, h⟩ := bind_eq_ok h
  exact ⟨bne_eq_false_iff_eq.1 (deny_ok hreq), deny_ok hspent, (Except.ok.inj h).symm⟩

/-- **What a write that passes has shown.** -/
theorem requireNativeFinancialAuthority_ok {G : Gate} {ctx ctx' : Context} {method target : String}
    {body : Option Body} {credentials : Credentials} {consume : Bool}
    (hprotected : G.protectedRuntime = true) (hw : nativeWrite method target = true)
    (h : requireNativeFinancialAuthority G ctx method target body credentials consume = .ok ctx') :
    (ctx.nativeRequest = some (method, target, requestDigest G (body.getD Body.empty)) ∧
      ctx.nativeActionSpent = false ∧
      ctx' = if consume then { ctx with nativeRequest := none, nativeActionSpent := true }
        else ctx) ∧
    ∃ action, requestAction target (body.getD Body.empty).keys = some action ∧
      Marked ctx action credentials := by
  obtain ⟨hmethod, hupper⟩ := upper_of_write hw
  obtain ⟨first, rest, hseg, hfirst⟩ := segments_of_write hw
  unfold requireNativeFinancialAuthority at h
  rw [if_neg (by rw [hprotected, hupper, hmethod]; decide)] at h
  simp only [hseg, hfirst, if_true] at h
  obtain ⟨_, -, h⟩ := bind_eq_ok h
  obtain ⟨_, hrules, h⟩ := bind_eq_ok h
  have hexact := requireExactRequest_ok h
  rw [hupper] at hexact
  refine ⟨hexact, ?_⟩
  simp only [requestAction, hseg]
  split_ifs at hrules ⊢ with hmodels
  · exact requireModel_ok hrules
  · exact requireProcess_ok hrules

/-- A request that is no write, or any request before the permit is spent, leaves
the context as it was. -/
theorem requireNativeFinancialAuthority_keeps {G : Gate} {ctx ctx' : Context}
    {method target : String} {body : Option Body} {credentials : Credentials} {consume : Bool}
    (h : requireNativeFinancialAuthority G ctx method target body credentials consume = .ok ctx') :
    ctx' = ctx ∨ ctx' = { ctx with nativeRequest := none, nativeActionSpent := true } := by
  unfold requireNativeFinancialAuthority at h
  split at h
  · exact .inl (Except.ok.inj h).symm
  · simp only at h
    split at h
    · split at h
      · obtain ⟨_, -, h⟩ := bind_eq_ok h
        obtain ⟨_, -, h⟩ := bind_eq_ok h
        have := (requireExactRequest_ok h).2.2
        split_ifs at this
        · exact .inr this
        · exact .inl this
      · exact .inl (Except.ok.inj h).symm
    · exact .inl (Except.ok.inj h).symm

/-! ### Scopes around a point of a run -/

/-- The number of the innermost governed scope. -/
def scopeNumber (path : Path Scope) : Option Nat := (path.find? (·.2.governed)).map Prod.fst

/-- The request of the innermost request scope. -/
def requestInForce (path : Path Scope) : Option Request :=
  path.findSome? fun p => match p.2 with
    | .request r => some r
    | _ => none

/-- The action the marker of a governed scope names. -/
def Scope.action : Scope → Option String
  | nativeAction m => some m.action
  | invoicePost _ => some "post_customer_invoice"
  | request _ => none

/-- The tenant scope of a marker, with its company. -/
def Scope.company : Scope → Option OrderExecution.TenantScope
  | nativeAction m => some m.scope
  | invoicePost m => some m.scope
  | request _ => none

/-- **A write as it was authorised**: it is the request in force, up to the order of
the members of its document; it is in a governed scope; and a governed scope around
it names its action, for the AD_Client and the AD_Org of its session. -/
structure Authorised (e : Sent) : Prop where
  request : ∃ r, requestInForce e.path = some r ∧ upper r.method = e.exchange.method ∧
    r.path = e.exchange.path ∧ ∃ document, e.exchange.body = some document ∧
      document.sortKeys = r.body.image.sortKeys
  governed : (scopeNumber e.path).isSome
  marker : ∃ s ∈ e.path.map Prod.snd, s.action.isSome ∧ s.action = e.exchange.action ∧
    ∃ scope, s.company = some scope ∧ Bound scope e.exchange.credentials

/-! ### The invariant -/

/-- **The permits belong to the scopes around**, and what was sent was authorised. -/
structure Sound (G : Gate) (path : Path Scope) (n : Nat) (w : World) : Prop where
  /-- Every scope around was entered before, and every scope written in. -/
  numbered : ∀ p ∈ path, p.1 < n
  earlier : ∀ e ∈ w.wire, ∀ k, scopeNumber e.path = some k → k < n
  request : ∀ q, w.ctx.nativeRequest = some q → ∃ r, requestInForce path = some r ∧
    q = (upper r.method, r.path, requestDigest G r.body)
  nativeAction : ∀ m, w.ctx.nativeAction = some m → .nativeAction m ∈ path.map Prod.snd
  invoicePost : ∀ m, w.ctx.invoicePost = some m → .invoicePost m ∈ path.map Prod.snd
  /-- An operation that is not spent is that of a scope nothing was written in. -/
  unspent : w.ctx.nativeActionSpent = false → ∃ k, scopeNumber path = some k ∧
    ∀ e ∈ w.wire, e.exchange.isWrite = true → scopeNumber e.path ≠ some k
  authorised : ∀ e ∈ w.wire, e.exchange.isWrite = true → Authorised e
  single : ((w.wire.filter (·.exchange.isWrite)).map (scopeNumber ·.path)).Nodup

/-- **What a part of a run does**: the invariant stays, and what it wrote it wrote
for the innermost governed scope, or for one it entered itself. -/
structure Follows (G : Gate) (path : Path Scope) (σ τ : Nat × World) : Prop where
  le : σ.1 ≤ τ.1
  sound : Sound G path τ.1 τ.2
  wire : ∃ sent, τ.2.wire = σ.2.wire ++ sent ∧ ∀ e ∈ sent, e.exchange.isWrite = true →
    scopeNumber e.path = scopeNumber path ∨ ∃ k, scopeNumber e.path = some k ∧ σ.1 ≤ k

theorem Follows.refl {G : Gate} {path : Path Scope} {σ : Nat × World}
    (h : Sound G path σ.1 σ.2) : Follows G path σ σ :=
  ⟨Nat.le_refl _, h, [], (List.append_nil _).symm, fun _ he => absurd he List.not_mem_nil⟩

theorem Follows.trans {G : Gate} {path : Path Scope} {σ τ ρ : Nat × World}
    (h₁ : Follows G path σ τ) (h₂ : Follows G path τ ρ) : Follows G path σ ρ := by
  obtain ⟨hle₁, -, s₁, hw₁, he₁⟩ := h₁
  obtain ⟨hle₂, hs₂, s₂, hw₂, he₂⟩ := h₂
  refine ⟨Nat.le_trans hle₁ hle₂, hs₂, s₁ ++ s₂, by rw [hw₂, hw₁, List.append_assoc], ?_⟩
  intro e he hwrite
  rcases List.mem_append.1 he with he | he
  · exact he₁ e he hwrite
  · rcases he₂ e he hwrite with h | ⟨k, hk, hle⟩
    · exact .inl h
    · exact .inr ⟨k, hk, by omega⟩

/-! ### Entering and leaving -/

theorem scopeNumber_governed {n : Nat} {s : Scope} {path : Path Scope} (hs : s.governed = true) :
    scopeNumber ((n, s) :: path) = some n := by
  simp [scopeNumber, hs]

theorem scopeNumber_request {n : Nat} {r : Request} {path : Path Scope} :
    scopeNumber ((n, .request r) :: path) = scopeNumber path := by
  simp [scopeNumber, Scope.governed]

theorem requestInForce_governed {n : Nat} {s : Scope} {path : Path Scope}
    (hs : s.governed = true) : requestInForce ((n, s) :: path) = requestInForce path := by
  cases s with
  | request r => cases hs
  | _ => rfl

theorem scopeNumber_lt {path : Path Scope} {n k : Nat} (hn : ∀ p ∈ path, p.1 < n)
    (h : scopeNumber path = some k) : k < n := by
  obtain ⟨p, hp, rfl⟩ := Option.map_eq_some_iff.1 h
  exact hn p (List.mem_of_find?_eq_some hp)

theorem mem_cons_path {n : Nat} {s t : Scope} {path : Path Scope}
    (h : t ∈ path.map Prod.snd) : t ∈ ((n, s) :: path).map Prod.snd :=
  List.mem_cons_of_mem _ h

/-- Inside a scope the permits are still those of the scopes around. -/
theorem Sound.enter {G : Gate} {path : Path Scope} {n : Nat} {w : World} (h : Sound G path n w)
    (s : Scope) : Sound G ((n, s) :: path) (n + 1) { w with ctx := s.enter G w.ctx } := by
  have hnumbered : ∀ p ∈ (n, s) :: path, p.1 < n + 1 := by
    intro p hp
    rcases List.mem_cons.1 hp with rfl | hp
    · exact Nat.lt_succ_self n
    · exact Nat.lt_succ_of_lt (h.numbered p hp)
  have hearlier : ∀ e ∈ w.wire, ∀ k, scopeNumber e.path = some k → k < n + 1 :=
    fun e he k hk => Nat.lt_succ_of_lt (h.earlier e he k hk)
  have hfresh : ∀ e ∈ w.wire, e.exchange.isWrite = true → scopeNumber e.path ≠ some n :=
    fun e he _ hk => Nat.lt_irrefl n (h.earlier e he n hk)
  cases s with
  | nativeAction m =>
    refine ⟨hnumbered, hearlier, ?_, ?_, ?_, ?_, h.authorised, h.single⟩
    · rw [requestInForce_governed rfl]
      exact h.request
    · intro m' hm
      exact (Option.some.inj hm) ▸ List.mem_cons_self
    · exact fun m' hm => mem_cons_path (h.invoicePost m' hm)
    · exact fun _ => ⟨n, scopeNumber_governed rfl, hfresh⟩
  | invoicePost m =>
    refine ⟨hnumbered, hearlier, ?_, ?_, ?_, ?_, h.authorised, h.single⟩
    · rw [requestInForce_governed rfl]
      exact h.request
    · exact fun m' hm => mem_cons_path (h.nativeAction m' hm)
    · intro m' hm
      exact (Option.some.inj hm) ▸ List.mem_cons_self
    · exact fun _ => ⟨n, scopeNumber_governed rfl, hfresh⟩
  | request r =>
    refine ⟨hnumbered, hearlier, ?_, ?_, ?_, ?_, h.authorised, h.single⟩
    · intro q hq
      exact ⟨r, rfl, (Option.some.inj hq).symm⟩
    · exact fun m' hm => mem_cons_path (h.nativeAction m' hm)
    · exact fun m' hm => mem_cons_path (h.invoicePost m' hm)
    · rw [scopeNumber_request]
      exact h.unspent

/-- A marker that is not the scope's own is that of a scope further out. -/
theorem mem_path_of_ne {n : Nat} {s t : Scope} {path : Path Scope}
    (h : t ∈ ((n, s) :: path).map Prod.snd) (hne : t ≠ s) : t ∈ path.map Prod.snd :=
  (List.mem_cons.1 h).resolve_left hne

/-- **Leaving restores the permits of the scopes around**: what was sent inside was
sent for the scope or for a later one. -/
theorem Follows.leave {G : Gate} {path : Path Scope} {s : Scope} {σ τ : Nat × World}
    (h : Sound G path σ.1 σ.2)
    (hin : Follows G ((σ.1, s) :: path) (σ.1 + 1, { σ.2 with ctx := s.enter G σ.2.ctx }) τ) :
    Follows G path σ (τ.1, { τ.2 with ctx := s.leave σ.2.ctx τ.2.ctx }) := by
  obtain ⟨hle, hs, sent, hwire, hsent⟩ := hin
  have hle' : σ.1 ≤ τ.1 := Nat.le_of_succ_le hle
  have hnumbered : ∀ p ∈ path, p.1 < τ.1 := fun p hp => Nat.lt_of_lt_of_le (h.numbered p hp) hle'
  have hsent' : ∀ e ∈ sent, e.exchange.isWrite = true →
      scopeNumber e.path = scopeNumber path ∨ ∃ k, scopeNumber e.path = some k ∧ σ.1 ≤ k := by
    intro e he hw
    rcases hsent e he hw with hk | ⟨k, hk, hlt⟩
    · cases s with
      | request r => exact .inl (hk.trans scopeNumber_request)
      | _ => exact .inr ⟨σ.1, hk.trans (scopeNumber_governed rfl), Nat.le_refl _⟩
    · exact .inr ⟨k, hk, Nat.le_of_succ_le hlt⟩
  -- a governed scope gives back the unspent operation around it
  have hunspent : s.governed = true → σ.2.ctx.nativeActionSpent = false → ∃ k,
      scopeNumber path = some k ∧
        ∀ e ∈ τ.2.wire, e.exchange.isWrite = true → scopeNumber e.path ≠ some k := by
    intro hgov hspent
    obtain ⟨k, hk, hnone⟩ := h.unspent hspent
    have hlt := scopeNumber_lt h.numbered hk
    refine ⟨k, hk, fun e he hw hek => ?_⟩
    rw [hwire] at he
    rcases List.mem_append.1 he with he | he
    · exact hnone e he hw hek
    · rcases hsent e he hw with hj | ⟨j, hj, hlt'⟩
      · rw [scopeNumber_governed hgov, hek] at hj
        exact absurd (Option.some.inj hj) (by omega)
      · rw [hek] at hj
        have hkj := Option.some.inj hj
        omega
  refine ⟨hle', ?_, sent, hwire, hsent'⟩
  cases s with
  | nativeAction m =>
    refine ⟨hnumbered, hs.earlier, ?_, ?_, ?_, hunspent rfl, hs.authorised, hs.single⟩
    · rw [← requestInForce_governed (n := σ.1) (s := .nativeAction m) rfl]
      exact hs.request
    · exact h.nativeAction
    · exact fun m' hm => mem_path_of_ne (hs.invoicePost m' hm) nofun
  | invoicePost m =>
    refine ⟨hnumbered, hs.earlier, ?_, ?_, ?_, hunspent rfl, hs.authorised, hs.single⟩
    · rw [← requestInForce_governed (n := σ.1) (s := .invoicePost m) rfl]
      exact hs.request
    · exact fun m' hm => mem_path_of_ne (hs.nativeAction m' hm) nofun
    · exact h.invoicePost
  | request r =>
    refine ⟨hnumbered, hs.earlier, h.request, ?_, ?_, ?_, hs.authorised, hs.single⟩
    · exact fun m' hm => mem_path_of_ne (hs.nativeAction m' hm) nofun
    · exact fun m' hm => mem_path_of_ne (hs.invoicePost m' hm) nofun
    · rw [← scopeNumber_request (n := σ.1) (r := r)]
      exact hs.unspent

/-! ### Computations of a client -/

section Acts

variable {D : Deployment} {path : Path Scope} {n i : Nat} {α β : Type}

theorem run_bind (x : Act α) (f : α → Act β) (w : World) : (x >>= f).run w =
    match x.run w with
    | (.ok a, w') => (f a).run w'
    | (.error e, w') => (.error e, w') := by
  unfold ExceptT.run
  simp only [bind, ExceptT.bind, ExceptT.mk, StateT.bind, ExceptT.bindCont]
  cases x w with
  | mk result w' => cases result <;> rfl

theorem run_tryCatch (x : Act α) (f : Exc → Act α) (w : World) : (tryCatch x f).run w =
    match x.run w with
    | (.ok a, w') => (.ok a, w')
    | (.error e, w') => (f e).run w' := by
  unfold ExceptT.run
  simp only [tryCatch, tryCatchThe, MonadExceptOf.tryCatch, ExceptT.tryCatch, ExceptT.mk, bind,
    StateT.bind]
  cases x w with
  | mk result w' => cases result <;> rfl

/-- **A computation of a client follows the invariant.** -/
def Keeps (D : Deployment) (path : Path Scope) (n : Nat) (x : Act α) : Prop :=
  ∀ w, Sound D.gate path n w → Follows D.gate path (n, w) (n, (x.run w).2)

theorem Keeps.pure (a : α) : Keeps D path n (pure a : Act α) := fun _ h => .refl h

theorem Keeps.throw (x : Exc) : Keeps D path n (throw x : Act α) := fun _ h => .refl h

theorem Keeps.bind {x : Act α} {f : α → Act β} (hx : Keeps D path n x)
    (hf : ∀ a, Keeps D path n (f a)) : Keeps D path n (x >>= f) := by
  intro w h
  have hw := hx w h
  rw [run_bind]
  rcases hrun : x.run w with ⟨r, w'⟩
  rw [hrun] at hw
  cases r with
  | error e => exact hw
  | ok a => exact hw.trans (hf a w' hw.sound)

theorem Keeps.tryCatch {x : Act α} {f : Exc → Act α} (hx : Keeps D path n x)
    (hf : ∀ e, Keeps D path n (f e)) : Keeps D path n (tryCatch x f) := by
  intro w h
  have hw := hx w h
  rw [run_tryCatch]
  rcases hrun : x.run w with ⟨r, w'⟩
  rw [hrun] at hw
  cases r with
  | ok a => exact hw
  | error e => exact hw.trans (hf e w' hw.sound)

/-- The invariant does not speak of the tokens and the clock. -/
theorem Sound.congr {G : Gate} {w w' : World} (h : Sound G path n w) (hctx : w'.ctx = w.ctx)
    (hwire : w'.wire = w.wire) : Sound G path n w' := by
  obtain ⟨hn, he, hr, ha, hi, hu, hall, hsingle⟩ := h
  rw [← hctx] at hr ha hi hu
  rw [← hwire] at he hu hall hsingle
  exact ⟨hn, he, hr, ha, hi, hu, hall, hsingle⟩

theorem Follows.of_wire {G : Gate} {w w' : World} (h : Sound G path n w')
    (hwire : w'.wire = w.wire) : Follows G path (n, w) (n, w') :=
  ⟨Nat.le_refl n, h, [], by rw [hwire, List.append_nil], fun _ he => absurd he List.not_mem_nil⟩

/-- A computation that only looks at the world, or changes tokens and clock. -/
theorem Keeps.quiet {x : Act α} (hctx : ∀ w, (x.run w).2.ctx = w.ctx)
    (hwire : ∀ w, (x.run w).2.wire = w.wire) : Keeps D path n x :=
  fun w h => .of_wire (h.congr (hctx w) (hwire w)) (hwire w)

theorem Keeps.lift (r : Except Exc α) : Keeps D path n (liftExcept r) :=
  fun _ h => .refl h

theorem Keeps.ofRaises (r : Raises α) : Keeps D path n (ofRaises r) := by
  cases r with
  | ok a => exact .pure a
  | error name => exact .throw _

/-! ### Sending -/

theorem run_send (x : Exchange) (w : World) :
    ((send D path x).run w).2 = { w with wire := w.wire ++ [⟨x, path⟩] } := rfl

/-- What is no write leaves every clause as it is. -/
theorem Sound.sent {w : World} (h : Sound D.gate path n w) {x : Exchange}
    (hx : x.isWrite = false) : Follows D.gate path (n, w) (n, ((send D path x).run w).2) := by
  rw [run_send]
  have hnew : ∀ e ∈ [(⟨x, path⟩ : Sent)], e.exchange.isWrite = true → False := by
    intro e he hw
    rw [List.mem_singleton.1 he, hx] at hw
    cases hw
  refine ⟨Nat.le_refl n, ⟨h.numbered, ?_, h.request, h.nativeAction, h.invoicePost, ?_, ?_, ?_⟩,
    [⟨x, path⟩], rfl, fun e he hw => (hnew e he hw).elim⟩
  · intro e he k hk
    rcases List.mem_append.1 he with he | he
    · exact h.earlier e he k hk
    · rw [List.mem_singleton.1 he] at hk
      exact scopeNumber_lt h.numbered hk
  · intro hspent
    obtain ⟨k, hk, hnone⟩ := h.unspent hspent
    refine ⟨k, hk, fun e he hw => ?_⟩
    rcases List.mem_append.1 he with he | he
    · exact hnone e he hw
    · exact (hnew e he hw).elim
  · intro e he hw
    rcases List.mem_append.1 he with he | he
    · exact h.authorised e he hw
    · exact (hnew e he hw).elim
  · have hfilter : [(⟨x, path⟩ : Sent)].filter (·.exchange.isWrite) = [] := by
      simp [hx]
    rw [List.filter_append, hfilter, List.append_nil]
    exact h.single

/-- The names of a body are those of its document. -/
theorem keys_image (b : Body) : (match some b.image with
    | some (.obj members) => members.map Prod.fst
    | _ => []) = b.keys := by
  simp [Body.image, imageOf, Body.keys]

/-- **A write that has shown its authority** spends the operation of its scope. -/
theorem Sound.written (hsha : ∀ s t, D.gate.sha256 s = D.gate.sha256 t → s = t) {w : World}
    (h : Sound D.gate path n w) {method target : String} {b : Body} {token : Json} {ctx' : Context}
    {action : String}
    (hctx : ctx' = { w.ctx with nativeRequest := none, nativeActionSpent := true })
    (hrequest : w.ctx.nativeRequest = some (method, target, requestDigest D.gate b))
    (hspent : w.ctx.nativeActionSpent = false)
    (haction : requestAction target b.keys = some action)
    (hmarked : Marked w.ctx action (D.clients i)) :
    Follows D.gate path (n, w) (n, ((send D path ⟨method, target, some b.image, some token,
      D.clients i⟩).run { w with ctx := ctx' }).2) := by
  rw [run_send]
  subst hctx
  obtain ⟨r, hr, hq⟩ := h.request _ hrequest
  obtain ⟨k, hk, hnone⟩ := h.unspent hspent
  simp only [Prod.mk.injEq] at hq
  obtain ⟨hmethod, htarget, hdigest⟩ := hq
  have hdocument : b.image.sortKeys = r.body.image.sortKeys :=
    Json.dumps_injective b.loaded r.body.loaded (hsha _ _ hdigest)
  have hnew : Authorised ⟨⟨method, target, some b.image, some token, D.clients i⟩, path⟩ := by
    refine ⟨⟨r, hr, hmethod.symm, htarget.symm, _, rfl, hdocument⟩, by rw [hk]; rfl, ?_⟩
    have hown : (Exchange.mk method target (some b.image) (some token) (D.clients i)).action =
        some action := by
      rw [Exchange.action, keys_image]
      exact haction
    rw [hown]
    rcases hmarked with ⟨m, hm, rfl, hbound⟩ | ⟨rfl, m, hm, hbound⟩
    · exact ⟨_, h.nativeAction m hm, rfl, rfl, _, rfl, hbound⟩
    · exact ⟨_, h.invoicePost m hm, rfl, rfl, _, rfl, hbound⟩
  refine ⟨Nat.le_refl n, ⟨h.numbered, ?_, nofun, h.nativeAction, h.invoicePost, nofun, ?_, ?_⟩,
    _, rfl, fun e he _ => .inl (by rw [List.mem_singleton.1 he])⟩
  · intro e he j hj
    rcases List.mem_append.1 he with he | he
    · exact h.earlier e he j hj
    · rw [List.mem_singleton.1 he] at hj
      exact scopeNumber_lt h.numbered hj
  · intro e he hw
    rcases List.mem_append.1 he with he | he
    · exact h.authorised e he hw
    · rw [List.mem_singleton.1 he]
      exact hnew
  · rw [List.filter_append, List.map_append]
    refine List.Nodup.append h.single ?_ ?_
    · exact (List.nodup_singleton _).sublist (List.Sublist.map _ List.filter_sublist)
    · intro j hj hj'
      obtain ⟨e, he, rfl⟩ := List.mem_map.1 hj
      obtain ⟨e', he', heq⟩ := List.mem_map.1 hj'
      rw [List.mem_singleton.1 (List.mem_filter.1 he').1] at heq
      have hw := List.mem_filter.1 he
      exact hnone e hw.1 hw.2 (heq.symm.trans hk)

/-! ### Logging in -/

theorem keeps_authCall (authPath : String) (hpath : nativeWrite "POST" authPath = false)
    (body : Json) : Keeps D path n (authCall D path i authPath body) := by
  refine .tryCatch (fun w h => h.sent hpath) fun e => ?_
  cases e <;> exact .throw _

theorem keeps_monotonic : Keeps D path n (monotonic D) := .quiet (fun _ => rfl) fun _ => rfl

theorem keeps_get : Keeps D path n (get : Act World) := .quiet (fun _ => rfl) fun _ => rfl

theorem keeps_storeTokenResponse (response : Json) :
    Keeps D path n (storeTokenResponse D i response) :=
  .bind (.ofRaises _) fun _ => .bind (.ofRaises _) fun _ => .bind (.ofRaises _) fun _ =>
    .bind keeps_monotonic fun _ => .bind keeps_get fun _ =>
      .bind (.quiet (fun _ => rfl) fun _ => rfl) fun _ => .pure _

theorem keeps_authenticate : Keeps D path n (authenticate D path i) :=
  .bind (keeps_authCall _ (by decide +kernel) _) fun _ => keeps_storeTokenResponse _

theorem keeps_refresh : Keeps D path n (refresh D path i) :=
  .bind keeps_get fun _ =>
    .bind (keeps_authCall _ (by decide +kernel) _) fun _ => keeps_storeTokenResponse _

theorem keeps_renewToken : Keeps D path n (renewToken D path i) := by
  refine .bind keeps_get fun w => ?_
  split
  · exact keeps_authenticate
  · refine .tryCatch keeps_refresh fun e => ?_
    cases e with
    | authentication => exact keeps_authenticate
    | _ => exact .throw _

theorem keeps_ensureToken : Keeps D path n (ensureToken D path i) := by
  refine .bind keeps_get fun w => ?_
  dsimp only
  split
  · exact keeps_renewToken
  · refine .bind keeps_monotonic fun now => ?_
    split
    · exact .pure _
    · exact keeps_renewToken

/-! ### Requests -/

theorem run_requireAuthority (method target : String) (body : Option Body) (consume : Bool)
    (w : World) : (requireAuthority D i method target body consume).run w =
      match requireNativeFinancialAuthority D.gate w.ctx method target body (D.clients i) consume with
      | .ok ctx => (.ok (), { w with ctx := ctx })
      | .error x => (.error x, w) := by
  unfold requireAuthority
  rw [run_bind]
  change (liftExcept _ >>= _ : Act Unit).run w = _
  rw [run_bind]
  cases requireNativeFinancialAuthority D.gate w.ctx method target body (D.clients i) consume <;> rfl

/-- A check leaves the permit or spends it. -/
theorem keeps_requireAuthority (method target : String) (body : Option Body) (consume : Bool) :
    Keeps D path n (requireAuthority D i method target body consume) := by
  intro w h
  rw [run_requireAuthority]
  split
  · rename_i ctx hctx
    refine .of_wire ?_ rfl
    rcases requireNativeFinancialAuthority_keeps hctx with rfl | rfl
    · exact h
    · exact ⟨h.numbered, h.earlier, nofun, h.nativeAction, h.invoicePost, nofun, h.authorised,
        h.single⟩
  · exact .refl h

variable (hprotected : D.gate.protectedRuntime = true)
  (hsha : ∀ s t, D.gate.sha256 s = D.gate.sha256 t → s = t)

include hprotected hsha

/-- **One request**: checked, its permit spent, and sent. -/
theorem keeps_rawRequest {method target : String} {body : Option Body}
    (hbody : nativeWrite method target = true → ∃ b, body = some b) (token : Json) :
    Keeps D path n (rawRequest D path i method target body token) := by
  by_cases hw : nativeWrite method target = true
  · obtain ⟨b, rfl⟩ := hbody hw
    intro w h
    have hcheck := keeps_requireAuthority (D := D) (i := i) method target (some b) true w h
    unfold rawRequest
    rw [run_bind]
    rw [run_requireAuthority] at hcheck ⊢
    cases hreq : requireNativeFinancialAuthority D.gate w.ctx method target (some b) (D.clients i)
      true with
    | error x => exact .refl h
    | ok ctx =>
      rw [hreq] at hcheck
      obtain ⟨⟨hrequest, hspent, hctx⟩, action, haction, hmarked⟩ :=
        requireNativeFinancialAuthority_ok hprotected hw hreq
      change Follows _ _ _ (n, ((liftExcept (dumpsBody (some b)) >>= _ : Act Json).run _).2)
      rw [run_bind]
      cases hs : b.serialisable with
      | false =>
        simp only [dumpsBody, hs]
        exact hcheck
      | true =>
        simp only [dumpsBody, hs]
        exact h.written hsha hctx hrequest hspent haction hmarked
  · exact .bind (keeps_requireAuthority _ _ _ _) fun _ => .bind (.lift _) fun _ w h =>
      h.sent (Bool.eq_false_iff.2 hw)

/-- **One call**, with the second login and the second try a 401 leads to. -/
theorem keeps_clientCall {method target : String} {body : Option Body}
    (hbody : nativeWrite method target = true → ∃ b, body = some b) :
    Keeps D path n (clientCall D path i method target body) := by
  have hraw : ∀ token, Keeps D path n (rawRequest D path i method target body token) :=
    keeps_rawRequest hprotected hsha hbody
  refine .bind (keeps_requireAuthority _ _ _ _) fun _ => .bind keeps_ensureToken fun token => ?_
  refine .tryCatch (hraw token) fun e => ?_
  cases e with
  | authentication => exact .bind keeps_authenticate fun token => hraw token
  | _ => exact .throw _

theorem keeps_act (c : Call) : Keeps D path n (c.act D path) := by
  have hget : ∀ target, nativeWrite "GET" target = true → ∃ b : Body, none = some b :=
    fun target h => by
      rw [nativeWrite, Bool.and_eq_true] at h
      exact absurd h.1 (by decide)
  cases c with
  | getRecord i table recordId => exact keeps_clientCall hprotected hsha (hget _)
  | page i table parameters => exact keeps_clientCall hprotected hsha (hget _)
  | createRecord i table fields =>
    exact .bind (keeps_clientCall hprotected hsha fun _ => ⟨fields, rfl⟩) fun _ =>
      .bind (.ofRaises _) fun _ => .bind (.ofRaises _) fun _ => .pure _
  | updateRecord i table recordId fields =>
    exact .bind (keeps_clientCall hprotected hsha fun _ => ⟨fields, rfl⟩) fun _ => .pure _
  | executeProcess i processId parameters =>
    exact keeps_clientCall hprotected hsha fun _ => ⟨parameters, rfl⟩

/-- Every part of a program follows the invariant. -/
theorem run_follows (p : Program) (path : Path Scope) (σ : Nat × World)
    (h : Sound D.gate path σ.1 σ.2) : Follows D.gate path σ (p.run (semantics D) path σ).2 := by
  refine Script.run_rel (S := semantics D)
    (R := fun path σ τ => Sound D.gate path σ.1 σ.2 → Follows D.gate path σ τ) (fun _ _ h => .refl h)
    (fun h₁ h₂ h => (h₁ h).trans (h₂ (h₁ h).sound)) (fun path c σ h => ?_) (fun h hs => ?_) p path σ h
  · exact keeps_act hprotected hsha c σ.2 h
  · exact Follows.leave hs (h (hs.enter _))

end Acts

/-! ### The result -/

theorem sound_initial (G : Gate) : Sound G [] 0 World.initial where
  numbered := nofun
  earlier := nofun
  request := nofun
  nativeAction := nofun
  invoicePost := nofun
  unspent := nofun
  authorised := nofun
  single := List.nodup_nil

/-- The writes of a program that reached the wire. -/
def Deployment.writes (D : Deployment) (p : Program) : List Sent :=
  (D.run p).wire.filter (·.exchange.isWrite)

/-- **The egress guard.**  In a protected runtime every native write of every program
was authorised as it was sent, in a governed scope, and no two writes have the same
innermost governed scope. -/
theorem egress_guarded (D : Deployment) (hprotected : D.gate.protectedRuntime = true)
    (hsha : ∀ s t, D.gate.sha256 s = D.gate.sha256 t → s = t) (p : Program) :
    (∀ e ∈ D.writes p, Authorised e) ∧ ((D.writes p).map (scopeNumber ·.path)).Nodup := by
  have h := (run_follows hprotected hsha p [] (0, World.initial) (sound_initial D.gate)).sound
  refine ⟨fun e he => ?_, h.single⟩
  obtain ⟨hmem, hw⟩ := List.mem_filter.1 he
  exact h.authorised e hmem hw

/-! ### A payment whose token was rejected -/

/-- A payment of ten shillings, to partner 7. -/
def paymentFields : Body where
  members := [("C_BPartner_ID", .json (.int 7)), ("PayAmt", .json (.str "10.00")),
    ("CurrencyISO", .json (.str "KES"))]
  nodup := by decide
  loaded := ⟨trivial, trivial, trivial, trivial⟩

/-- Company 11, organisation 12.  The engine knows every login and answers the first
request that is none with 401. -/
def rejecting : Deployment where
  gate := ⟨id, ⟨fun _ => none, fun _ _ => .eq, fun _ => true, id⟩, true, fun _ => ""⟩
  network :=
    { reply := fun sent => match sent.getLast? with
        | some ⟨⟨_, "/auth/tokens", _, _, _⟩, _⟩ => .value (.obj [("token", .str "t")])
        | _ => .error 401 (.obj [])
      clock := fun n => n }
  clients := fun _ => ⟨"https://engine/api/v1", "erp", "secret", 11, 1, 12, none, "en_US"⟩

/-- The payment is created twice in one governed scope, each time as it was authorised. -/
def payTwice : Program :=
  let request := Scope.request ⟨"POST", "/models/C_Payment", paymentFields⟩
  let create : Program := .call (.createRecord 0 "C_Payment" paymentFields) .ret
  .within (.nativeAction ⟨⟨"t-1", "le-1", 11, 12⟩, "create_payment", "pay-1"⟩)
    (.within request create fun _ => .within request create .ret) .ret

/-- One write goes out: the new login brings no second try, nor the second call. -/
theorem payment_written_once : (rejecting.writes payTwice).length = 1 ∧
    (∀ e ∈ rejecting.writes payTwice, Authorised e) ∧
    ((rejecting.writes payTwice).map (scopeNumber ·.path)).Nodup :=
  ⟨by decide +kernel, egress_guarded rejecting rfl (fun _ _ h => h) payTwice⟩

end Egress
end BaobabErp
