/-
# How a call of the REST client goes wrong

What one HTTP request can come to, from the connection to the last byte of its body, and
what `_send`, `_auth_call` and `_call` of `modules/integration/idempiere_client.py` make of
it.  A call sends up to four requests; **what it raises is decided by the last one it
sent** (`talks_act`), or is an exception of its own that is no answer of the engine.
-/

import BaobabErp.Integration.ListRequest

namespace BaobabErp
namespace Egress

open Python Scoping

/-! ### One request -/

/-- Why `json.loads` refuses a body: each of these is a `ValueError`. -/
inductive Unreadable
  | notJson
  | notText
  /-- A number of more digits than `int` takes. -/
  | number
deriving DecidableEq

def Unreadable.name : Unreadable → String
  | notJson => "JSONDecodeError"
  | notText => "UnicodeDecodeError"
  | number => "ValueError"

/-- How a connection ends before the whole answer is there: `OSError`s and
`HTTPException`s. -/
inductive Break
  | timeout
  | reset
  | disconnected
  | incomplete
  | garbled
deriving DecidableEq

def Break.name : Break → String
  | timeout => "TimeoutError"
  | reset => "ConnectionResetError"
  | disconnected => "RemoteDisconnected"
  | incomplete => "IncompleteRead"
  | garbled => "BadStatusLine"

/-- The body of an answer, as it is read and given to `json.loads`. -/
inductive Content
  | document (j : Json)
  | empty
  | unreadable (why : Unreadable)
  /-- `RecursionError`. -/
  | nested
  /-- The connection ends while it is read. -/
  | cut (how : Break)

/-- **What a request comes to.**  A redirect that `urlopen` follows is part of one request;
`answered` is the answer it ends with. -/
inductive Ending
  /-- No connection, or it fails while the request is sent: `URLError`. -/
  | unreachable
  /-- It fails while the answer is awaited. -/
  | broken (how : Break)
  | answered (status : Nat) (content : Content)

namespace Ending

/-- A status `urlopen` returns; any other is raised, as an `HTTPError`. -/
def success (status : Nat) : Bool := 200 ≤ status && status ≤ 299

/-- What `urlopen`, `read` and `json.loads` give, in `_send` and in `_read_error_body`. -/
def reply : Ending → Reply
  | unreachable => .unreachable
  | broken how => .raised how.name
  | answered status content =>
    match content with
    | .nested => .raised "RecursionError"
    | .cut how => .raised how.name
    | .document j => if success status then .value j else .error status j
    | .empty => if success status then .value (.obj []) else .error status (.obj [])
    | .unreadable why => if success status then .raised why.name else .error status (.obj [])

/-- **Trouble**: it went wrong and the engine did not refuse the request. -/
def trouble : Ending → Bool
  | unreachable => true
  | broken _ => true
  | answered status content =>
    if success status then match content with
      | .unreadable _ => true
      | .nested => true
      | .cut _ => true
      | _ => false
    else 500 ≤ status || status = 408 || status = 425 || status = 429

/-- **A definite refusal**: a status of 400 to 499 that does not ask to try again. -/
def refusal : Ending → Bool
  | answered status _ => 400 ≤ status && status ≤ 499 && status ≠ 408 && status ≠ 425 && status ≠ 429
  | _ => false

end Ending

/-- What the client raises for a request that came to that. -/
def fault (s : Sent) (e : Ending) : Option Exc :=
  match outcome e.reply with
  | .ok _ => none
  | .error (.api status) => some (if s.exchange.bearer = none then .authentication else .api status)
  | .error x => some x

/-! ### What a computation of the client raises -/

section Talks

variable {D : Deployment} {path : Path Scope} {i : Nat} {ends : List Sent → Ending} {α β : Type}

/-- **The last request decides**: what was raised is its fault; where it has none, or none
was sent, it is no `IdempiereApiError`. -/
def Told (ends : List Sent → Ending) (before sent : List Sent) (r : Except Exc α) : Prop :=
  match sent.getLast?.bind fun s => fault s (ends (before ++ sent)) with
  | some x => r = .error x
  | none => ∀ status, r ≠ .error (.api status)

/-- A computation that ends as its last request tells. -/
def Talks (ends : List Sent → Ending) (x : Act α) : Prop :=
  ∀ w, ∃ sent, (x.run w).2.wire = w.wire ++ sent ∧ Told ends w.wire sent (x.run w).1

/-- A computation that sends something. -/
def Sends (x : Act α) : Prop := ∀ w, (x.run w).2.wire ≠ w.wire

/-- Nothing is sent, and what is raised is no `IdempiereApiError`. -/
theorem Talks.quiet {x : Act α} (hwire : ∀ w, (x.run w).2.wire = w.wire)
    (hraised : ∀ w status, (x.run w).1 ≠ .error (.api status)) : Talks ends x := by
  intro w
  refine ⟨[], ?_, hraised w⟩
  rw [hwire, List.append_nil]

theorem Talks.pure (a : α) : Talks ends (pure a : Act α) := .quiet (fun _ => rfl) fun _ _ => nofun

theorem Talks.throw {x : Exc} (hx : ∀ status, x ≠ .api status) : Talks ends (throw x : Act α) := by
  refine .quiet (fun _ => rfl) fun w status h => ?_
  exact hx status (Except.error.inj h)

theorem Talks.lift {r : Except Exc α} (hr : ∀ status, r ≠ .error (.api status)) :
    Talks ends (liftExcept r) := .quiet (fun _ => rfl) fun _ => hr

theorem Talks.ofRaises (r : Raises α) : Talks ends (ofRaises r) := by
  cases r with
  | ok a => exact .pure a
  | error name => exact .throw nofun

theorem Talks.get : Talks ends (get : Act World) := .quiet (fun _ => rfl) fun _ _ => nofun

theorem told_append {before sent more : List Sent} {r : Except Exc α} (hmore : more ≠ []) :
    Told ends before (sent ++ more) r ↔ Told ends (before ++ sent) more r := by
  unfold Told
  rw [List.getLast?_append_of_ne_nil _ hmore, List.append_assoc]

/-- One computation after another: the last request is that of the second, if it sent any. -/
theorem Talks.bind {x : Act α} {f : α → Act β} (hx : Talks ends x) (hf : ∀ a, Talks ends (f a)) :
    Talks ends (x >>= f) := by
  intro w
  obtain ⟨sent, hwire, htold⟩ := hx w
  rw [run_bind]
  rcases hrun : x.run w with ⟨y | a, w₁⟩ <;> rw [hrun] at hwire htold
  · refine ⟨sent, hwire, ?_⟩
    unfold Told at htold ⊢
    split at htold
    · exact congrArg Except.error (Except.error.inj htold)
    · exact fun status h => htold status (congrArg Except.error (Except.error.inj h))
  · dsimp only at hwire htold ⊢
    obtain ⟨more, hmore, htold'⟩ := hf a w₁
    refine ⟨sent ++ more, by rw [hmore, hwire, List.append_assoc], ?_⟩
    rw [hwire] at htold'
    by_cases hnil : more = []
    · subst hnil
      rw [List.append_nil]
      unfold Told at htold htold' ⊢
      split at htold
      · cases htold
      · exact htold'
    · exact (told_append hnil).2 htold'

theorem Sends.bind {x : Act α} {f : α → Act β} (hx : Talks ends x) (hs : Sends x)
    (hf : ∀ a, Talks ends (f a)) : Sends (x >>= f) := by
  intro w
  obtain ⟨sent, hwire, -⟩ := hx w
  have hsome := hs w
  rw [run_bind]
  rcases hrun : x.run w with ⟨y | a, w₁⟩ <;> rw [hrun] at hwire hsome
  · exact hsome
  · dsimp only at hwire hsome ⊢
    obtain ⟨more, hmore, -⟩ := hf a w₁
    rw [hmore, hwire, List.append_assoc]
    rw [hwire] at hsome
    intro heq
    have hnil := List.append_eq_nil_iff.1 (List.append_cancel_left (heq.trans (List.append_nil _).symm))
    rw [hnil.1, List.append_nil] at hsome
    exact hsome rfl

/-- **A second try**, which sends something, after what the engine does not authorise. -/
theorem Talks.retry {x y : Act α} (hx : Talks ends x) (hy : Talks ends y) (hs : Sends y) :
    Talks ends (tryCatch x fun
      | .authentication => y
      | e => MonadExcept.throw e) := by
  intro w
  obtain ⟨sent, hwire, htold⟩ := hx w
  rw [run_tryCatch]
  rcases hrun : x.run w with ⟨e | a, w₁⟩ <;> rw [hrun] at hwire htold
  · cases e with
    | authentication =>
      dsimp only at hwire htold ⊢
      obtain ⟨more, hmore, htold'⟩ := hy w₁
      refine ⟨sent ++ more, by rw [hmore, hwire, List.append_assoc], ?_⟩
      rw [hwire] at htold'
      refine (told_append ?_).2 htold'
      rintro rfl
      exact hs w₁ (hmore.trans (List.append_nil _))
    | _ => exact ⟨sent, hwire, htold⟩
  · exact ⟨sent, hwire, htold⟩

/-! ### The guard -/

/-- Nothing but a denial is raised. -/
def OnlyDenies (r : Except Exc α) : Prop := ∀ x, r = .error x → x = .denied

theorem OnlyDenies.ok (a : α) : OnlyDenies (.ok a : Except Exc α) := nofun

theorem OnlyDenies.denied : OnlyDenies (.error .denied : Except Exc α) := fun _ h => (Except.error.inj h).symm

theorem OnlyDenies.bind {r : Except Exc α} {f : α → Except Exc β} (hr : OnlyDenies r)
    (hf : ∀ a, OnlyDenies (f a)) : OnlyDenies (r >>= f) := by
  cases r with
  | ok a => exact hf a
  | error x => exact fun y h => hr y (congrArg Except.error (Except.error.inj h))

theorem onlyDenies_deny (refused : Bool) : OnlyDenies (deny refused) := by
  cases refused
  · exact .ok ()
  · exact .denied

theorem onlyDenies_guard (G : Gate) (ctx : Context) (method target : String) (body : Option Body)
    (credentials : Credentials) (consume : Bool) :
    OnlyDenies (requireNativeFinancialAuthority G ctx method target body credentials consume) := by
  have hexact : ∀ data, OnlyDenies (requireExactRequest G ctx method target data consume) := fun data =>
    .bind (onlyDenies_deny _) fun _ => .bind (onlyDenies_deny _) fun _ => .ok _
  have hmodel : ∀ data rest, OnlyDenies (requireModel G ctx method data credentials rest) := by
    intro data rest
    cases rest with
    | nil => exact .denied
    | cons segment rest =>
      refine .bind (onlyDenies_deny _) fun _ => .bind (onlyDenies_deny _) fun _ => ?_
      split
      · exact .bind (onlyDenies_deny _) fun _ => .bind (onlyDenies_deny _) fun _ =>
          .bind (onlyDenies_deny _) fun _ => onlyDenies_deny _
      · exact .denied
  have hprocess : ∀ data rest, OnlyDenies (requireProcess G ctx method data credentials rest) := by
    intro data rest
    unfold requireProcess
    split
    · refine .bind (onlyDenies_deny _) fun _ => .bind (onlyDenies_deny _) fun _ => ?_
      split
      · exact .bind (onlyDenies_deny _) fun _ => .bind (onlyDenies_deny _) fun _ =>
          .bind (onlyDenies_deny _) fun _ => onlyDenies_deny _
      · exact .denied
    · exact .denied
  unfold requireNativeFinancialAuthority
  split
  · exact .ok _
  · dsimp only
    split
    · split
      · refine .bind (onlyDenies_deny _) fun _ => .bind ?_ fun _ => hexact _
        split
        · exact hmodel _ _
        · exact hprocess _ _
      · exact .ok _
    · exact .ok _

theorem talks_requireAuthority (method target : String) (body : Option Body) (consume : Bool) :
    Talks ends (requireAuthority D i method target body consume) := by
  refine .quiet (fun w => ?_) fun w status h => ?_
  · rw [run_requireAuthority]
    split <;> rfl
  · rw [run_requireAuthority] at h
    split at h
    · cases h
    · next x hx =>
      have hdenied := onlyDenies_guard _ _ _ _ _ _ _ x hx
      rw [hdenied] at h
      cases h

/-! ### Logging in -/

theorem sends_authCall (authPath : String) (body : Json) :
    Sends (authCall D path i authPath body) := by
  intro w
  unfold authCall
  rw [run_tryCatch, run_send_eq]
  split
  · next h =>
    rw [← (Prod.mk.inj h).2]
    simp
  · next e w' h =>
    rw [← (Prod.mk.inj h).2]
    cases e <;> exact fun h => List.cons_ne_nil _ _ (List.append_right_eq_self.1 h)

theorem talks_storeTokenResponse (response : Json) :
    Talks ends (storeTokenResponse D i response) :=
  .bind (.ofRaises _) fun _ => .bind (.ofRaises _) fun _ => .bind (.ofRaises _) fun _ =>
    .bind (.quiet (fun _ => rfl) fun _ _ => nofun) fun _ => .bind .get fun _ =>
      .bind (.quiet (fun _ => rfl) fun _ _ => nofun) fun _ => .pure _

variable (hends : ∀ wire, D.network.reply wire = (ends wire).reply)

include hends

theorem talks_send (x : Exchange) (hx : x.bearer ≠ none) : Talks ends (send D path x) := by
  intro w
  refine ⟨[⟨x, path⟩], rfl, ?_⟩
  unfold Told
  rw [run_send_eq, List.getLast?_singleton, hends]
  dsimp only [Option.bind]
  unfold fault
  cases houtcome : outcome (ends (w.wire ++ [⟨x, path⟩])).reply with
  | ok j => exact fun _ => nofun
  | error e =>
    cases e with
    | api status =>
      dsimp only
      rw [if_neg hx]
    | _ => rfl

/-- A refused login is no `IdempiereApiError`. -/
theorem talks_authCall (authPath : String) (body : Json) :
    Talks ends (authCall D path i authPath body) := by
  intro w
  refine ⟨[⟨⟨"POST", authPath, some body, none, D.clients i⟩, path⟩], ?_, ?_⟩
  · unfold authCall
    rw [run_tryCatch, run_send_eq]
    split
    · next h => rw [← (Prod.mk.inj h).2]
    · next e w' h =>
      rw [← (Prod.mk.inj h).2]
      cases e <;> rfl
  · unfold authCall Told
    rw [run_tryCatch, run_send_eq, List.getLast?_singleton, hends]
    dsimp only [Option.bind]
    unfold fault
    cases outcome (ends (w.wire ++ [⟨⟨"POST", authPath, some body, none, D.clients i⟩, path⟩])).reply with
    | ok j => exact fun _ => nofun
    | error e => cases e <;> rfl

theorem talks_authenticate : Talks ends (authenticate D path i) :=
  .bind (talks_authCall hends _ _) fun _ => talks_storeTokenResponse _

theorem sends_authenticate : Sends (authenticate D path i) :=
  .bind (talks_authCall hends _ _) (sends_authCall _ _) fun _ => talks_storeTokenResponse _

theorem talks_renewToken : Talks ends (renewToken D path i) := by
  refine .bind .get fun w => ?_
  split
  · exact talks_authenticate hends
  · refine .retry ?_ (talks_authenticate hends) (sends_authenticate hends)
    exact .bind .get fun _ => .bind (talks_authCall hends _ _) fun _ =>
      talks_storeTokenResponse _

theorem talks_ensureToken : Talks ends (ensureToken D path i) := by
  refine .bind .get fun w => ?_
  dsimp only
  split
  · exact talks_renewToken hends
  · refine .bind (.quiet (fun _ => rfl) fun _ _ => nofun) fun now => ?_
    split
    · exact .pure _
    · exact talks_renewToken hends

/-! ### Requests -/

theorem talks_rawRequest (method target : String) (body : Option Body) (token : Json) :
    Talks ends (rawRequest D path i method target body token) := by
  refine .bind (talks_requireAuthority _ _ _ _) fun _ => .bind (.lift ?_) fun _ => ?_
  · intro status h
    unfold dumpsBody at h
    split at h
    · cases h
    · split at h <;> cases h
  · exact talks_send hends _ nofun

/-- **One call**: what it raises is what its last request came to. -/
theorem talks_clientCall (method target : String) (body : Option Body) :
    Talks ends (clientCall D path i method target body) := by
  refine .bind (talks_requireAuthority _ _ _ _) fun _ => .bind (talks_ensureToken hends) fun token => ?_
  refine .retry (talks_rawRequest hends _ _ _ _) ?_ ?_
  · exact .bind (talks_authenticate hends) fun _ => talks_rawRequest hends _ _ _ _
  · exact .bind (talks_authenticate hends) (sends_authenticate hends) fun _ =>
      talks_rawRequest hends _ _ _ _

end Talks

/-! ### The methods that provisioning calls -/

/-- **A call of the client**, by one of the methods of `ProvisioningIdempiereClient`. -/
inductive Method
  | query (table : String) (conditions : List RestQuery.Eq) (select : List String)
  | getRecord (table : String) (recordId : Int)
  | createRecord (table : String) (fields : Body)
  | executeProcess (processId : Int) (parameters : Body)

/-- What the method does; what it returns is left out. -/
def Method.act (D : Deployment) (path : Path Scope) (i : Nat) : Method → Act Unit
  | query table conditions select => do
    let _ ← Egress.query D path i table conditions select
    pure ()
  | getRecord table recordId => do
    let _ ← (Call.getRecord i table recordId).act D path
    pure ()
  | createRecord table fields => do
    let _ ← (Call.createRecord i table fields).act D path
    pure ()
  | executeProcess processId parameters => do
    let _ ← (Call.executeProcess i processId parameters).act D path
    pure ()

section Methods

variable {D : Deployment} {path : Path Scope} {i : Nat} {ends : List Sent → Ending}
  (hends : ∀ wire, D.network.reply wire = (ends wire).reply)

theorem talks_recordsOf (page : Json) : Talks ends (recordsOf page) := by
  refine .bind (.ofRaises _) fun records => ?_
  split
  · split
    · exact .pure _
    · exact .throw nofun
  · exact .throw nofun

theorem talks_ofFilter {α : Type} (r : Except RestQuery.FilterError α) :
    Talks ends (ofFilter r) := by
  cases r with
  | ok a => exact .pure a
  | error x => exact .throw nofun

include hends

theorem talks_nextPage (table : String) (conditions : List RestQuery.Eq) (select : List String)
    (found : List Members) : Talks ends (nextPage D path i table conditions select found) :=
  .bind (talks_ofFilter _) fun _ => .bind (talks_clientCall hends _ _ _) fun _ =>
    .bind (talks_recordsOf _) fun _ => .bind (.ofRaises _) fun _ => .pure _

/-- The loop of `query`, by the records that may still come. -/
theorem talks_fetch (table : String) (conditions : List RestQuery.Eq) (select : List String)
    (found : List Members) : Talks ends (fetch D path i table conditions select found) := by
  induction found using fetch.induct with
  | case1 found ih =>
    rw [fetch]
    refine .bind (talks_nextPage hends _ _ _ _) fun page => ?_
    obtain ⟨batch, total⟩ := page
    dsimp only
    split
    · exact .throw fun _ h => by cases h
    · split
      · exact .pure _
      · exact ih batch total (by assumption) (by assumption)

theorem talks_query (table : String) (conditions : List RestQuery.Eq) (select : List String) :
    Talks ends (query D path i table conditions select) := by
  unfold query
  split
  · exact .throw nofun
  · exact talks_fetch hends _ _ _ _

/-- **Whatever a method raises is decided by the last request it sent.** -/
theorem talks_act (m : Method) : Talks ends (m.act D path i) := by
  cases m with
  | query table conditions select => exact .bind (talks_query hends _ _ _) fun _ => .pure _
  | getRecord table recordId => exact .bind (talks_clientCall hends _ _ _) fun _ => .pure _
  | createRecord table fields =>
    refine .bind ?_ fun _ => .pure _
    exact .bind (talks_clientCall hends _ _ _) fun _ => .bind (.ofRaises _) fun _ =>
      .bind (.ofRaises _) fun _ => .pure _
  | executeProcess processId parameters =>
    exact .bind (talks_clientCall hends _ _ _) fun _ => .pure _

end Methods

end Egress
end BaobabErp
