/-
# A list request, page by page

`RestIdempiereClient.query` of `modules/integration/idempiere_client.py`.  It asks
for a hundred records at a time and stops at a page of fewer, or when it has as many
records as the engine counts.

An engine may give fewer than it is asked for.  **The query returns every record or
raises for every engine that counts truthfully exactly when a page may hold a hundred
records, or one page holds them all** (`query_complete_iff`): under a smaller cap
every page is a short one, and the first page is taken for the last.
-/

import BaobabErp.Integration.EgressGuard
import BaobabErp.Integration.Filter

namespace BaobabErp
namespace Egress

open Python Scoping RestQuery

/-! ### The parameters of a request -/

/-- `'%{:02X}'.format(byte)`. -/
def byteText (b : UInt8) : List Char :=
  let digit := fun n => "0123456789ABCDEF".toList.getD n '0'
  ['%', digit (b.toNat / 16), digit (b.toNat % 16)]

/-- `urllib.parse.quote(text, safe="")`. -/
def urlQuote (text : String) : List Char :=
  text.toList.flatMap fun c =>
    if isAsciiAlnum c || c == '_' || c == '.' || c == '-' || c == '~' then [c]
    else (String.utf8EncodeChar c).flatMap byteText

/-- `urllib.parse.urlencode(params, quote_via=quote)`. -/
def urlencode : List (String × String) → List Char
  | [] => []
  | [p] => urlQuote p.1 ++ '=' :: urlQuote p.2
  | p :: ps => urlQuote p.1 ++ '=' :: (urlQuote p.2 ++ '&' :: urlencode ps)

/-- `_PAGE_SIZE`. -/
def pageSize : Nat := 100

/-- `_MAX_RECORDS`. -/
def maxRecords : Nat := 5000

/-- `params`, as they are sent. -/
def listParameters (conditions : List RestQuery.Eq) (select : List String) (skip : Nat) :
    Except FilterError String := do
  let filter ← buildFilter conditions
  return String.ofList (urlencode [("$filter", filter), ("$select", String.intercalate "," select),
    ("$top", toString pageSize), ("$skip", toString skip)])

/-- The path of a request. -/
def listPath (table parameters : String) : String := "/models/" ++ table ++ "?" ++ parameters

/-! ### The loop -/

/-- A record, as its members. -/
abbrev Members := List (String × Json)

/-- `isinstance(value, dict)`, and the dictionary. -/
def membersOf : Json → Option Members
  | .obj members => some members
  | _ => none

/-- `batch`: the records of a page, all of them dictionaries. -/
def recordsOf (page : Json) : Act (List Members) := do
  match ← ofRaises (page.getMember "records") with
  | some (.arr batch) =>
    match batch.mapM membersOf with
    | some records => pure records
    | none => throw .client
  | _ => throw .client

/-- `isinstance(total, int) and n >= total`. -/
def reaches (n : Nat) : Option Json → Bool
  | some (.int total) => total ≤ n
  | some (.bool b) => b.toNat ≤ n
  | _ => false

/-- A refused condition is a `ValueError`. -/
def ofFilter {α : Type} : Except FilterError α → Act α
  | .ok a => pure a
  | .error _ => throw (.other "ValueError")

section Client

variable (D : Deployment) (path : Path Scope) (i : Nat) (table : String) (conditions : List RestQuery.Eq)
  (select : List String)

/-- One request: its records, and whether they are the last when they follow those
already found. -/
def nextPage (found : List Members) : Act (List Members × Option Json) := do
  let parameters ← ofFilter (listParameters conditions select found.length)
  let page ← clientCall D path i "GET" (listPath table parameters) none
  let batch ← recordsOf page
  let total ← ofRaises (page.getMember "row-count")
  pure (batch, total)

/-- **The loop.**  It goes on only behind a full page, so it ends for every engine: the
number of records grows, up to the cap. -/
def fetch (found : List Members) : Act (List Members) := do
  let (batch, total) ← nextPage D path i table conditions select found
  let records := found ++ batch
  if maxRecords < records.length then throw .client
  else if batch.length < pageSize ∨ reaches records.length total then pure records
  else fetch records
termination_by maxRecords + 1 - found.length
decreasing_by
  simp only [records, List.length_append, pageSize] at *
  omega

/-- `query`. -/
def query : Act (List Members) := do
  if !isIdentifier table || !select.all isIdentifier then
    throw (.other "ValueError")
  fetch D path i table conditions select []

end Client

/-! ### What a call answers -/

section Answers

variable {D : Deployment} {path : Path Scope} {i : Nat} {w w' : World} {j : Json}
  {method target : String} {body : Option Body}

/-- The document was the answer to an exchange with that method and path. -/
def Answered (N : Network) (method target : String) (j : Json) : Prop :=
  ∃ (wire : List Sent) (s : Sent), s.exchange.method = method ∧ s.exchange.path = target ∧
    N.reply (wire ++ [s]) = .value j

theorem of_run_bind {α β : Type} {x : Act α} {f : α → Act β} {b : β}
    (h : (x >>= f).run w = (.ok b, w')) :
    ∃ a w₁, x.run w = (.ok a, w₁) ∧ (f a).run w₁ = (.ok b, w') := by
  rw [run_bind] at h
  split at h
  · next a w₁ hx => exact ⟨a, w₁, hx, h⟩
  · exact absurd (congrArg Prod.fst h) nofun

theorem send_ok {x : Exchange} (h : (send D path x).run w = (.ok j, w')) :
    D.network.reply (w.wire ++ [⟨x, path⟩]) = .value j := by
  have houtcome : outcome (D.network.reply (w.wire ++ [⟨x, path⟩])) = .ok j := congrArg Prod.fst h
  cases hreply : D.network.reply (w.wire ++ [⟨x, path⟩]) with
  | value k =>
    rw [hreply] at houtcome
    rw [Except.ok.inj houtcome]
  | error status document =>
    rw [hreply] at houtcome
    cases document <;> cases houtcome
  | unreachable =>
    rw [hreply] at houtcome
    cases houtcome
  | raised name =>
    rw [hreply] at houtcome
    cases houtcome

theorem rawRequest_ok {token : Json}
    (h : (rawRequest D path i method target body token).run w = (.ok j, w')) :
    Answered D.network method target j := by
  obtain ⟨-, w₁, -, h⟩ := of_run_bind h
  obtain ⟨data, w₂, -, h⟩ := of_run_bind h
  exact ⟨w₂.wire, ⟨⟨method, target, data, some token, D.clients i⟩, path⟩, rfl, rfl, send_ok h⟩

/-- **What `_call` returns is what the engine answered**, to the first try or the second. -/
theorem clientCall_ok (h : (clientCall D path i method target body).run w = (.ok j, w')) :
    Answered D.network method target j := by
  obtain ⟨-, w₁, -, h⟩ := of_run_bind h
  obtain ⟨token, w₂, -, h⟩ := of_run_bind h
  rw [run_tryCatch] at h
  split at h
  · next k w₃ hraw =>
    obtain rfl := Except.ok.inj (congrArg Prod.fst h)
    exact rawRequest_ok hraw
  · next e w₃ hraw =>
    cases e with
    | authentication =>
      obtain ⟨token', w₄, -, h⟩ := of_run_bind h
      exact rawRequest_ok h
    | _ => exact absurd (congrArg Prod.fst h) nofun

end Answers

/-! ### An engine that counts truthfully -/

/-- The records from `skip` on that one page holds, of an engine that gives no more
than `cap` at a time. -/
def pageOf (rows : List Members) (cap skip : Nat) : List Members :=
  (rows.drop skip).take (min pageSize cap)

/-- **The engine serves the matching records in one order and counts them truthfully**,
whenever it answers such a request with a document. -/
structure Truthful (N : Network) (table : String) (conditions : List RestQuery.Eq)
    (select : List String) (rows : List Members) (cap : Nat) : Prop where
  serves : ∀ {skip : Nat} {parameters : String} {j : Json},
    listParameters conditions select skip = .ok parameters →
      Answered N "GET" (listPath table parameters) j →
      ∃ members, j = .obj members ∧
        members.lookup "records" = some (.arr ((pageOf rows cap skip).map .obj)) ∧
        members.lookup "row-count" = some (.int rows.length)

section Query

variable {D : Deployment} {path : Path Scope} {i : Nat} {table : String}
  {conditions : List RestQuery.Eq} {select : List String} {rows found : List Members} {cap : Nat}
  {w w' : World}

theorem mapM_membersOf (rows : List Members) : (rows.map Json.obj).mapM membersOf = some rows := by
  induction rows with
  | nil => rfl
  | cons r rows ih => simp [membersOf, ih]

/-- A page that was read is the page the engine serves. -/
theorem nextPage_ok (hN : Truthful D.network table conditions select rows cap)
    {batch : List Members} {total : Option Json}
    (h : (nextPage D path i table conditions select found).run w = (.ok (batch, total), w')) :
    batch = pageOf rows cap found.length ∧ total = some (.int rows.length) := by
  obtain ⟨parameters, w₁, hparameters, h⟩ := of_run_bind h
  obtain ⟨page, w₂, hcall, h⟩ := of_run_bind h
  have hp : listParameters conditions select found.length = .ok parameters := by
    cases hl : listParameters conditions select found.length with
    | error e =>
      rw [hl] at hparameters
      exact absurd (congrArg Prod.fst hparameters) nofun
    | ok p =>
      rw [hl] at hparameters
      rw [Except.ok.inj (congrArg Prod.fst hparameters)]
  obtain ⟨members, rfl, hrecords, hcount⟩ := hN.serves hp (clientCall_ok hcall)
  have hread : (Json.obj members).getMember "records" =
      .ok (some (.arr ((pageOf rows cap found.length).map .obj))) := congrArg Except.ok hrecords
  have htotal : (Json.obj members).getMember "row-count" = .ok (some (.int rows.length)) :=
    congrArg Except.ok hcount
  obtain ⟨batch', w₃, hbatch, h⟩ := of_run_bind h
  obtain ⟨total', w₄, htotal', h⟩ := of_run_bind h
  rw [htotal] at htotal'
  have hpair := Prod.mk.inj (Except.ok.inj (congrArg Prod.fst h))
  rw [← hpair.1, ← hpair.2]
  refine ⟨?_, (Except.ok.inj (congrArg Prod.fst htotal')).symm⟩
  have hrun : (recordsOf (.obj members)).run w₂ =
      (.ok (pageOf rows cap found.length), w₂) := by
    rw [recordsOf, hread]
    change ((match (List.map Json.obj (pageOf rows cap found.length)).mapM membersOf with
      | some records => pure records
      | none => throw .client : Act (List Members))).run w₂ = _
    rw [mapM_membersOf]
    rfl
  rw [hrun] at hbatch
  exact (Except.ok.inj (congrArg Prod.fst hbatch)).symm

/-- One turn of the loop. -/
theorem run_fetch : (fetch D path i table conditions select found).run w =
    match (nextPage D path i table conditions select found).run w with
    | (.error e, w₁) => (.error e, w₁)
    | (.ok (batch, total), w₁) =>
      if maxRecords < (found ++ batch).length then (.error .client, w₁)
      else if batch.length < pageSize ∨ reaches (found ++ batch).length total then
        (.ok (found ++ batch), w₁)
      else (fetch D path i table conditions select (found ++ batch)).run w₁ := by
  rw [fetch, run_bind]
  rcases (nextPage D path i table conditions select found).run w with ⟨r, w₁⟩
  rcases r with e | ⟨batch, total⟩
  · rfl
  · dsimp only
    split_ifs <;> rfl

/-- **The loop has every record when it returns**: a page that is not full is the last
one as long as the pages are not cut below what was asked for. -/
theorem fetch_complete (hN : Truthful D.network table conditions select rows cap)
    (hfound : found = rows.take found.length)
    (hcap : pageSize ≤ cap ∨ rows.length ≤ found.length + min pageSize cap)
    {result : List Members}
    (h : (fetch D path i table conditions select found).run w = (.ok result, w')) :
    result = rows := by
  induction hn : maxRecords + 1 - found.length using Nat.strong_induction_on
    generalizing found w with
  | _ n ih =>
  rw [run_fetch] at h
  rcases hpage : (nextPage D path i table conditions select found).run w with ⟨r, w₁⟩
  rw [hpage] at h
  rcases r with e | ⟨batch, total⟩
  · exact absurd (congrArg Prod.fst h) nofun
  obtain ⟨hbatch, rfl⟩ := nextPage_ok hN hpage
  -- what was found and the page are again the first records
  have hrecords : found ++ batch = rows.take (found.length + min pageSize cap) := by
    rw [List.take_add, ← hfound, hbatch, pageOf]
  have hlength : batch.length = min (min pageSize cap) (rows.length - found.length) := by
    rw [hbatch, pageOf, List.length_take, List.length_drop]
  dsimp only at h
  split_ifs at h with hmax hlast
  · exact absurd (congrArg Prod.fst h) nofun
  · obtain rfl := Except.ok.inj (congrArg Prod.fst h)
    rw [hrecords]
    refine List.take_of_length_le ?_
    rcases hlast with hshort | hreached
    · omega
    · have hall : rows.length ≤ found.length + batch.length := by
        have hcount : ((found ++ batch).length : Int) ≥ rows.length := of_decide_eq_true hreached
        rw [List.length_append] at hcount
        omega
      omega
  · obtain ⟨hfull, -⟩ := not_or.1 hlast
    have hgrow : (found ++ batch).length = found.length + batch.length := List.length_append
    refine ih (maxRecords + 1 - (found ++ batch).length) ?_ ?_ ?_ h rfl
    · unfold pageSize at hfull
      omega
    · rw [hrecords, List.length_take]
      exact List.take_eq_take_iff.2 (by omega)
    · omega

end Query

/-! ### An engine with a cap -/

/-- The request is the one for the records from `skip` on. -/
def asks (table : String) (conditions : List RestQuery.Eq) (select : List String)
    (target : String) (skip : Nat) : Bool :=
  match listParameters conditions select skip with
  | .ok parameters => listPath table parameters == target
  | .error _ => false

/-- What it answers: a token to every login, the page to a request for one. -/
def pagingReply (table : String) (conditions : List RestQuery.Eq) (select : List String)
    (rows : List Members) (cap : Nat) (x : Exchange) : Reply :=
  if x.method = "POST" then .value (.obj [("token", .str "t")])
  else match (List.range (rows.length + 1)).find? (asks table conditions select x.path) with
    | some skip => .value (.obj [("row-count", .int rows.length),
        ("records", .arr ((pageOf rows cap skip).map .obj))])
    | none => .error 404 (.obj [])

/-- **An engine that serves the records of one query**, no more than `cap` at a time. -/
def pagingNetwork (table : String) (conditions : List RestQuery.Eq) (select : List String)
    (rows : List Members) (cap : Nat) : Network where
  reply sent := match sent.getLast? with
    | some s => pagingReply table conditions select rows cap s.exchange
    | none => .unreachable
  clock _ := 0

section Paging

variable {table : String} {conditions : List RestQuery.Eq} {select : List String}
  {rows : List Members} {cap : Nat}

theorem urlQuote_repr (n : Nat) : urlQuote (toString n) = (Nat.repr n).toList := by
  have hdigit : ∀ c ∈ (Nat.repr n).toList, isAsciiAlnum c = true := by
    intro c hc
    rw [Nat.repr_eq_ofList_toDigits, String.toList_ofList] at hc
    have hd : c.isDigit = true := Nat.isDigit_of_mem_toDigits (by decide) (by decide) hc
    simp only [Char.isDigit, Bool.and_eq_true, decide_eq_true_eq] at hd
    have hascii : isAsciiDigit c = true := by
      simp only [isAsciiDigit, Bool.and_eq_true, decide_eq_true_eq]
      exact hd
    simp [isAsciiAlnum, hascii]
  have hquote : ∀ cs : List Char, (∀ c ∈ cs, isAsciiAlnum c = true) →
      (cs.flatMap fun c => if isAsciiAlnum c || c == '_' || c == '.' || c == '-' || c == '~'
        then [c] else (String.utf8EncodeChar c).flatMap byteText) = cs := by
    intro cs h
    induction cs with
    | nil => rfl
    | cons c cs ih =>
      rw [List.flatMap_cons, ih fun d hd => h d (List.mem_cons_of_mem _ hd)]
      simp [h c (List.mem_cons_self ..)]
  exact hquote _ hdigit

/-- The parameters end in the number of records to skip. -/
theorem listParameters_ok : ∃ before : List Char, ∀ skip parameters,
    listParameters conditions select skip = .ok parameters →
      parameters = String.ofList (before ++ (Nat.repr skip).toList) := by
  cases hf : buildFilter conditions with
  | error e =>
    refine ⟨[], fun skip parameters h => ?_⟩
    simp [listParameters, hf, bind, Except.bind] at h
  | ok filter =>
    -- the same parameters with an empty last one
    have hends : ∀ skip, urlencode [("$filter", filter), ("$select", String.intercalate "," select),
        ("$top", toString pageSize), ("$skip", toString skip)] =
        urlencode [("$filter", filter), ("$select", String.intercalate "," select),
          ("$top", toString pageSize), ("$skip", "")] ++ (Nat.repr skip).toList := by
      intro skip
      have hempty : urlQuote "" = [] := rfl
      simp only [urlencode, urlQuote_repr, hempty, List.append_assoc, List.cons_append,
        List.nil_append]
    refine ⟨urlencode [("$filter", filter), ("$select", String.intercalate "," select),
      ("$top", toString pageSize), ("$skip", "")], fun skip parameters h => ?_⟩
    have hp : String.ofList (urlencode [("$filter", filter),
        ("$select", String.intercalate "," select), ("$top", toString pageSize),
        ("$skip", toString skip)]) = parameters := by
      simpa [listParameters, hf, bind, Except.bind, pure, Except.pure] using h
    rw [← hp, hends skip]

/-- Two pages are not asked for by one path. -/
theorem skip_unique {m n : Nat} {target : String} (hm : asks table conditions select target m = true)
    (hn : asks table conditions select target n = true) : m = n := by
  obtain ⟨before, hbefore⟩ := @listParameters_ok conditions select
  have hpath : ∀ k, asks table conditions select target k = true →
      target = listPath table (String.ofList (before ++ (Nat.repr k).toList)) := by
    intro k hk
    rw [asks] at hk
    split at hk
    · next parameters hp => rw [← hbefore k parameters hp, eq_of_beq hk]
    · cases hk
  have hsame := (hpath m hm).symm.trans (hpath n hn)
  rw [listPath, listPath, String.append_right_inj, String.ofList_inj, List.append_cancel_left_eq,
    String.toList_inj] at hsame
  exact Json.natRepr_injective hsame

/-- It is an engine of that kind. -/
theorem truthful_pagingNetwork :
    Truthful (pagingNetwork table conditions select rows cap) table conditions select rows cap where
  serves := by
    rintro skip parameters j hp ⟨wire, s, hmethod, hpath, hreply⟩
    have hpage : pagingReply table conditions select rows cap s.exchange = .value j := by
      rw [← hreply]
      simp [pagingNetwork]
    have hasks : asks table conditions select s.exchange.path skip = true := by
      rw [asks, hp, hpath]
      exact beq_self_eq_true _
    rw [pagingReply, hmethod, if_neg (by decide)] at hpage
    split at hpage
    · next k hk =>
      obtain rfl := skip_unique (List.find?_some hk) hasks
      obtain rfl := Reply.value.inj hpage
      exact ⟨_, rfl, rfl, rfl⟩
    · cases hpage

variable {D : Deployment} {path : Path Scope} {i : Nat} {w : World}

theorem run_send_eq (x : Exchange) (w : World) : (send D path x).run w =
    (outcome (D.network.reply (w.wire ++ [⟨x, path⟩])),
      { w with wire := w.wire ++ [⟨x, path⟩] }) := rfl

/-- Reading is not a write: the guard lets it through. -/
theorem authority_get (G : Gate) (ctx : Context) (target : String) (creds : Credentials)
    (consume : Bool) :
    requireNativeFinancialAuthority G ctx "GET" target none creds consume = .ok ctx := by
  have hget : ["POST", "PUT", "PATCH", "DELETE"].contains (upper "GET") = false := by decide +kernel
  rw [requireNativeFinancialAuthority, hget, if_pos (by simp)]

/-- Every login is answered with a token. -/
theorem run_authenticate (hD : D.network = pagingNetwork table conditions select rows cap) :
    ∃ w', (authenticate D path i).run w = (.ok (.str "t"), w') := by
  have hlogin : ∀ (x : Exchange) (w : World), x.method = "POST" →
      (send D path x).run w = (.ok (.obj [("token", .str "t")]),
        { w with wire := w.wire ++ [⟨x, path⟩] }) := by
    intro x w hx
    have hreply : D.network.reply (w.wire ++ [⟨x, path⟩]) =
        .value (.obj [("token", .str "t")]) := by
      simp [hD, pagingNetwork, pagingReply, hx]
    rw [run_send_eq, hreply]
    rfl
  rw [authenticate, run_bind, authCall, run_tryCatch, hlogin _ _ rfl]
  exact ⟨_, rfl⟩

/-- A client without a token logs in, then reads. -/
theorem run_clientCall (hD : D.network = pagingNetwork table conditions select rows cap)
    (hw : w.tokens i = .initial) {target : String} {j : Json}
    (hreply : ∀ x : Exchange, x.method = "GET" → x.path = target →
      pagingReply table conditions select rows cap x = .value j) :
    ∃ w', (clientCall D path i "GET" target none).run w = (.ok j, w') := by
  have hensure : ∀ w : World, w.tokens i = .initial →
      (ensureToken D path i).run w = (authenticate D path i).run w := by
    intro w hw
    have htoken : (w.tokens i).token.isNull = true := by rw [hw]; rfl
    have hrefresh : (w.tokens i).refreshToken.isNull = true := by rw [hw]; rfl
    have hrenew : (renewToken D path i).run w = (authenticate D path i).run w := by
      rw [renewToken, run_bind]
      change (if (w.tokens i).refreshToken.isNull then authenticate D path i else _).run w = _
      rw [if_pos hrefresh]
    rw [ensureToken, run_bind]
    change (if (w.tokens i).token.isNull then renewToken D path i else _).run w = _
    rw [if_pos htoken, hrenew]
  obtain ⟨w₂, hauth⟩ := @run_authenticate table conditions select rows cap D path i w hD
  rw [clientCall, run_bind, run_requireAuthority, authority_get]
  dsimp only
  rw [run_bind, hensure _ hw, hauth]
  dsimp only
  have hvalue : D.network.reply
      (w₂.wire ++ [⟨⟨"GET", target, none, some (.str "t"), D.clients i⟩, path⟩]) = .value j := by
    rw [hD]
    simp [pagingNetwork, hreply]
  have hraw : ∃ w', (rawRequest D path i "GET" target none (.str "t")).run w₂ = (.ok j, w') := by
    rw [rawRequest, run_bind, run_requireAuthority, authority_get]
    dsimp only
    rw [run_bind]
    change ∃ w', (send D path ⟨"GET", target, none, some (.str "t"), D.clients i⟩).run w₂ = _
    rw [run_send_eq, hvalue]
    exact ⟨_, rfl⟩
  obtain ⟨w', hraw⟩ := hraw
  rw [run_tryCatch, hraw]
  exact ⟨w', rfl⟩

/-- **Under a cap below a hundred, the first page is taken for all there is.** -/
theorem query_cut (hD : D.network = pagingNetwork table conditions select rows cap)
    (hw : w.tokens i = .initial) (htable : isIdentifier table = true)
    (hselect : select.all isIdentifier = true) {filter : String}
    (hfilter : buildFilter conditions = .ok filter) (hcap : cap < pageSize) :
    ∃ w', (query D path i table conditions select).run w = (.ok (rows.take cap), w') := by
  obtain ⟨parameters, hp⟩ : ∃ parameters, listParameters conditions select 0 = .ok parameters := by
    simp [listParameters, hfilter, bind, Except.bind, pure, Except.pure]
  have hasks : asks table conditions select (listPath table parameters) 0 = true := by
    rw [asks, hp]
    exact beq_self_eq_true _
  have hfind : (List.range (rows.length + 1)).find?
      (asks table conditions select (listPath table parameters)) = some 0 := by
    rw [List.range_succ_eq_map, List.find?_cons, hasks]
  have hpage : pageOf rows cap 0 = rows.take cap := by
    rw [pageOf, List.drop_zero, min_eq_right hcap.le]
  have hreply : ∀ x : Exchange, x.method = "GET" → x.path = listPath table parameters →
      pagingReply table conditions select rows cap x = .value (.obj
        [("row-count", .int rows.length), ("records", .arr ((rows.take cap).map .obj))]) := by
    intro x hmethod hpath
    rw [pagingReply, hmethod, if_neg (by decide), hpath, hfind]
    simp only [hpage]
  obtain ⟨w₁, hcall⟩ := @run_clientCall _ _ _ _ _ _ path _ _ hD hw _ _ hreply
  have hnext : (nextPage D path i table conditions select []).run w =
      (.ok (rows.take cap, some (.int rows.length)), w₁) := by
    rw [nextPage, run_bind, List.length_nil, hp]
    change ((clientCall D path i "GET" (listPath table parameters) none >>= _ : Act _)).run w = _
    rw [run_bind, hcall]
    have hrecords : (recordsOf (.obj [("row-count", .int rows.length),
        ("records", .arr ((rows.take cap).map .obj))])).run w₁ = (.ok (rows.take cap), w₁) := by
      change ((match (List.map Json.obj (rows.take cap)).mapM membersOf with
        | some records => pure records
        | none => throw .client : Act (List Members))).run w₁ = _
      rw [mapM_membersOf]
      rfl
    dsimp only
    rw [run_bind, hrecords]
    rfl
  refine ⟨w₁, ?_⟩
  have hnames : (!isIdentifier table || !select.all isIdentifier) = false := by
    rw [htable, hselect]
    rfl
  have hlength : (rows.take cap).length < pageSize :=
    lt_of_le_of_lt (List.length_take_le _ _) hcap
  rw [query, hnames]
  change (fetch D path i table conditions select []).run w = _
  rw [run_fetch, hnext]
  dsimp only
  rw [List.nil_append, if_neg, if_pos (.inl hlength)]
  unfold maxRecords
  unfold pageSize at hlength
  omega

end Paging

/-! ### Complete results -/

/-- The table, the names and the conditions `query` lets through. -/
def accepted (table : String) (conditions : List RestQuery.Eq) (select : List String) : Bool :=
  isIdentifier table && select.all isIdentifier && (buildFilter conditions).isOk

/-- What is not accepted raises. -/
theorem accepted_of_query {D : Deployment} {path : Path Scope} {i : Nat} {table : String}
    {conditions : List RestQuery.Eq} {select : List String} {found : List Members} {w w' : World}
    (h : (query D path i table conditions select).run w = (.ok found, w')) :
    accepted table conditions select = true ∧
      (fetch D path i table conditions select []).run w = (.ok found, w') := by
  cases hnames : !isIdentifier table || !select.all isIdentifier with
  | true =>
    rw [query, hnames] at h
    exact absurd (congrArg Prod.fst h) nofun
  | false =>
    have hfetch : (fetch D path i table conditions select []).run w = (.ok found, w') := by
      rw [query, hnames] at h
      exact h
    refine ⟨?_, hfetch⟩
    simp only [Bool.or_eq_false_iff, Bool.not_eq_false'] at hnames
    rw [accepted, hnames.1, hnames.2]
    cases hf : buildFilter conditions with
    | ok filter => rfl
    | error e =>
      have hp : listParameters conditions select ([] : List Members).length = .error e := by
        simp [listParameters, hf, bind, Except.bind]
      have hraise : (nextPage D path i table conditions select []).run w =
          (.error (.other "ValueError"), w) := by
        rw [nextPage, run_bind, hp]
        rfl
      rw [run_fetch, hraise] at hfetch
      exact absurd (congrArg Prod.fst hfetch) nofun

/-- **Which queries are complete**: whatever an engine that counts truthfully answers, a
result has every matching record in order, exactly when the query is refused, a page
may hold a hundred records or the records fit one page. -/
theorem query_complete_iff (G : Gate) (clients : Nat → Credentials) (table : String)
    (conditions : List RestQuery.Eq) (select : List String) (rows : List Members) (cap : Nat) :
    (∀ N : Network, Truthful N table conditions select rows cap →
      ∀ (path : Path Scope) (i : Nat) (w : World) (found : List Members) (w' : World),
        (query ⟨G, N, clients⟩ path i table conditions select).run w = (.ok found, w') →
          found = rows) ↔
      accepted table conditions select = false ∨ pageSize ≤ cap ∨ rows.length ≤ cap := by
  constructor
  · intro hcomplete
    by_contra hcut
    obtain ⟨haccepted, hcap, hrows⟩ : accepted table conditions select = true ∧ cap < pageSize ∧
        cap < rows.length := by
      simpa [not_or, not_le] using hcut
    simp only [accepted, Bool.and_eq_true] at haccepted
    obtain ⟨⟨htable, hselect⟩, hfilter⟩ := haccepted
    obtain ⟨filter, hfilter⟩ : ∃ filter, buildFilter conditions = .ok filter := by
      cases hf : buildFilter conditions with
      | ok filter => exact ⟨filter, rfl⟩
      | error e =>
        rw [hf] at hfilter
        cases hfilter
    obtain ⟨w', hrun⟩ := @query_cut table conditions select rows cap
      ⟨G, pagingNetwork table conditions select rows cap, clients⟩ [] 0 World.initial rfl rfl htable
      hselect filter hfilter hcap
    have hlost := congrArg List.length (hcomplete _ truthful_pagingNetwork [] 0 _ _ _ hrun)
    rw [List.length_take] at hlost
    omega
  · intro hcond N hN path i w found w' hrun
    obtain ⟨haccepted, hfetch⟩ := accepted_of_query hrun
    rcases hcond with hrefused | hcap
    · rw [haccepted] at hrefused
      cases hrefused
    · refine fetch_complete hN (List.take_zero).symm ?_ hfetch
      rw [List.length_nil, Nat.zero_add]
      omega

/-- Two hundred orders. -/
def orders : List Members := (List.range 200).map fun n : Nat => [("C_Order_ID", .int (Int.ofNat n))]

/-- **An engine that gives fifty records at a time** counts two hundred orders, and the
query returns fifty of them. -/
theorem orders_cut :
    Truthful (pagingNetwork "C_Order" [⟨"POReference", .str "o-1"⟩] ["C_Order_ID"] orders 50)
      "C_Order" [⟨"POReference", .str "o-1"⟩] ["C_Order_ID"] orders 50 ∧
    (∃ w', (query ⟨rejecting.gate,
        pagingNetwork "C_Order" [⟨"POReference", .str "o-1"⟩] ["C_Order_ID"] orders 50,
        rejecting.clients⟩ [] 0 "C_Order" [⟨"POReference", .str "o-1"⟩] ["C_Order_ID"]).run
      World.initial = (.ok (orders.take 50), w')) ∧ orders.take 50 ≠ orders := by
  refine ⟨truthful_pagingNetwork, ?_, fun h => ?_⟩
  · have hfilter : buildFilter [⟨"POReference", .str "o-1"⟩] = .ok "POReference eq 'o-1'" := by
      decide +kernel
    exact query_cut rfl rfl (by decide) (by decide) hfilter (by decide)
  · have hlength := congrArg List.length h
    have hall : orders.length = 200 := by rw [orders, List.length_map, List.length_range]
    rw [List.length_take, hall] at hlength
    omega

end Egress
end BaobabErp
