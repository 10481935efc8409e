/-
# The root of a matching row

A matching row belongs to one source document: `governed_root` says which by the
stored row, `match_root_of` by the values it had, and `match_commit_fence` wants
authority for both.
-/

import BaobabErp.NativeFinance.CostFences

namespace BaobabErp
namespace NativeFinance

/-- A root as the functions return it; a column that stays NULL is `none`. -/
abbrev Root : Type := Option NativeTable × Option Int

namespace Native

variable (N : Native)

/-- The receipt of a line of the client. -/
def receiptOfLine (client line : Int) : Option Int := do
  let l ← N.mInOutLine line
  if l.adClientId = client then some l.mInOutId else none

/-- The invoice of a line of the client. -/
def invoiceOfLine (client line : Int) : Option Int := do
  let l ← N.cInvoiceLine line
  if l.adClientId = client then some l.cInvoiceId else none

/-- The root of a row of `m_matchpo`. -/
def matchPORoot (mp : MatchPO) : Root :=
  if 0 < mp.mInOutLineId.getD 0 then
    (some .mInOut, N.receiptOfLine mp.adClientId (mp.mInOutLineId.getD 0))
  else if 0 < mp.cInvoiceLineId.getD 0 then
    (some .cInvoice, N.invoiceOfLine mp.adClientId (mp.cInvoiceLineId.getD 0))
  else (none, none)

/-- The root of a row of `m_matchinv`. -/
def matchInvRoot (mi : MatchInv) : Root :=
  match mi.cInvoiceLineId.bind (N.invoiceOfLine mi.adClientId) with
  | some invoice => (some .cInvoice, some invoice)
  | none => (none, none)

/-- `governed_root` -/
def governedRoot (table : NativeTable) (record : Int) : Root :=
  match table with
  | .mMatchPO =>
    match N.mMatchPO.find? fun mp => mp.mMatchPOId = record with
    | some mp => N.matchPORoot mp
    | none => (none, none)
  | .mMatchInv =>
    match N.mMatchInv.find? fun mi => mi.mMatchInvId = record with
    | some mi => N.matchInvRoot mi
    | none => (none, none)
  | _ => (some table, some record)

/-- `match_root_of`: the root the values of a matching row point to. -/
def matchRootOf (table : NativeTable) (client : Int) (receiptLine invoiceLine : Option Int) : Root :=
  if table = .mMatchPO ∧ 0 < receiptLine.getD 0 then
    match N.receiptOfLine client (receiptLine.getD 0) with
    | some receipt => (some .mInOut, some receipt)
    | none => (none, none)
  else if 0 < invoiceLine.getD 0 then
    match N.invoiceOfLine client (invoiceLine.getD 0) with
    | some invoice => (some .cInvoice, some invoice)
    | none => (none, none)
  else (none, none)

/-- The transaction is authorised for a root that is there. -/
def rootAttributed (s : Session) (client : Int) : Root → Bool
  | (some table, some record) => N.hasGovernedAttribution s client table record
  | _ => false

end Native

/-- A row of one of the two matching tables. -/
inductive MatchRow where
  | po (mp : MatchPO)
  | inv (mi : MatchInv)
  deriving DecidableEq, Repr

namespace MatchRow

def table : MatchRow → NativeTable
  | po _ => .mMatchPO
  | inv _ => .mMatchInv

def record : MatchRow → Int
  | po mp => mp.mMatchPOId
  | inv mi => mi.mMatchInvId

def adClientId : MatchRow → Int
  | po mp => mp.adClientId
  | inv mi => mi.adClientId

/-- `to_jsonb(row) ->> 'm_inoutline_id'`, which the fence does not use of a
`m_matchinv` row. -/
def mInOutLineId : MatchRow → Option Int
  | po mp => mp.mInOutLineId
  | inv _ => none

def cInvoiceLineId : MatchRow → Option Int
  | po mp => mp.cInvoiceLineId
  | inv mi => mi.cInvoiceLineId

end MatchRow

/-- The old image of a change, unless it is an insertion. -/
def RowChange.old {R : Type} : RowChange R → Option R
  | insert _ => none
  | update old _ => some old
  | delete old => some old

/-- The new image of a change, unless it is a deletion. -/
def RowChange.new {R : Type} : RowChange R → Option R
  | insert new => some new
  | update _ new => some new
  | delete _ => none

namespace Native

variable (N : Native)

/-- `match_commit_fence` on the row's former root. -/
def formerMatchFence (s : Session) (old : MatchRow) : Bool :=
  !N.clientIsPlaced old.adClientId || N.rootAttributed s old.adClientId
    (N.matchRootOf old.table old.adClientId old.mInOutLineId old.cInvoiceLineId)

/-- `match_commit_fence` on the row as it is stored. -/
def storedMatchFence (s : Session) (new : MatchRow) : Bool :=
  !N.clientIsPlaced new.adClientId ||
    N.rootAttributed s new.adClientId (N.governedRoot new.table new.record)

/-- `match_commit_fence` -/
def matchCommitFence (s : Session) (c : RowChange MatchRow) : Bool :=
  c.old.all (N.formerMatchFence s) && c.new.all (N.storedMatchFence s)

end Native
end NativeFinance
end BaobabErp
