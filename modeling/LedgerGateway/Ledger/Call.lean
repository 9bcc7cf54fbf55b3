import LedgerGateway.Ledger.Basic

/-!
# Calls on the ledger

A history of the ledger is a list of calls, each a write, a seal or a query. A call that fails
leaves the ledger as it was.

* `serve` — the answer to one call and the ledger behind it;
* `run`, `answers` — the ledger behind a list of calls, and the answers on the way.
-/

namespace LedgerGateway.Ledger

open Hex (Bytes)

/-- A call on the ledger. -/
inductive Call where
  | setAccount (address : String) (account : Account)
  | setStorage (address position : String) (v : Bytes)
  | commit
  | getAccount (address : String) (key : BlockKey)
  | getStorage (address position : String) (key : BlockKey)
  deriving DecidableEq, Repr

/-- How a call ends. -/
inductive Answer where
  /-- A write was made. -/
  | written
  /-- A block was sealed and has the number. -/
  | committed (number : Nat)
  | account (found : Option Account)
  | storage (found : Option Bytes)
  | refused (fault : LedgerFault)
  | exhausted (fault : NumberFault)
  deriving DecidableEq, Repr

/-- The end of a write, and the ledger behind it. -/
def afterWrite (l : Ledger) : Except LedgerFault Ledger → Answer × Ledger
  | .ok written => (.written, written)
  | .error fault => (.refused fault, l)

/-- The end of a query. -/
def afterQuery {α : Type} (found : α → Answer) : Except LedgerFault α → Answer
  | .ok a => found a
  | .error fault => .refused fault

/-- The answer to a call, and the ledger behind it. -/
def serve (l : Ledger) : Call → Answer × Ledger
  | .setAccount address account => l.afterWrite (l.setAccount address account)
  | .setStorage address position v => l.afterWrite (l.setStorage address position v)
  | .commit =>
    match l.commit with
    | .ok sealed => (.committed sealed.head.number, sealed)
    | .error fault => (.exhausted fault, l)
  | .getAccount address key => (afterQuery .account (l.getAccount address key), l)
  | .getStorage address position key => (afterQuery .storage (l.getStorage address position key), l)

/-- The ledger behind a list of calls. -/
def run (l : Ledger) : List Call → Ledger
  | [] => l
  | c :: rest => run (l.serve c).2 rest

/-- The answers to a list of calls. -/
def answers (l : Ledger) : List Call → List Answer
  | [] => []
  | c :: rest => (l.serve c).1 :: answers (l.serve c).2 rest

@[simp] theorem run_nil (l : Ledger) : l.run [] = l := rfl

@[simp] theorem run_cons (l : Ledger) (c : Call) (rest : List Call) :
    l.run (c :: rest) = (l.serve c).2.run rest := rfl

@[simp] theorem run_append (l : Ledger) (calls more : List Call) :
    l.run (calls ++ more) = (l.run calls).run more := by
  induction calls generalizing l with
  | nil => rfl
  | cons c rest ih => exact ih (l.serve c).2

end LedgerGateway.Ledger
