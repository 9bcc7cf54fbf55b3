import LedgerGateway.Hex.Quantity
import LedgerGateway.Rpc.Message

/-!
# How a method ends without a reply

A method may refuse the request with an error for the caller, or break down; then the caller learns
nothing of the cause. Two more things may happen. What it refuses the request with may be no proper
error, with a code that is no integer or a message that is no text. And it may be interrupted:
something is thrown that no part of the gateway holds up, such as the cancellation of what is going
on or the end of the program.
-/

namespace LedgerGateway.Rpc

/-- Something that is thrown, as it is seen by whoever catches it. -/
structure Thrown where
  /-- The name of its kind. -/
  kind : String
  description : String
  deriving DecidableEq, Repr

/-- Something that passes everything that holds up failures. -/
structure Interruption where
  thrown : Thrown
  /-- Whether nothing else goes on that is under way. -/
  halts : Bool
  deriving DecidableEq, Repr

/-- Why a method broke down. -/
inductive Crash where
  /-- It had to write a number below zero as a quantity. -/
  | negativeQuantity (n : Hex.NegativeQuantity)
  /-- Some other failure, described by a text. -/
  | other (description : String)
  deriving DecidableEq, Repr

/-- How a method ends without a reply. -/
inductive MethodFault where
  | refused (e : Error)
  /-- A refusal whose message is no text. -/
  | noText (code : Int) (message : Reply)
  /-- A refusal whose code is no integer, and what is thrown if it is to be told. -/
  | noCode (thrown : Thrown)
  | crashed (c : Crash)
  | interrupted (i : Interruption)
  deriving Repr

end LedgerGateway.Rpc
