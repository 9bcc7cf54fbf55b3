import LedgerGateway.Hex.Quantity
import LedgerGateway.Rpc.Method

/-!
# The account methods

Three methods ask the ledger for the balance, the code or a storage slot of an account. Each first
checks its parameters in a fixed order, then puts exactly one query. Three more methods are known
by name and not offered.
-/

namespace LedgerGateway.Rpc

open Hex (Bytes)

/-! ## Parameters -/

/-- The parameters of the methods on an account. -/
def accountUsage : String := "Takes [address: DATA(20), block: QUANTITY|TAG]"

/-- The parameters of the method on a storage slot. -/
def storageUsage : String := "Takes [address: DATA(20), position: QUANTITY, block: QUANTITY|TAG]"

/-- The text of a value, if it is text. -/
def asText? : Json → Option String
  | .string s => some s
  | _ => none

/-- The parameters as a given number of texts. Any other shape is refused with the usage. -/
def textParams (params : Json) (count : Nat) (usage : String) : Except Error (List String) :=
  match params with
  | .array items =>
    if items.length = count then
      match items.mapM asText? with
      | some texts => .ok texts
      | none => .error (.invalidParams usage)
    else .error (.invalidParams usage)
  | _ => .error (.invalidParams usage)

/-- The block key of a parameter. -/
def checkBlockKey (selector : String) : Except Error BlockKey :=
  match BlockKey.parseText selector with
  | .ok key => .ok key
  | .error .unsupported => .error .notImplemented
  | .error .invalid => .error (.invalidParams "Failed to parse block number")

/-- The text without its first two characters. -/
def withoutMark (s : String) : String := String.ofList (s.toList.drop 2)

/-- An address is checked by its length only: two characters and 40 digits. -/
def checkAddress (address : String) : Except Error String :=
  if address.length = 42 then .ok (withoutMark address)
  else .error (.invalidParams s!"Invalid address length: {address.length} != 42")

/-- A position is checked by its length only: two characters and an even number of digits, at least
two. -/
def checkPosition (position : String) : Except Error String :=
  if 4 ≤ position.length ∧ position.length % 2 = 0 then .ok (withoutMark position)
  else .error (.invalidParams s!"Invalid storage position: {position}")

/-- The address and the block key in the parameters of a method on an account. -/
def accountParams (params : Json) : Except Error (String × BlockKey) :=
  match textParams params 2 accountUsage with
  | .ok [address, block] =>
    match checkBlockKey block with
    | .error e => .error e
    | .ok key =>
      match checkAddress address with
      | .error e => .error e
      | .ok address => .ok (address, key)
  | .ok _ => .error (.invalidParams accountUsage)
  | .error e => .error e

/-- The address, the position and the block key in the parameters of the method on a slot. -/
def storageParams (params : Json) : Except Error (String × String × BlockKey) :=
  match textParams params 3 storageUsage with
  | .ok [address, position, block] =>
    match checkBlockKey block with
    | .error e => .error e
    | .ok key =>
      match checkAddress address with
      | .error e => .error e
      | .ok address =>
        match checkPosition position with
        | .error e => .error e
        | .ok position => .ok (address, position, key)
  | .ok _ => .error (.invalidParams storageUsage)
  | .error e => .error e

/-! ## Methods -/

/-- The name under which the methods write their log. -/
def methodsLogger : String := "seth_rpc.rpc.modules.account"

/-- The bytes on the wire. -/
def dataReply (bytes : Bytes) : Reply := .value (.string (Hex.marked (Hex.encode bytes)))

/-- What the ledger answered, or null, or after a failure that can be described an error that hides
its cause. -/
def replyTo {α : Type} (name : String) (answer : Except QueryFailure (Option α))
    (reply : α → Except MethodFault Reply) : Traced (Except MethodFault Reply) :=
  match answer with
  | .ok (some a) => pure (reply a)
  | .ok none => pure (.ok (.value .null))
  | .error failure =>
    match failure.told with
    | .ok description => do
      Traced.log .error methodsLogger s!"{name}: ledger query failed: {description}"
      pure (.error (.refused .internal))
    | .error ending => pure (.error ending)

/-- A method that looks up an account and answers with a part of it. -/
def accountMethod (name : String) (part : Account → Except MethodFault Reply) : Method :=
  fun params client => do
    Traced.log .info methodsLogger name
    match accountParams params with
    | .error e => pure (.error (.refused e))
    | .ok (address, key) => do
      Traced.queried (.account address key)
      replyTo name (client.getAccount address key) part

/-- The balance of an account as a quantity. -/
def balanceReply (account : Account) : Except MethodFault Reply :=
  match Hex.quantity? account.balance with
  | .ok text => .ok (.value (.string text))
  | .error n => .error (.crashed (.negativeQuantity n))

/-- Answers with the balance of an account. -/
def getBalance : Method := accountMethod "eth_getBalance" balanceReply

/-- Answers with the code of an account. -/
def getCode : Method := accountMethod "eth_getCode" fun account => .ok (dataReply account.code)

/-- Answers with the value of a storage slot. -/
def getStorageAt : Method := fun params client => do
  Traced.log .info methodsLogger "eth_getStorageAt"
  match storageParams params with
  | .error e => pure (.error (.refused e))
  | .ok (address, position, key) => do
    Traced.queried (.storage address position key)
    replyTo "eth_getStorageAt" (client.getStorage address position key) fun v => .ok (dataReply v)

/-- A method that is known and not offered. -/
def notOffered : Method := fun _ _ => pure (.error (.refused .notImplemented))

/-- The account methods in the order in which they are registered. -/
def accountMethods : List (String × Method) :=
  [("eth_getBalance", getBalance), ("eth_getStorageAt", getStorageAt), ("eth_getCode", getCode),
   ("eth_sign", notOffered), ("eth_call", notOffered), ("eth_accounts", notOffered)]

end LedgerGateway.Rpc
