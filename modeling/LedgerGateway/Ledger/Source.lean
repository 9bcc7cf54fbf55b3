import LedgerGateway.Text.Quoted

/-!
# Where a ledger is found

A URL names the kind of ledger by its scheme. There is one kind: the ledger in memory.
-/

namespace LedgerGateway.Ledger

/-- The kinds of ledger. -/
inductive Source where
  | memory
  deriving DecidableEq, Repr

namespace Source

/-- The scheme of a kind. -/
def scheme : Source → String
  | .memory => "memory"

/-- The name of the part that serves a kind of ledger. -/
def clientName : Source → String
  | .memory => "MemoryValidatorClient"

/-- All kinds. -/
def all : List Source := [.memory]

/-- A URL that names no kind of ledger. -/
structure Unsupported where
  url : String
  deriving DecidableEq, Repr

/-- The wording of the refusal. -/
def Unsupported.message (u : Unsupported) : String :=
  let supported := ", ".intercalate (all.map fun source => source.scheme ++ "://")
  s!"Unsupported validator URL {Text.quoted u.url} (supported: {supported})"

/-- The text in front of the first `://`, if the text has one. -/
def schemeOf? : List Char → Option (List Char)
  | [] => none
  | ':' :: '/' :: '/' :: _ => some []
  | c :: rest => (schemeOf? rest).map (c :: ·)

/-- The kind of ledger that a URL names. -/
def ofUrl (url : String) : Except Unsupported Source :=
  match schemeOf? url.toList with
  | none => .error ⟨url⟩
  | some scheme =>
    match all.find? fun source => source.scheme.toList = scheme with
    | some source => .ok source
    | none => .error ⟨url⟩

end Source

end LedgerGateway.Ledger
