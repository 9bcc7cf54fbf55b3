import LedgerGateway.Rpc.Dispatcher

/-!
# Requests that are handled side by side

The requests of a batch are started in their order, each without waiting for the ones before it. A
request goes on until it ends or has to wait for something outside; then another one goes on, and
which of those that wait is next is up to what they wait for. A response is put where its request
stands, whoever is done first, and the batch is answered when all of them are there.
-/

namespace LedgerGateway.Rpc

/-- The handling of a request, cut where it waits for something outside. -/
inductive Activity where
  | ends (events : List Event) (response : Option Response)
  | waits (events : List Event) (later : Activity)

namespace Activity

/-- The same without the cuts. -/
def whole : Activity → Traced (Option Response)
  | .ends events response => ⟨response, events⟩
  | .waits events later => ⟨later.whole.value, events ++ later.whole.events⟩

def NeverWaits : Activity → Prop
  | .ends _ _ => True
  | .waits _ _ => False

end Activity

/-- Where a request stands that was started. -/
inductive Place where
  | waiting (later : Activity)
  | answered (response : Option Response)

/-- What an activity leaves behind up to its next cut. -/
def Activity.emitted : Activity → List Event
  | .ends events _ => events
  | .waits events _ => events

/-- What has become of it then. -/
def Activity.reached : Activity → Place
  | .ends _ response => .answered response
  | .waits _ later => .waiting later

/-- A batch under way: the requests that were started, in their order, those that were not yet, and
what was left behind so far. -/
structure Flight where
  places : List Place
  queued : List Activity
  events : List Event

namespace Flight

/-- A batch of which nothing was started. -/
def of (activities : List Activity) : Flight := ⟨[], activities, []⟩

/-- The next request is started, or one that waits goes on. -/
inductive Step : Flight → Flight → Prop where
  | start {places activity queued events} :
      Step ⟨places, activity :: queued, events⟩
        ⟨places ++ [activity.reached], queued, events ++ activity.emitted⟩
  | resume {before later behind queued events} :
      Step ⟨before ++ .waiting later :: behind, queued, events⟩
        ⟨before ++ later.reached :: behind, queued, events ++ later.emitted⟩

/-- All responses are there, each where its request stands. -/
def Gathered (f : Flight) (responses : List (Option Response)) : Prop :=
  f.queued = [] ∧ f.places = responses.map .answered

end Flight

end LedgerGateway.Rpc
