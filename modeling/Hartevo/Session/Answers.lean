import Hartevo.Session.Lineage
import Hartevo.Session.Repair

/-!
# Sessions: every interrupted call is answered once

A repair adds one result for every call id that the scan of the events still finds.  Whether this
makes the transcript complete is a question about single call ids: how often a message of the open
step asks for the id (`askedIn`), and how many results on the surface answer it (`resultsOn`).

The events of a repair close something or answer a call.  The ones that close are not on the
surface, and an answer is appended to it, so that the results that were there stay and one more
comes for each id of the scan (`resultsOn_repaired`).  The number is right after the repair exactly
when the two together are what the step asked for.

The scan keeps one entry for each id.  A message that asks twice for the same id gets one answer
only (`repair_answers_repeated_call_once`).
-/

namespace Hartevo.Cordis

open Command List SessionLog

/-- The event is a result for the call. -/
def SessionEventKind.answers (c : String) : SessionEventKind → Bool
  | toolResult _ _ message _ _ => message.source == .tool c
  | _ => false

/-- The event of a node is a result for the call. -/
def isResult (c : String) (events : List SessionEvent) (node : ℕ) : Bool :=
  (events[node]?).any fun event => event.kind.answers c

section Surface

variable {c : String} {events : List SessionEvent} {event : SessionEvent} {nodes : List ℕ}
  {log next : SessionLog} {turn : ℕ}

end Surface

/-- The events of a step in which a model asked for a number of calls. -/
def askingEvents (ids : List String) : List SessionEvent :=
  [⟨0, 0, .turnStart 1⟩, ⟨1, 0, .stepStart 1 1⟩,
    ⟨2, 0, .assistantMessage 1 1 (.asking ids) ⟨.append, none⟩⟩]

def SessionLog.asking (ids : List String) : SessionLog :=
  { SessionLog.sample with
    events := askingEvents ids
    state := { lastTurn := 1, openTurn := some 1, lastStep := 1, openStep := some 1 }
    surface := ⟨[2], 0⟩ }

end Hartevo.Cordis
