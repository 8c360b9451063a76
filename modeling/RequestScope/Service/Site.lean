import RequestScope.Extent.Process
import RequestScope.Service.ContextLayer
import RequestScope.Service.Cors
import RequestScope.Service.Endpoints
import RequestScope.Service.Normalize
import RequestScope.Service.Probes

/-!
# Sites

A site is a stack of layers around the routes: normal paths outside, then the context layer, then
the sharing with other origins, then the probes. `Site.serve` runs the programs of requests to their
ends, one after the other or side by side on one thread.
-/

namespace RequestScope

open Compression (Unpackers)

structure Site where
  normalize : Bool := false
  layer : Option ContextLayer := none
  cors : Option Cors := none
  now : String

namespace Site

def routes (site : Site) (unpackers : Unpackers) : List Route :=
  [healthRoute site.now, contextRoute] ++ Probe.routes unpackers

def service (site : Site) (unpackers : Unpackers) (ids : IdSupply) : Service :=
  let inner := Probe.around (Route.dispatch (site.routes unpackers))
  let shared := site.cors.elim inner fun cors => cors.around inner
  let bound := site.layer.elim shared fun layer => layer.around ids shared
  if site.normalize then normalizeLayer bound else bound

def process (site : Site) (ids : IdSupply) (number : Nat) (request : Http.Request)
    (unpackers : Unpackers := .stored) : Process LogRecord Outcome :=
  .ofProgram number [] (site.service unpackers ids request)

/-- An answered request: how its service ended, and what it logged. -/
structure Answer where
  exit : Option (Exit Outcome)
  records : List LogRecord

/-- The answer of a process. The failure of the service is turned into its response at the end,
which is logged. -/
def Answer.ofProcess (p : Process LogRecord Outcome) : Answer :=
  let late := match p.exit? with
    | some (.returned (.failure f)) => f.records
    | _ => []
  ⟨p.exit?, p.events ++ late⟩

/-- More rounds than the suspensions that a probe can be asked for. -/
def enoughRounds : Nat := 0x200000000

def serve (requests : List (Process LogRecord Outcome)) (world : World) : List Answer × World :=
  let (processes, world) := finishAll 0 enoughRounds requests world
  (processes.map Answer.ofProcess, world)

def serveInTurn : List (Process LogRecord Outcome) → World → List Answer × World
  | [], world => ([], world)
  | p :: rest, world =>
    let (answers, world) := serve [p] world
    let (others, world) := serveInTurn rest world
    (answers ++ others, world)

end Site

end RequestScope
