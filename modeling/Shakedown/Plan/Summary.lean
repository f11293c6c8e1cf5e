import Shakedown.Plan.Basic
import Shakedown.Text.Style

/-!
# Plans in words

The summary of a plan for a terminal: its two executables, how readiness is awaited, and its queries.
-/

namespace Shakedown.Plan

open Text (Style)

/-- How readiness is awaited, in words. -/
def readinessText (p : Plan) : String := (p.server.readiness.probe.map Probe.describe).getD "fixed delay"

/-- The lines about queries from a position on. -/
def queryLines (colours : Bool) : Nat → List QueryStep → List String
  | _, [] => []
  | index, q :: rest =>
    let shown := Style.dim.paint colours q.query
    s!"    {index + 1}. {q.displayName index} {shown}\n" :: queryLines colours (index + 1) rest

/-- The summary of a plan. -/
def summary (colours : Bool) (p : Plan) : String :=
  let title := (Style.boldOf .blue).paint colours "Plan:"
  let name := (Style.boldOf .white).paint colours p.name
  s!"{title} {name}\n" ++
  s!"  server:  {p.server.target.name}\n" ++
  s!"  client:  {p.client.target.name}\n" ++
  s!"  ready:   {p.readinessText}\n" ++
  s!"  queries: {p.queries.length}\n" ++
  String.join (queryLines colours 0 p.queries)

/-- The words for a plan that is valid. -/
def verdict (colours : Bool) : String :=
  let mark := (Style.of .green).paint colours "✓"
  let text := (Style.of .green).paint colours "Plan is valid"
  s!"\n{mark} {text}\n"

end Shakedown.Plan
