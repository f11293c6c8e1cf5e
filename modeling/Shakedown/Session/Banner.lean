import Shakedown.Plan.Basic
import Shakedown.Text.Blank
import Shakedown.Text.Style

/-!
# What a session prints

The lines by which a session tells a user what it does.
-/

namespace Shakedown.Banner

open Text (Style)

/-- The title of a session, with the plan's description if it has one. -/
def opening (colours : Bool) (p : Plan) : String :=
  let title := (Style.boldOf .blue).paint colours "Running Smoke Test:"
  let name := (Style.boldOf .white).paint colours p.name
  s!"\n{title} {name}\n"

/-- The description of a plan. -/
def description (colours : Bool) (text : String) : String :=
  let shown := Style.dim.paint colours (Text.trim text)
  s!"  {shown}\n"

/-- The heading of a step. -/
def step (colours : Bool) (what detail : String) : String :=
  let arrow := (Style.boldOf .cyan).paint colours "==>"
  let what := (Style.of .cyan).paint colours what
  let detail := Style.dim.paint colours detail
  s!"\n{arrow} {what} {detail}\n"

/-- Something that went well. -/
def check (colours : Bool) (message : String) : String :=
  let mark := (Style.of .green).paint colours "✓"
  s!"  {mark} {message}\n"

/-- Something that went wrong. -/
def cross (colours : Bool) (message : String) : String :=
  let mark := (Style.of .red).paint colours "✗"
  s!"  {mark} {message}\n"

/-- The text of a query. -/
def query (colours : Bool) (text : String) : String :=
  let shown := Style.dim.paint colours text
  s!"  {shown}\n"

/-- A request to end the run has come. -/
def interrupted (colours : Bool) (signal : String) : String :=
  let mark := (Style.boldOf .yellow).paint colours "!"
  let text := (Style.of .yellow).paint colours s!"Interrupted by {signal}"
  s!"\n{mark} {text}\n"

/-- The last line of a session that passed. -/
def passed (colours : Bool) : String :=
  let mark := (Style.boldOf .green).paint colours "✓"
  let text := (Style.boldOf .green).paint colours "All tests passed!"
  s!"\n{mark} {text}\n\n"

/-- The last line of a session that failed in a phase. -/
def failed (colours : Bool) (phase : String) : String :=
  let mark := (Style.boldOf .red).paint colours "✗"
  let text := (Style.boldOf .red).paint colours "Smoke test failed"
  s!"\n{mark} {text} ({phase})\n\n"

end Shakedown.Banner
