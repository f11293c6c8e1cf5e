import Shakedown.Log.Directive

/-!
# Which events are told

A filter is a list of directives. Of those about an event the most specific one counts, and the event is
told if it matters at least as much as that directive's level.
-/

namespace Shakedown.Log

/-- A filter. -/
structure Filter where
  directives : List Directive
deriving DecidableEq, Repr

namespace Filter

/-- The filter of some directives; without any, errors are let through. -/
def ofDirectives (ds : List Directive) : Filter := ⟨if ds.isEmpty then [{ level := some .error }] else ds⟩

/-- The filter that a text writes: directives between commas. Nothing between two commas writes none. -/
def parse? (text : String) : Option Filter :=
  (((text.splitOn ",").filter (!·.isEmpty)).mapM Directive.parse?).map ofDirectives

/-- The filter for a number of requests to say more. -/
def ofVerbosity : Nat → Filter
  | 0 => ⟨[{ target := some "smoke", level := some .info }, { level := some .warn }]⟩
  | 1 => ⟨[{ target := some "smoke", level := some .debug }, { level := some .info }]⟩
  | _ => ⟨[{ target := some "smoke", level := some .trace }, { level := some .debug }]⟩

/-- The filter for the value of its variable and a number of requests to say more. -/
def choose (variable_ : Option String) (verbosity : Nat) : Filter :=
  (variable_.bind parse?).getD (ofVerbosity verbosity)

/-- The filter that lets nothing through. -/
def silent : Filter := ⟨[]⟩

/-- Of two directives about an event the more specific one, or else the later one. -/
def moreSpecific (best : Option Directive) (d : Directive) : Option Directive :=
  match best with
  | some b => if b.isBefore d then some b else some d
  | none => some d

/-- The directive that counts for an event. -/
def directiveFor (f : Filter) (e : Event) : Option Directive :=
  (f.directives.filter (·.concerns e)).foldl moreSpecific none

/-- Whether an event is told. -/
def isTold (f : Filter) (e : Event) : Bool :=
  match (f.directiveFor e).bind (·.level) with
  | some level => e.level.rank ≤ level.rank
  | none => false

end Filter
end Shakedown.Log
