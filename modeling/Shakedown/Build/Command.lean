import Shakedown.Plan.Basic

/-!
# Build commands

The command that compiles the targets of a plan: the plan's own arguments if it gives some, else
`build` with the profile, the features and the targets. A plan that skips the build, or has nothing
to compile and gives no arguments, has none.
-/

namespace Shakedown

/-- A program and its arguments. -/
structure BuildCommand where
  program : String
  args : List String
deriving DecidableEq, Repr

namespace BuildCommand

/-- The arguments that select a target. -/
def targetArgs : Target → List String
  | .example name => ["--example", name]
  | .bin name => ["--bin", name]
  | .program _ => []

/-- The arguments that compile the given targets. -/
def composedArgs (b : BuildSection) (targets : List Target) : List String :=
  ["build"] ++ (if b.profile = .release then ["--release"] else []) ++
    (if b.features.isEmpty then [] else ["--features", ",".intercalate b.features]) ++
    targets.flatMap targetArgs

/-- The command for a plan, with a program for plans that name none. -/
def ofPlan? (p : Plan) (defaultProgram : String) : Option BuildCommand :=
  if p.build.skip then none
  else
    let program := p.build.program.getD defaultProgram
    match p.build.args with
    -- Arguments of the plan are taken as they are, with nothing added.
    | some args => some ⟨program, args⟩
    | none =>
      if p.builtTargets.isEmpty then none else some ⟨program, composedArgs p.build p.builtTargets⟩

/-- Program and arguments in one line. -/
def display (c : BuildCommand) : String := " ".intercalate (c.program :: c.args)

end BuildCommand
end Shakedown
