import Shakedown.Path.Basic

/-!
# Test plans

A plan names a server, a client, and the queries that are put to the server through the client,
one client process each. Options that a plan leaves open are `none`; settings decide them.
-/

namespace Shakedown

/-- What the build tool compiles for. -/
inductive Profile where
  | debug
  | release
deriving DecidableEq, Repr

/-- The directory of a profile below the target directory, and its name in a plan. -/
def Profile.dirName : Profile → String
  | .debug => "debug"
  | .release => "release"

/-- An executable: an example or a binary that the build tool compiles, or a program that exists. -/
inductive Target where
  | example (name : String)
  | bin (name : String)
  | program (path : Path)
deriving DecidableEq, Repr

namespace Target

/-- The name that messages use. -/
def name : Target → String
  | .example n | .bin n => n
  | .program p => p.text

/-- Whether the build tool compiles the target. -/
def isBuilt : Target → Bool
  | .program _ => false
  | _ => true

end Target

/-- A health check of a starting server. -/
inductive Probe where
  | tcp (address : String)
  | command (argv : List String)
deriving DecidableEq, Repr

/-- A probe in words. -/
def Probe.describe : Probe → String
  | .tcp address => s!"tcp {address}"
  | .command argv => "command `" ++ " ".intercalate argv ++ "`"

/-- What a readiness ceiling without a successful probe leads to. -/
inductive OnTimeout where
  | proceed
  | fail
deriving DecidableEq, Repr

/-- Names and values of environment variables, sorted by name. -/
abbrev Environment := List (String × String)

/-- The environment with a variable set. -/
def Environment.insert (key value : String) : Environment → Environment
  | [] => [(key, value)]
  | (k, v) :: rest =>
    if key < k then (key, value) :: (k, v) :: rest
    else if key = k then (key, value) :: rest
    else (k, v) :: Environment.insert key value rest

/-- How the targets are compiled. -/
structure BuildSection where
  program : Option String := none
  args : Option (List String) := none
  profile : Profile := .debug
  features : List String := []
  skip : Bool := false
deriving DecidableEq, Repr

/-- How readiness is awaited. -/
structure ReadinessSection where
  probe : Option Probe := none
  ceilingSecs : Option Nat := none
  initialIntervalMs : Option Nat := none
  maxIntervalMs : Option Nat := none
  onTimeout : OnTimeout := .proceed
deriving DecidableEq, Repr

/-- The background process. -/
structure ServerSection where
  target : Target
  args : List String := []
  env : Environment := []
  quiet : Bool := false
  readiness : ReadinessSection := {}
deriving DecidableEq, Repr

/-- The executable that runs once for each query. -/
structure ClientSection where
  target : Target
  args : List String := []
  env : Environment := []
  timeoutSecs : Option Nat := none
deriving DecidableEq, Repr

/-- What the outcome of a query is held against. -/
structure Expectation where
  success : Option Bool := none
  outputContains : Option String := none
deriving DecidableEq, Repr

/-- One query. -/
structure QueryStep where
  name : Option String := none
  query : String
  args : List String := []
  timeoutSecs : Option Nat := none
  expect : Option Expectation := none
deriving DecidableEq, Repr

/-- The name of the query at a position counted from zero; an unnamed one is called by its position
counted from one. -/
def QueryStep.displayName (q : QueryStep) (index : Nat) : String := q.name.getD s!"query {index + 1}"

/-- A plan. -/
structure Plan where
  name : String
  description : Option String := none
  root : Option Path := none
  build : BuildSection := {}
  server : ServerSection
  client : ClientSection
  queries : List QueryStep
deriving DecidableEq, Repr

/-- The targets that the build step compiles, the server's first, equal ones once. -/
def Plan.builtTargets (p : Plan) : List Target :=
  [p.server.target, p.client.target].foldl
    (fun found t => if t.isBuilt && !found.contains t then found ++ [t] else found) []

end Shakedown
