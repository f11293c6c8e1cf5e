import Shakedown.Plan.Decode

/-!
# The built-in plan

The plan that is run when no plan file is named: an example server and its client, with four nested
queries.
-/

namespace Shakedown.Plan

/-- The text of the built-in plan. -/
def builtinText : String :=
  "name: gRPC example smoke test\n" ++
  "description: >\n" ++
  "  Builds the grpc_server and grpc_client examples, starts the server and\n" ++
  "  runs four nested user/post/comment/like queries through the client.\n" ++
  "\n" ++
  "build:\n" ++
  "  profile: debug\n" ++
  "\n" ++
  "server:\n" ++
  "  target: \x7b example: grpc_server \x7d\n" ++
  "  readiness:\n" ++
  "    probe: \x7b tcp: \"127.0.0.1:50051\" \x7d\n" ++
  "    ceiling_secs: 3\n" ++
  "    on_timeout: proceed\n" ++
  "\n" ++
  "client:\n" ++
  "  target: \x7b example: grpc_client \x7d\n" ++
  "  timeout_secs: 60\n" ++
  "\n" ++
  "queries:\n" ++
  "  - name: users\n" ++
  "    query: \"\x7b users \x7b id name email \x7d \x7d\"\n" ++
  "  - name: users with posts\n" ++
  "    query: \"\x7b users \x7b id name posts \x7b id title \x7d \x7d \x7d\"\n" ++
  "  - name: posts with comments\n" ++
  "    query: \"\x7b users \x7b name posts \x7b title comments \x7b id body \x7d \x7d \x7d \x7d\"\n" ++
  "  - name: comments with likes\n" ++
  "    query: \"\x7b users \x7b name posts \x7b title likes \x7b id userId \x7d comments \x7b body likes \x7b id \x7d \x7d \x7d \x7d \x7d\"\n"

/-- The built-in plan. -/
def builtin : Except ParseError Plan := parse builtinText

end Shakedown.Plan
