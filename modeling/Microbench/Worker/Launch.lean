import Microbench.Worker

/-!
Starting workers. All that the parent learns of a worker is whether it could be started, what came
over its connection, and how it exited; what a worker logs is shown where the parent's messages are.
-/

namespace Microbench

/-- What comes of the start of a worker. One that ran may never have connected, and has no exit code if a signal
ended it. -/
inductive Launch where
  | ran (connection : Option (List Arrival)) (exit : Option Int) (messages : List Log.Entry := [])
  | failed (reason : String)

/-- Starts workers; the number is that of the attempts before. -/
abbrev Launcher := Nat → WorkerArgs → Launch

namespace Launch

def reply (options : Options) : List Arrival :=
  match (Frame.optionsResponse options).encode with
  | .ok bytes => [.bytes bytes]
  | .error _ => []

def ofWorker (network : Link.Network) (registry : Registry) (executor : Executor)
    (options : Options) (args : WorkerArgs) : Launch :=
  let (outcome, world) :=
    (Worker.run network registry executor args (reply options)).run (World.start .empty)
  let connected := (Link.connect network args.host args.port).toOption.isSome
  let connection := if connected then some [.bytes world.sink] else none
  match outcome with
  | .ok code => .ran connection (some code) world.logged
  | .error f => .ran connection (some 1) (world.logged ++ [⟨.error, Worker.failureText f, none⟩])

def longestArgument : Nat := 131071

/-- A start with arguments that no program can be given fails, whatever the program. -/
def given (args : WorkerArgs) (launch : Launch) : Launch :=
  if args.toArguments.any (·.contains '\x00') then .failed "nul byte found in provided data"
  else if args.toArguments.any (·.utf8ByteSize > longestArgument) then
    .failed "Argument list too long (os error 7)"
  else launch

def unresolvable : Launch := .failed
  "Could not resolve 'benchfork' binary for forked runs. Build it with \x60cargo build --bin benchfork\x60."

end Launch

end Microbench
