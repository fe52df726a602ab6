import Microbench.Link.Client

/-!
A server of connections that come one after another. After each of them the server waits until its
handler is done, so that everything a client has sent was acted on before the next one comes.
-/

namespace Microbench.Link

/-- What is seen of a connection: the client's answers, the handlers that were registered before
the wait, and the number of results after it. -/
structure Seen where
  answers : List (Option Options)
  handlers : Nat
  stored : Nat

def visit {σ : Type} (sink : Sink σ) (options : Options) (steps : List Step) : Act σ Seen := do
  let played := play options steps
  Act.note .accepted
  let handler : Handler σ := ⟨sink, options, (← get).connections⟩
  let _ ← handler.serve [.bytes played.sent]
  return ⟨played.answers, 1, (← get).store.size⟩

def session {σ : Type} (sink : Sink σ) (options : Options) (clients : List (List Step)) :
    Act σ (List Seen) := clients.mapM (visit sink options)

end Microbench.Link
