import GraphClient.Pool.Step
import GraphClient.Traversal.Script

/-!
# Clients

A client asks queries of a pool, with a timeout of its own where the caller gives none.
-/

namespace GraphClient

/-- A client of a pool. -/
structure Client where
  pool : Pool

namespace Client

def isOpen (c : Client) : Bool := c.pool.isOpen

/-- The pool with a new call for a query; a closed client refuses it. The clock has to show the
deadlines of the call. -/
def query (c : Client) (q : Query) (timeout : Option Duration) : Except ClientError Client :=
  if c.isOpen then
    .ok ⟨c.pool.arrive q.toScript (timeout.getD c.pool.config.queryTimeout)⟩
  else .error (.poolExhausted "Client is closed")

/-- The pool with a new closer, unless it is closed. -/
def close (c : Client) : Client :=
  if c.isOpen then ⟨{ c.pool with closers := c.pool.closers ++ [.arrived] }⟩ else c

/-- The address and whether the client is open, for diagnostics. -/
def debugText (c : Client) : String :=
  "GremlinClient \x7b address: " ++ c.pool.config.address.debugText ++ ", open: " ++
    toString c.isOpen ++ " \x7d"

end Client

end GraphClient
