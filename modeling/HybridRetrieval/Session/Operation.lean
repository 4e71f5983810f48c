import HybridRetrieval.Query.Basic
import HybridRetrieval.Session.Basic
/-!
# Operations on a session

What can be asked of a session through the names of its handles, and the session afterwards.
Answers to questions are left out: they change nothing.  Nor does an operation on a name without a
handle, or one that fails, except for what a failed opening has made.
-/

namespace HybridRetrieval

/-- What can be asked of a session. -/
inductive Operation where
  | openStore (name : String) (params : StoreParams)
  | clone (name other : String)
  | write (name : String) (write : Write)
  | query (name : String) (query : Query)
  | get (name id : String)
  | count (name : String)
  | stats (name : String)
  | close (name : String)

namespace Session

/-- Writes through a handle. -/
def writeThrough (s : Session) (handle : Store × Nat) (w : Write) : Session :=
  (s.write handle.2 fun c => do return ((), ← handle.1.write w c)).2

/-- The session after an operation. -/
def perform (s : Session) : Operation → Session
  | .openStore name p =>
    match s.openStore p with
    | (.ok handle, next) => next.setHandle name handle
    | (.error _, next) => next
  | .clone name other =>
    match s.handle? name with
    | some handle => s.setHandle other handle
    | none => s
  | .write name w =>
    match s.handle? name with
    | some handle => s.writeThrough handle w
    | none => s
  | .query _ _ | .get _ _ | .count _ | .stats _ => s
  | .close name =>
    match s.handle? name with
    | some handle => s.close handle.2
    | none => s

end Session

end HybridRetrieval
