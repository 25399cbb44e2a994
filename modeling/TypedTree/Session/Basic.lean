import TypedTree.Schema.Basic

/-!
# Sessions

A session numbers the nodes of the types that were declared in it, and remembers which type each
application of a generic type made. Functions supplied by declarations may also remember counters
and write log lines.
-/

namespace TypedTree

/-- The number of the next node, and the types that applications have made. -/
structure Session where
  nextId : NodeId := 1
  applications : List (Application × TypeId) := []

instance : Inhabited Session := ⟨{}⟩

namespace Session

/-- Lets numbering go on at the given number. -/
def resetIds (s : Session) (start : NodeId) : Session :=
  { s with nextId := start }

def clearApplications (s : Session) : Session :=
  { s with applications := [] }

def reset (s : Session) : Session :=
  (s.resetIds 1).clearApplications

def description (s : Session) : String :=
  "Session \x7b next_id: " ++ toString s.nextId.toNat ++ ", specializations: " ++
    toString s.applications.length ++ " \x7d"

/-- The type that an application has made. -/
def find? (s : Session) (application : Application) : Option TypeId :=
  s.applications.lookup application

def remember (s : Session) (application : Application) (t : TypeId) : Session :=
  { s with applications := s.applications ++ [(application, t)] }

end Session

/-- What supplied functions remember between calls: numbered counters and log lines. -/
structure Memory where
  counters : List Int64 := []
  log : List String := []

/-- Everything that construction may change. -/
structure State where
  sessions : List Session := []
  memory : Memory := {}

namespace State

def session (s : State) (id : SessionId) : Session :=
  s.sessions.getD id default

def modifySession (s : State) (id : SessionId) (change : Session → Session) : State :=
  { s with sessions := s.sessions.modify id change }

def addSession (s : State) : SessionId × State :=
  (s.sessions.length, { s with sessions := s.sessions ++ [{}] })

/-- Hands out the next node number of a session. Numbers start over behind the greatest. -/
def mint (s : State) (id : SessionId) : NodeId × State :=
  ((s.session id).nextId, s.modifySession id fun session =>
    { session with nextId := session.nextId + 1 })

def write (s : State) (line : String) : State :=
  { s with memory := { s.memory with log := s.memory.log ++ [line] } }

end State

end TypedTree
