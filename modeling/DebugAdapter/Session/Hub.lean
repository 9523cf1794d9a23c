import DebugAdapter.Session.Basic

/-!
# Sessions and their debuggees

Any number of sessions, and the debuggees behind their targets. Several
sessions may have one debuggee; it reports to the one that was bound last. A
step is a step of one session; its calls take effect on the debuggee before
anything else happens.
-/

namespace DebugAdapter

/-- A debuggee that has nothing to say; it stands for no debuggee. -/
def Debuggee.silent : Debuggee where
  client := none
  errorFilter := ""
  callStack := []
  coroutineName := none
  watches := fun _ => []
  scopeValue := fun _ _ => .ok .nil
  evaluate := fun _ _ => .error ""
  compileCondition := fun _ => .ok ()
  findSource := fun _ => none
  sourceInfo := fun _ => none
  confirmedLines := fun _ _ => []

instance : Inhabited Debuggee := ⟨.silent⟩

/-- What a step does outside: calls to debuggees, and messages put into queues. -/
structure Effects where
  calls : List (InstanceKey × Call)
  queued : List (SessionId × Outgoing)

namespace Effects

def none : Effects := ⟨[], []⟩

def append (a b : Effects) : Effects := ⟨a.calls ++ b.calls, a.queued ++ b.queued⟩

instance : Append Effects := ⟨append⟩

end Effects

structure Hub where
  debuggees : InstanceKey → Debuggee
  sessions : List Session

namespace Hub

def start (debuggees : InstanceKey → Debuggee) : Hub := ⟨debuggees, []⟩

def session? (h : Hub) (id : SessionId) : Option Session := h.sessions[id]?

def debuggeeOf (h : Hub) : Option Target → Debuggee
  | some t => h.debuggees t.key
  | none => .silent

/-- Calls change what a debuggee answers. -/
def call (h : Hub) (key : InstanceKey) (calls : List Call) : Hub :=
  { h with debuggees := fun k =>
      if k = key then calls.foldl Debuggee.after (h.debuggees k) else h.debuggees k }

/-- A debuggee answers differently from now on; who it reports to and which
errors it traps are not up to it. -/
def refresh (h : Hub) (key : InstanceKey) (answers : Debuggee) : Hub :=
  { h with debuggees := fun k =>
      let d := h.debuggees k
      if k = key then { answers with client := d.client, errorFilter := d.errorFilter } else d }

def openSession (h : Hub) (port : Nat) (target : Option Target) (defaultLevels : Nat) : Hub :=
  { h with sessions := h.sessions ++ [.fresh h.sessions.length port target defaultLevels] }

def act (h : Hub) (id : SessionId) (step : Session → Debuggee → Outcome) : Hub × Effects :=
  match h.session? id with
  | none => (h, .none)
  | some s =>
    let outcome := step s (h.debuggeeOf s.target)
    let h := { h with sessions := h.sessions.set id outcome.session }
    let queued := outcome.queued.map fun m => (id, m)
    match s.target with
    | none => (h, ⟨[], queued⟩)
    | some t => (h.call t.key outcome.calls, ⟨outcome.calls.map fun c => (t.key, c), queued⟩)

def request (h : Hub) (id : SessionId) (directory : List DirectoryEntry) (r : Request) :
    Hub × Effects := h.act id fun s d => s.request d directory r

def notify (h : Hub) (id : SessionId) (n : Notification) : Hub × Effects :=
  h.act id fun s d => s.notify d n

def terminate (h : Hub) (id : SessionId) (restart : Bool) : Hub × Effects :=
  h.act id fun s d => s.terminate d restart

def connectionClosed (h : Hub) (id : SessionId) : Hub × Effects :=
  h.act id fun s d => s.connectionClosed d

def terminateAll (h : Hub) : List (SessionId × Bool) → Hub × Effects
  | [] => (h, .none)
  | (id, restart) :: rest =>
    let (h, first) := h.terminate id restart
    let (h, others) := h.terminateAll rest
    (h, first ++ others)

end Hub

end DebugAdapter
