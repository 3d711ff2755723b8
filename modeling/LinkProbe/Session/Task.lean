import LinkProbe.Session

/-!
# Work from wait to wait

Work in step with what comes: it goes on whenever what it waits for is there, the time for the next
payload or something to read.

* `Session.Task`: what is to be done when the wait is over.
* `Session.start`: the work up to its first wait.
* `Session.Task.resume`: from one wait to the next.
-/

namespace LinkProbe.Session

/-- What work waits for, and who goes on with it. -/
inductive Task where
  /-- The time for the next payload. -/
  | sending (sender : Sender)
  /-- Something to read. -/
  | receiving (receiver : Receiver)
deriving DecidableEq, Repr

/-- Work that is over or has come to a wait. -/
inductive Progress where
  | finished (outcome : Outcome) (w : Work)
  | awaiting (task : Task) (w : Work)

/-- The sender waits for the time of its next payload, unless its limit is reached. -/
def proceed (s : Sender) (w : Work) : Progress :=
  if s.isDone then .finished (.ended .completed) (w.note (.senderStopped s.next))
  else .awaiting (.sending s) w

/-- The work up to its first wait. -/
def start (config : Config) (w : Work) : Progress :=
  match config.mode with
  | .send => proceed (senderOf config) (beginSend config w)
  | .receive => .awaiting (.receiving (receiverOf config)) (beginReceive config w)

/-- The work up to its next wait. A payload is written, or what can be read is read once. -/
def Task.resume : Task → Work → Progress
  | .sending s, w =>
    match Sender.tick ⟨s, w.connection, w.stats, w.elapsedMs⟩ with
    | (.error fault, r) => .finished (.failed fault) ((w.withRun r).note (.senderStopped s.next))
    | (.ok (), r) => proceed r.sender (w.withRun r)
  | .receiving r, w =>
    match r.runAtMost 1 w.connection w.sink w.stats with
    | (some .ended, desk, c) => .finished (.ended .peerClosed) (w.withDesk desk c)
    | (some (.failed fault), desk, c) => .finished (.failed fault) (w.withDesk desk c)
    | (none, desk, c) | (some .waiting, desk, c) =>
      .awaiting (.receiving { r with decoder := desk.decoder }) (w.withDesk desk c)

end LinkProbe.Session
