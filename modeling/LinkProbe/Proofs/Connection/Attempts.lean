import LinkProbe.Proofs.Connection.Moves

/-!
# Attempts to connect

The addresses of a host are tried one after the other. The first that does not fail decides the
attempt, and if all of them fail it is the last one.

* `triedIn`: the addresses that a log tells were tried.
* `Connection.Decides`: the address that decides an attempt; `Connection.connect_decided`: how.
* `Connection.connect_opened`: a connection that was opened is usable, and some address took it.
* `Connection.Untold`: the ends of the connection that is made cannot be told.
* `Connection.Obstacle`: why a connection is not made; `Connection.connect_of_obstacle` and
  `Connection.connect_failed`: it is not made just then.
* `Connection.tries_in_order`: which addresses an attempt tries, and what comes of it.
-/

namespace LinkProbe

/-- The host and the port as they were given. -/
def plainTarget (host : String) (port : UInt16) : String := s!"{host}:{port.toNat}"

/-! ## Addresses that were tried -/

/-- The address that the event tells was tried. -/
def Event.tried? : Event → Option Endpoint
  | .trying address => some address
  | _ => none

/-- The addresses that a log tells were tried, in order. -/
def triedIn (log : Array Event) : List Endpoint := log.toList.filterMap Event.tried?

@[simp] theorem triedIn_push (log : Array Event) (event : Event) :
    triedIn (log.push event) = triedIn log ++ event.tried?.toList := by
  rw [triedIn, Array.toList_push, List.filterMap_append, triedIn]
  cases htried : event.tried? <;> simp [htried]

/-- An event that tells of no attempt leaves what was tried. -/
theorem triedIn_push_other {event : Event} (h : event.tried? = none) (log : Array Event) :
    triedIn (log.push event) = triedIn log := by
  rw [triedIn_push, h]
  exact List.append_nil _

/-- What a search adds to a log: it tries these addresses and tells of no move. -/
structure Searched (log log' : Array Event) (tried : List Endpoint) : Prop where
  grows : ∃ events, log'.toList = log.toList ++ events
  tried : triedIn log' = triedIn log ++ tried
  moves : movesOf log' = movesOf log

namespace Searched

variable {log log' later : Array Event} {tried more : List Endpoint}

theorem refl (log : Array Event) : Searched log log [] :=
  ⟨⟨[], (List.append_nil _).symm⟩, (List.append_nil _).symm, rfl⟩

theorem push (h : Searched log log' tried) {event : Event} (hmove : event.move? = none) :
    Searched log (log'.push event) (tried ++ event.tried?.toList) := by
  obtain ⟨⟨events, hevents⟩, htried, hmoves⟩ := h
  refine ⟨⟨events ++ [event], ?_⟩, ?_, ?_⟩
  · rw [Array.toList_push, hevents, List.append_assoc]
  · rw [triedIn_push, htried, List.append_assoc]
  · rw [movesOf_push, hmove, hmoves]
    exact List.append_nil _

theorem trans (h : Searched log log' tried) (hmore : Searched log' later more) :
    Searched log later (tried ++ more) := by
  obtain ⟨⟨events, hevents⟩, htried, hmoves⟩ := h
  obtain ⟨⟨others, hothers⟩, hafter, hmove⟩ := hmore
  refine ⟨⟨events ++ others, ?_⟩, ?_, hmove.trans hmoves⟩
  · rw [hothers, hevents, List.append_assoc]
  · rw [hafter, htried, List.append_assoc]

/-- One more address is tried. -/
theorem trying (h : Searched log log' tried) (address : Endpoint) :
    Searched log (log'.push (.trying address)) (tried ++ [address]) := h.push rfl

theorem attemptFailed (h : Searched log log' tried) (address : Endpoint) (failure : IoFailure) :
    Searched log (log'.push (.attemptFailed address failure)) tried := by
  have hpushed : Searched log _ (tried ++ []) := @push _ _ _ h (.attemptFailed address failure) rfl
  rwa [List.append_nil] at hpushed

end Searched

namespace Connection

/-! ## Searches -/

variable {network : Network} {host : String} {port : UInt16} {timeoutMs : Option Nat}
  {last failure : IoFailure} {fault : Fault} {log log' : Array Event} {addresses : List Endpoint}
  {before after : List Endpoint} {address : Endpoint} {ips : List IpAddress}

/-- All attempts to connect to the addresses fail. -/
def AllFail (network : Network) (addresses : List Endpoint) : Prop :=
  ∀ address ∈ addresses, ∃ failure, network.reach address = .fails failure

/-- The address decides an attempt: it is the first that does not fail, or the last of all. -/
structure Decides (network : Network) (before : List Endpoint) (address : Endpoint)
    (after : List Endpoint) : Prop where
  before : AllFail network before
  last : after = [] ∨ ∀ failure, network.reach address ≠ .fails failure

/-- One of the addresses decides, if there are any. -/
theorem exists_decides (network : Network) (h : addresses ≠ []) : ∃ before address after,
    addresses = before ++ address :: after ∧ Decides network before address after := by
  induction addresses with
  | nil => exact absurd rfl h
  | cons address rest ih =>
    by_cases hfails : ∃ failure, network.reach address = .fails failure
    · by_cases hrest : rest = []
      · exact ⟨[], address, rest, rfl, by simp [AllFail], .inl hrest⟩
      · obtain ⟨before, final, after, rfl, hbefore, hlast⟩ := ih hrest
        exact ⟨address :: before, final, after, rfl, List.forall_mem_cons.mpr ⟨hfails, hbefore⟩,
          hlast⟩
    · exact ⟨[], address, rest, rfl, by simp [AllFail],
        .inr fun failure hreach => hfails ⟨failure, hreach⟩⟩

/-- A search tries addresses that fail and goes on behind them. -/
theorem search_append (hbefore : AllFail network addresses) (last : IoFailure) (log : Array Event)
    (more : List Endpoint) : ∃ last' log', Searched log log' addresses ∧
      search network last log (addresses ++ more) = search network last' log' more := by
  induction addresses generalizing last log with
  | nil => exact ⟨last, log, .refl log, rfl⟩
  | cons address rest ih =>
    obtain ⟨⟨failure, hfails⟩, hrest⟩ := List.forall_mem_cons.mp hbefore
    have hfirst := ((Searched.refl log).trying address).attemptFailed address failure
    obtain ⟨last', log', hsearched, hsearch⟩ := ih hrest failure
      ((log.push (.trying address)).push (.attemptFailed address failure))
    refine ⟨last', log', hfirst.trans hsearched, ?_⟩
    rw [List.cons_append, search]
    simp only [hfails, hsearch]

/-- What a search finds at the address that decides. -/
def found : Reach → Search
  | .accepts peer localEnd wire => .accepted peer localEnd wire
  | .untold failure => .untold failure
  | .fails failure => .exhausted failure
  | .silent => .stuck

/-- A search finds what there is at the address that decides. -/
theorem search_decided (h : Decides network before address after) (last : IoFailure)
    (log : Array Event) : ∃ log', Searched log log' (before ++ [address]) ∧
      search network last log (before ++ address :: after) =
        (found (network.reach address), log') := by
  obtain ⟨last', log', hsearched, hsearch⟩ := search_append h.before last log (address :: after)
  have hnext := hsearched.trying address
  -- What fails before the address is behind; only its own answer is left to look at.
  rw [hsearch, search]
  cases hreach : network.reach address with
  | accepts _ _ _ | untold _ | silent => exact ⟨_, hnext, rfl⟩
  | fails failure =>
    obtain rfl := h.last.resolve_right fun hnot => hnot failure hreach
    exact ⟨_, hnext.attemptFailed address failure, rfl⟩

/-- What comes of an attempt at the address that decides. -/
theorem connect_decided (hresolve : network.resolve host = .ok ips)
    (hips : ips.map (⟨·, port⟩) = before ++ address :: after)
    (hdecides : Decides network before address after) (timeoutMs : Option Nat)
    (log : Array Event) :
    ∃ log', Searched (log.push (.moved .init .connecting)) log' (before ++ [address]) ∧
      connect network host port timeoutMs log =
        match network.reach address with
        | .accepts peer localEnd wire =>
          .opened ⟨peer, localEnd, .opened, wire,
            (log'.push (.moved .connecting .opened)).push (.connected peer localEnd)⟩
        | .untold failure =>
          .failed (.connect (plainTarget host port) (.classify failure) failure) log'
        | .fails last => give (plainTarget host port) (.classify last) last log'
        | .silent =>
          match timeoutMs with
          | some milliseconds =>
            give (plainTarget host port) .timeout (noAnswer milliseconds) log'
          | none => .waiting log' := by
  obtain ⟨log', hsearched, hsearch⟩ := search_decided hdecides (noAddresses host)
    (log.push (.moved .init .connecting))
  refine ⟨log', hsearched, ?_⟩
  cases ips with
  | nil => simp at hips
  | cons ip ips =>
    simp only [connect, hresolve, hips, hsearch]
    cases network.reach address with
    | accepts _ _ _ | untold _ | fails _ => rfl
    | silent => cases timeoutMs <;> rfl

/-- An attempt fails because of the host's name, or one of its addresses decides. -/
theorem connect_cases (network : Network) (host : String) (port : UInt16) :
    (∃ source, network.resolve host = .error source ∧ ∀ timeoutMs log,
      connect network host port timeoutMs log = give (plainTarget host port) .dnsFailure source
        (log.push (.moved .init .connecting))) ∨
    (network.resolve host = .ok [] ∧ ∀ timeoutMs log,
      connect network host port timeoutMs log = give (plainTarget host port) .dnsFailure
        (noAddresses host) (log.push (.moved .init .connecting))) ∨
    ∃ ips before address after, network.resolve host = .ok ips ∧
      ips.map (⟨·, port⟩) = before ++ address :: after ∧ Decides network before address after := by
  cases hresolve : network.resolve host with
  | error source => exact .inl ⟨source, rfl, fun _ _ => by simp only [connect, hresolve]; rfl⟩
  | ok ips =>
    cases ips with
    | nil => exact .inr (.inl ⟨rfl, fun _ _ => by simp only [connect, hresolve]; rfl⟩)
    | cons ip ips =>
      have hsome : (ip :: ips).map (⟨·, port⟩ : IpAddress → Endpoint) ≠ [] := List.cons_ne_nil _ _
      obtain ⟨before, address, after, hips, hdecides⟩ := exists_decides network hsome
      exact .inr (.inr ⟨_, before, address, after, rfl, hips, hdecides⟩)

/-- A connection that was opened is usable, some address took it, and the log tells of both
moves. -/
theorem connect_opened {c : Connection} (h : connect network host port timeoutMs log = .opened c) :
    c.state = .opened ∧ (∃ address, network.reach address = .accepts c.peer c.localEnd c.wire) ∧
      movesOf c.log = movesOf log ++ [(.init, .connecting), (.connecting, .opened)] := by
  rcases connect_cases network host port with ⟨source, -, hconnect⟩ | ⟨-, hconnect⟩ |
    ⟨ips, before, address, after, hresolve, hips, hdecides⟩
  · cases (hconnect timeoutMs log).symm.trans h
  · cases (hconnect timeoutMs log).symm.trans h
  · obtain ⟨log', hsearched, hconnect⟩ :=
      connect_decided hresolve hips hdecides timeoutMs log
    rw [h] at hconnect
    cases hreach : network.reach address with
    | accepts peer localEnd wire =>
      rw [hreach] at hconnect
      cases hconnect
      refine ⟨rfl, ⟨address, hreach⟩, ?_⟩
      simp [hsearched.moves, Event.move?]
    | untold _ | fails _ => rw [hreach] at hconnect; cases hconnect
    | silent => rw [hreach] at hconnect; cases timeoutMs <;> cases hconnect

theorem state_connect {c : Connection} (h : connect network host port timeoutMs log = .opened c) :
    c.state = .opened :=
  (connect_opened h).1

theorem reach_connect {c : Connection} (h : connect network host port timeoutMs log = .opened c) :
    ∃ address, network.reach address = .accepts c.peer c.localEnd c.wire :=
  (connect_opened h).2.1

/-! ## Failures -/

/-- The address that decides takes the connection, but one of its two ends cannot be told. -/
def Untold (network : Network) (host : String) (port : UInt16) (failure : IoFailure) : Prop :=
  ∃ ips before address after, network.resolve host = .ok ips ∧
    ips.map (⟨·, port⟩) = before ++ address :: after ∧ AllFail network before ∧
    network.reach address = .untold failure

/-- Why a connection is not made. -/
inductive Obstacle (network : Network) (host : String) (port : UInt16) (timeoutMs : Option Nat) :
    ConnectKind → IoFailure → Prop
  | unresolved {source : IoFailure} (h : network.resolve host = .error source) :
      Obstacle network host port timeoutMs .dnsFailure source
  | unaddressed (h : network.resolve host = .ok []) :
      Obstacle network host port timeoutMs .dnsFailure (noAddresses host)
  /-- All addresses fail, the last one like this. -/
  | failed {ips : List IpAddress} {before : List Endpoint} {address : Endpoint} {last : IoFailure}
      (h : network.resolve host = .ok ips) (hips : ips.map (⟨·, port⟩) = before ++ [address])
      (hbefore : AllFail network before) (hlast : network.reach address = .fails last) :
      Obstacle network host port timeoutMs (.classify last) last
  | untold {failure : IoFailure} (h : Untold network host port failure) :
      Obstacle network host port timeoutMs (.classify failure) failure
  /-- An address gives no answer within the time, after all before it have failed. -/
  | late {ips : List IpAddress} {before after : List Endpoint} {address : Endpoint}
      {milliseconds : Nat} (h : network.resolve host = .ok ips)
      (hips : ips.map (⟨·, port⟩) = before ++ address :: after) (hbefore : AllFail network before)
      (hsilent : network.reach address = .silent) (htime : timeoutMs = some milliseconds) :
      Obstacle network host port timeoutMs .timeout (noAnswer milliseconds)

theorem Decides.untold (h : AllFail network before)
    (hreach : network.reach address = .untold failure) : Decides network before address after :=
  ⟨h, .inr fun _ => by rw [hreach]; exact Reach.noConfusion⟩

theorem Decides.silent (h : AllFail network before) (hreach : network.reach address = .silent) :
    Decides network before address after :=
  ⟨h, .inr fun _ => by rw [hreach]; exact Reach.noConfusion⟩

/-- Where the ends of the connection cannot be told, the attempt fails with that, and without a
move. -/
theorem connect_of_untold (h : Untold network host port failure) (timeoutMs : Option Nat)
    (log : Array Event) : ∃ log', connect network host port timeoutMs log =
      .failed (.connect (plainTarget host port) (.classify failure) failure) log' ∧
      movesOf log' = movesOf log ++ [(.init, .connecting)] := by
  obtain ⟨ips, before, address, after, hresolve, hips, hbefore, hreach⟩ := h
  obtain ⟨log', hsearched, hconnect⟩ :=
    connect_decided hresolve hips (.untold hbefore hreach) timeoutMs log
  rw [hreach] at hconnect
  exact ⟨log', hconnect, hsearched.moves.trans (movesOf_push log _)⟩

/-- Whatever stands in the way, the connection fails under the host and the port as they were
given. -/
theorem connect_of_obstacle {kind : ConnectKind} {source : IoFailure}
    (h : Obstacle network host port timeoutMs kind source) (log : Array Event) : ∃ log',
      connect network host port timeoutMs log =
        .failed (.connect (plainTarget host port) kind source) log' := by
  cases h with
  | unresolved hresolve =>
    simp only [connect, hresolve]
    exact ⟨_, rfl⟩
  | unaddressed hresolve =>
    simp only [connect, hresolve]
    exact ⟨_, rfl⟩
  | failed hresolve hips hbefore hlast =>
    obtain ⟨log', -, hconnect⟩ :=
      connect_decided hresolve hips ⟨hbefore, .inl rfl⟩ timeoutMs log
    rw [hlast] at hconnect
    exact ⟨_, hconnect⟩
  | untold h =>
    obtain ⟨log', hconnect, -⟩ := connect_of_untold h timeoutMs log
    exact ⟨log', hconnect⟩
  | late hresolve hips hbefore hsilent htime =>
    subst htime
    obtain ⟨log', -, hconnect⟩ := connect_decided hresolve hips (.silent hbefore hsilent) _ log
    rw [hsilent] at hconnect
    exact ⟨_, hconnect⟩

/-- A connection that is not made fails under the host and the port as they were given, its log goes
on from the log before it, and tells of the failure as a move unless the ends of the connection
could not be told. -/
theorem connect_failed (h : connect network host port timeoutMs log = .failed fault log') :
    (∃ kind source, fault = .connect (plainTarget host port) kind source ∧
      Obstacle network host port timeoutMs kind source) ∧
    (∃ events, log'.toList = log.toList ++ events) ∧
    ((∀ failure, ¬ Untold network host port failure) →
      movesOf log' = movesOf log ++ [(.init, .connecting), (.connecting, .closed)]) := by
  -- A move more leaves a log that goes on from the one before.
  have hgive {later : Array Event} {tried : List Endpoint} (target : String) (kind : ConnectKind)
      (source : IoFailure)
      (hsearched : Searched (log.push (.moved .init .connecting)) later tried)
      (hfailed : give target kind source later = .failed fault log') :
      fault = .connect target kind source ∧ (∃ events, log'.toList = log.toList ++ events) ∧
        movesOf log' = movesOf log ++ [(.init, .connecting), (.connecting, .closed)] := by
    cases hfailed
    obtain ⟨⟨events, hevents⟩, -, hmoves⟩ := hsearched
    refine ⟨rfl, ⟨.moved .init .connecting :: events ++ [.moved .connecting .closed], ?_⟩, ?_⟩
    · rw [Array.toList_push, hevents, Array.toList_push]
      simp
    · rw [movesOf_push, hmoves, movesOf_push, List.append_assoc]
      rfl
  rcases connect_cases network host port with ⟨source, hresolve, hconnect⟩ |
    ⟨hresolve, hconnect⟩ | ⟨ips, before, address, after, hresolve, hips, hdecides⟩
  · rw [hconnect] at h
    obtain ⟨rfl, hgrows, hmoves⟩ := hgive _ _ _ (.refl _) h
    exact ⟨⟨_, _, rfl, .unresolved hresolve⟩, hgrows, fun _ => hmoves⟩
  · rw [hconnect] at h
    obtain ⟨rfl, hgrows, hmoves⟩ := hgive _ _ _ (.refl _) h
    exact ⟨⟨_, _, rfl, .unaddressed hresolve⟩, hgrows, fun _ => hmoves⟩
  · obtain ⟨later, hsearched, hconnect⟩ := connect_decided hresolve hips hdecides timeoutMs log
    rw [h] at hconnect
    cases hreach : network.reach address with
    | accepts _ _ _ => rw [hreach] at hconnect; cases hconnect
    | untold failure =>
      rw [hreach] at hconnect
      cases hconnect
      have huntold : Untold network host port failure :=
        ⟨ips, before, address, after, hresolve, hips, hdecides.before, hreach⟩
      obtain ⟨events, hevents⟩ := hsearched.grows
      refine ⟨⟨_, _, rfl, .untold huntold⟩, ⟨.moved .init .connecting :: events, ?_⟩,
        fun hnone => absurd huntold (hnone failure)⟩
      rw [hevents, Array.toList_push, List.append_assoc]
      rfl
    | fails last =>
      rw [hreach] at hconnect
      obtain rfl := hdecides.last.resolve_right fun hnot => hnot last hreach
      obtain ⟨rfl, hgrows, hmoves⟩ := hgive _ _ _ hsearched hconnect.symm
      exact ⟨⟨_, _, rfl, .failed hresolve hips hdecides.before hreach⟩, hgrows, fun _ => hmoves⟩
    | silent =>
      rw [hreach] at hconnect
      cases timeoutMs with
      | none => cases hconnect
      | some milliseconds =>
        obtain ⟨rfl, hgrows, hmoves⟩ := hgive _ _ _ hsearched hconnect.symm
        exact ⟨⟨_, _, rfl, .late hresolve hips hdecides.before hreach rfl⟩, hgrows, fun _ => hmoves⟩

/-- A connection fails for the reason that stands in its way. -/
theorem failed_iff_obstacle {kind : ConnectKind} {source : IoFailure} :
    (∃ log', connect network host port timeoutMs log =
      .failed (.connect (plainTarget host port) kind source) log') ↔
        Obstacle network host port timeoutMs kind source := by
  refine ⟨fun ⟨log', hfailed⟩ => ?_, fun hobstacle => connect_of_obstacle hobstacle log⟩
  obtain ⟨⟨kind', source', hfault, hobstacle⟩, -⟩ := connect_failed hfailed
  obtain ⟨-, rfl, rfl⟩ := Fault.connect.inj hfault
  exact hobstacle

/-! ## All addresses -/

/-- What the failure of an address means, by its class alone. -/
theorem classify_eq (failure : IoFailure) : ConnectKind.classify failure =
    if failure.kind = .connectionRefused then .refused
    else if failure.kind = .timedOut then .timeout
    else .unreachable := by
  unfold ConnectKind.classify
  cases failure.kind <;> rfl

theorem classify_ne_dnsFailure (failure : IoFailure) :
    ConnectKind.classify failure ≠ .dnsFailure := by
  rw [classify_eq]
  split
  · nofun
  · split <;> nofun

/-- No failure of an address is blamed on the name of the host. -/
theorem exists_dnsFailure_iff :
    (∃ source, Obstacle network host port timeoutMs .dnsFailure source) ↔
      (∃ source, network.resolve host = .error source) ∨ network.resolve host = .ok [] := by
  constructor
  · rintro ⟨source, hobstacle⟩
    generalize hkind : ConnectKind.dnsFailure = kind at hobstacle
    cases hobstacle with
    | unresolved hresolve => exact .inl ⟨_, hresolve⟩
    | unaddressed hresolve => exact .inr hresolve
    | failed | untold _ => exact absurd hkind.symm (classify_ne_dnsFailure _)
    | late => cases hkind
  · rintro (⟨source, hresolve⟩ | hresolve)
    · exact ⟨source, .unresolved hresolve⟩
    · exact ⟨_, .unaddressed hresolve⟩

/-- **The addresses of a host are tried in order, each once, up to the first that does not fail.**
That one decides: it is what the connection leads to, or the attempt waits for it until its time is
over. If all fail, the last failure is that of the attempt. The name of the host is to blame only if
it has no address. An attempt that fails is over, unless the ends of a connection could not be
told. -/
theorem tries_in_order (network : Network) (host : String) (port : UInt16)
    (timeoutMs : Option Nat) (log : Array Event) :
    let attempt := connect network host port timeoutMs log
    let target := s!"{host}:{port.toNat}"
    let classified (failure : IoFailure) : ConnectKind :=
      if failure.kind = .connectionRefused then .refused
      else if failure.kind = .timedOut then .timeout else .unreachable
    let tries (tried : List Endpoint) (log' : Array Event) := triedIn log' = triedIn log ++ tried
    let fails (tried : List Endpoint) (kind : ConnectKind) (source : IoFailure) :=
      ∃ log', attempt = .failed (.connect target kind source) log' ∧ tries tried log'
    (∀ source, network.resolve host = .error source → fails [] .dnsFailure source) ∧
    (network.resolve host = .ok [] →
      fails [] .dnsFailure (.stated .notFound s!"{host} resolved to no addresses")) ∧
    (∀ ips before address after, network.resolve host = .ok ips →
      ips.map (⟨·, port⟩) = before ++ address :: after →
      (∀ earlier ∈ before, ∃ failure, network.reach earlier = .fails failure) →
      (∀ peer localEnd wire, network.reach address = .accepts peer localEnd wire →
        ∃ log', attempt = .opened ⟨peer, localEnd, .opened, wire, log'⟩ ∧
          tries (before ++ [address]) log') ∧
      (∀ milliseconds, network.reach address = .silent → timeoutMs = some milliseconds →
        fails (before ++ [address]) .timeout
          (.stated .timedOut s!"no connection after {milliseconds} ms")) ∧
      (network.reach address = .silent → timeoutMs = none →
        ∃ log', attempt = .waiting log' ∧ tries (before ++ [address]) log') ∧
      (∀ last, network.reach address = .fails last → after = [] →
        fails (before ++ [address]) (classified last) last) ∧
      (∀ failure, network.reach address = .untold failure →
        fails (before ++ [address]) (classified failure) failure)) ∧
    ((∃ source log', attempt = .failed (.connect target .dnsFailure source) log') ↔
      (∃ source, network.resolve host = .error source) ∨ network.resolve host = .ok []) ∧
    (∀ fault log', attempt = .failed fault log' →
      (∃ kind source, fault = .connect target kind source) ∧
      ((∀ failure, ¬ Untold network host port failure) →
        movesOf log' = movesOf log ++ [(.init, .connecting), (.connecting, .closed)]) ∧
      (∀ failure, Untold network host port failure →
        movesOf log' = movesOf log ++ [(.init, .connecting)])) := by
  intro attempt target classified tries fails
  have hbegun : triedIn (log.push (.moved .init .connecting)) = triedIn log :=
    triedIn_push_other rfl log
  have hgiven {tried : List Endpoint} {log' : Array Event}
      (h : Searched (log.push (.moved .init .connecting)) log' tried) :
      tries tried (log'.push (.moved .connecting .closed)) :=
    (triedIn_push_other rfl log').trans (h.tried.trans (by rw [hbegun]))
  refine ⟨fun source hresolve => ?_, fun hresolve => ?_,
    fun ips before address after hresolve hips hbefore => ?_,
    (exists_congr fun _ => failed_iff_obstacle).trans exists_dnsFailure_iff,
    fun fault log' h => ?_⟩
  · refine ⟨_, ?_, hgiven (.refl _)⟩
    simp only [attempt, connect, hresolve]
    rfl
  · refine ⟨_, ?_, hgiven (.refl _)⟩
    simp only [attempt, connect, hresolve]
    rfl
  · have hdecided := fun hlast =>
      connect_decided hresolve hips ⟨hbefore, hlast⟩ timeoutMs log
    refine ⟨fun peer localEnd wire hreach => ?_, fun milliseconds hreach htime => ?_,
      fun hreach htime => ?_, fun last hreach hlast => ?_, fun failure hreach => ?_⟩ <;>
      rw [hreach] at hdecided
    · obtain ⟨log', hsearched, hconnect⟩ := hdecided (.inr fun _ => Reach.noConfusion)
      refine ⟨_, hconnect, ?_⟩
      show triedIn _ = _
      rw [triedIn_push_other rfl, triedIn_push_other rfl, hsearched.tried, hbegun]
    · obtain ⟨log', hsearched, hconnect⟩ := hdecided (.inr fun _ => Reach.noConfusion)
      subst htime
      exact ⟨_, hconnect, hgiven hsearched⟩
    · obtain ⟨log', hsearched, hconnect⟩ := hdecided (.inr fun _ => Reach.noConfusion)
      subst htime
      exact ⟨_, hconnect, hsearched.tried.trans (by rw [hbegun])⟩
    · obtain ⟨log', hsearched, hconnect⟩ := hdecided (.inl hlast)
      rw [show classified last = _ from (classify_eq last).symm]
      exact ⟨_, hconnect, hgiven hsearched⟩
    · obtain ⟨log', hsearched, hconnect⟩ := hdecided (.inr fun _ => Reach.noConfusion)
      rw [show classified failure = _ from (classify_eq failure).symm]
      exact ⟨_, hconnect, hsearched.tried.trans (by rw [hbegun])⟩
  · obtain ⟨⟨kind, source, hfault, -⟩, -, hmoves⟩ := connect_failed h
    refine ⟨⟨kind, source, hfault⟩, hmoves, fun failure huntold => ?_⟩
    obtain ⟨log'', hconnect, hbegins⟩ := connect_of_untold huntold timeoutMs log
    cases hconnect.symm.trans h
    exact hbegins

/-- The second of three addresses gives no answer, so the third, which would, is not tried. -/
theorem tries_in_order_silent :
    let first : Endpoint := ⟨.v4 ⟨10, 0, 0, 1⟩, 80⟩
    let second : Endpoint := ⟨.v4 ⟨10, 0, 0, 2⟩, 80⟩
    let third : Endpoint := ⟨.v4 ⟨10, 0, 0, 3⟩, 80⟩
    let network : Network := ⟨fun _ => .ok [first.ip, second.ip, third.ip], fun address =>
      if address = first then .fails .refused
      else if address = second then .silent
      else .accepts address first (.plan [] none)⟩
    ∃ log', connect network "host" 80 (some 5) #[] =
        .failed (.connect "host:80" .timeout (.stated .timedOut "no connection after 5 ms")) log' ∧
      triedIn log' = [first, second] := by
  intro first second third network
  obtain ⟨-, -, htried, -⟩ := tries_in_order network "host" 80 (some 5) #[]
  obtain ⟨-, hsilent, -⟩ := htried _ [first] second [third] rfl rfl
    (by simpa using ⟨.refused, by decide⟩)
  exact hsilent 5 (by decide) rfl

end Connection

end LinkProbe
