import LinkProbe.Proofs.Sender.Pace

/-!
# What comes of a run

A sender may have sent payloads before, and its connection may have room for any number of further
ones. Its limit and that room decide together how far a run comes and how it ends.

* `Connection.HasRoom`: how many more payloads a connection takes, by what its writes answer.
* `Sender.Works.written`: the payloads of a run are what it has put on the wire.
* `Sender.Run.Delivered`: a run has sent so many payloads.
* `Sender.ends_at_limit_or_refusal`: how every run ends.
-/

namespace LinkProbe

namespace Connection

variable {c d : Connection} {payloads : List (List UInt8)} {left : Option Nat}

/-! ## The room of a connection -/

/-- Whether the payloads can be written one after the other. -/
def writesAll (c : Connection) : List (List UInt8) → Bool
  | [] => true
  | payload :: payloads =>
    match c.write payload with
    | (.ok _, d) => d.writesAll payloads
    | (.error _, _) => false

/-- So many more writes succeed and the next one fails; or, without a number, all of them succeed.
An empty payload is not counted. -/
def HasRoom (c : Connection) (left : Option Nat) : Prop :=
  ∀ payloads : List (List UInt8), (∀ payload ∈ payloads, payload ≠ []) →
    (c.writesAll payloads = true ↔ ∀ most, left = some most → payloads.length ≤ most)

theorem writesAll_iff (h : ∀ payload ∈ payloads, payload ≠ []) : c.writesAll payloads = true ↔
    ∀ most, c.writesLeft = some most → payloads.length ≤ most := by
  induction payloads generalizing c with
  | nil => simp [writesAll]
  | cons payload payloads ih =>
    obtain ⟨hpayload, hpayloads⟩ := List.forall_mem_cons.mp h
    rw [writesAll]
    rcases c.writesLeft_write hpayload with ⟨hnone, fault, d, hwrite⟩ | ⟨hsome, d, hwrite, hd⟩ <;>
      rw [hwrite]
    · simp [hnone]
    · rw [ih hpayloads, hd]
      cases hleft : c.writesLeft with
      | none => simp
      | some most =>
        have hpos : most ≠ 0 := fun hzero => hsome (by rw [hleft, hzero])
        simp only [Option.map_some, Option.some.injEq, forall_eq', List.length_cons]
        omega

/-- The room of a connection is the number of writes that it has left. -/
theorem hasRoom_iff : c.HasRoom left ↔ c.writesLeft = left := by
  constructor
  · intro h
    have hsame (n : Nat) : (∀ most, c.writesLeft = some most → n ≤ most) ↔
        ∀ most, left = some most → n ≤ most := by
      have hrow : ∀ payload ∈ List.replicate n [(0 : UInt8)], payload ≠ [] := by simp
      rw [← List.length_replicate (n := n) (a := [(0 : UInt8)]), ← writesAll_iff hrow, h _ hrow]
    cases hc : c.writesLeft with
    | none =>
      cases left with
      | none => rfl
      | some most => exact absurd ((hsame (most + 1)).mp (by simp [hc]) most rfl) (by omega)
    | some most =>
      cases left with
      | none => exact absurd ((hsame (most + 1)).mpr nofun most hc) (by omega)
      | some most' =>
        have hle := (hsame most).mp (by simp [hc]) most' rfl
        have hge := (hsame most').mpr (by simp) most hc
        rw [Nat.le_antisymm hle hge]
  · rintro rfl payloads hpayloads
    exact writesAll_iff hpayloads

/-! ## One write -/

/-- What is on the wire after a write is what was there before, and the payload if it was
written. -/
theorem written_write (c : Connection) (payload : List UInt8) :
    (c.write payload).2.wire.written.toList =
      c.wire.written.toList ++ (Contact.payloads (c.offered payload)).flatten := by
  rw [wire_write]
  by_cases hstate : c.state = .opened
  · rw [if_pos hstate, offered_opened hstate]
    rcases c.wire.write_cases payload with ⟨failure, hwrite⟩ | ⟨accepts, hwrite⟩ <;> rw [hwrite] <;>
      simp [Contact.payloads, Contact.payload?]
  · rw [if_neg hstate, offered, if_pos hstate]
    exact (List.append_nil _).symm

/-- A write that fails is told of as such, and the connection is over. -/
theorem write_error {payload : List UInt8} {fault : Fault}
    (h : c.write payload = (.error fault, d)) : (∃ source, fault = .write source) ∧
      (c.state = .opened ∨ c.state = .closed → d.state = .closed) := by
  unfold write at h
  split at h
  · cases h
    exact ⟨⟨_, rfl⟩, fun husable => husable.resolve_left ‹_›⟩
  · rename_i hstate
    split at h <;> cases h
    refine ⟨⟨_, rfl⟩, fun _ => ?_⟩
    rw [markClosed_opened (by exact Decidable.not_not.mp hstate)]

end Connection

namespace Sender

variable {stopAt : Option Nat} {r after : Run} {met : List Contact} {halt : Halt} {s : Sender}
  {c : Connection} {stats : Stats} {left : Option Nat} {count : Nat}

/-! ## Traces -/

/-- The payloads of a run are what it has put on the wire. -/
theorem Works.written (h : Works stopAt r met halt after) :
    after.connection.wire.written.toList =
      r.connection.wire.written.toList ++ (Contact.payloads met).flatten := by
  induction h with
  | completed _ | stopped _ _ _ | endless => exact (List.append_nil _).symm
  | @failed r _ _ _ _ hwrite =>
    rw [← Connection.written_write, hwrite]
  | @tick r _ _ _ _ _ _ _ hwrite _ ih =>
    have hfirst := r.connection.written_write (bytesOf (payload r.sender.next))
    rw [hwrite] at hfirst
    rw [ih, Contact.payloads_append, List.flatten_append, ← List.append_assoc, ← hfirst]
    rfl

/-- What it means for the sender and its connection that a write has failed. -/
structure Run.Refused (before after : Run) (fault : Fault) : Prop where
  going : after.sender.isDone = false
  source : ∃ source, fault = .write source
  state : before.connection.state = .opened ∨ before.connection.state = .closed →
    after.connection.state = .closed

theorem Works.refused {fault : Fault} (h : Works stopAt r met (.failed fault) after) :
    r.Refused after fault := by
  generalize hhalt : Halt.failed fault = halt at h
  induction h with
  | completed _ | stopped _ _ _ | endless => cases hhalt
  | failed hgoing _ hwrite =>
    cases hhalt
    obtain ⟨hsource, hstate⟩ := Connection.write_error hwrite
    exact ⟨hgoing, hsource, hstate⟩
  | tick _ _ hwrite _ ih =>
    obtain ⟨hgoing, hsource, hstate⟩ := ih hhalt
    exact ⟨hgoing, hsource, fun _ => hstate (.inl (Connection.write_ok hwrite).2)⟩

/-! ## Runs -/

/-- After a run that has sent `count` payloads, in the order of their numbers: they stand on the
wire behind what was there before, and the sender and the statistics have counted them. -/
structure Run.Delivered (s : Sender) (c : Connection) (stats : Stats) (count : Nat) (r : Run) :
    Prop where
  sender : r.sender = { s with next := s.next + count }
  written : r.connection.wire.written.toList =
    c.wire.written.toList ++ (payloadsFrom s.next count).flatten
  stats : r.stats = stats.addPayloads (payloadsFrom s.next count)

/-- Every run sends some number of payloads, at its pace. -/
theorem delivered_run (s : Sender) (c : Connection) (stats : Stats) (stopAt : Option Nat) :
    ∃ count, Run.Delivered s c stats count (s.run c stats stopAt).2 ∧
      Run.Paced ⟨s, c, stats, 0⟩ stopAt count (s.run c stats stopAt).1
        (s.run c stats stopAt).2 := by
  have hworks := s.works_run c stats stopAt
  obtain ⟨count, hsent⟩ := hworks.sent
  have hwritten := hworks.written
  rw [hsent.payloads] at hwritten
  exact ⟨count, ⟨hsent.sender, hwritten, hsent.stats⟩, hworks.paced (by rw [hsent.sender])⟩

/-- A sender whose limit is reached does nothing. -/
theorem run_done (h : s.isDone = true) (c : Connection) (stats : Stats) (stopAt : Option Nat) :
    s.run c stats stopAt = (.completed, ⟨s, c, stats, 0⟩) := by
  have hlimit : s.limit ≠ none := by
    intro hnone
    simp [isDone, hnone] at h
  obtain ⟨bound, hrounds⟩ : ∃ bound, s.rounds c stopAt = some (bound + 1) :=
    (exists_rounds (.inl hlimit)).imp fun _ h => h.1
  simp only [run, hrounds, ticks, h, if_true]

/-- A run to the limit, when the connection has room for all payloads up to it. -/
theorem run_to_limit {limit : Nat} (hinterval : 0 < s.intervalMs) (hlimit : s.limit = some limit)
    (hroom : ∀ most, c.writesLeft = some most → limit ≤ s.next + most) (hbelow : s.next ≤ limit) :
    (s.run c stats none).1 = .completed ∧
      Run.Delivered s c stats (limit - s.next) (s.run c stats none).2 ∧
      (s.run c stats none).2.elapsedMs = (limit - s.next) * s.intervalMs := by
  have hbounded : s.limit ≠ none := hlimit ▸ Option.some_ne_none limit
  have hhalts := @halts none s c stats hinterval (.inl hbounded)
  have hworks := s.works_run c stats none
  obtain ⟨count, hdelivered, hpaced⟩ := s.delivered_run c stats none
  have hle := hworks.next_le_limit hlimit hbelow
  generalize s.run c stats none = result at *
  obtain ⟨halt, r⟩ := result
  have hnext : r.sender.next = s.next + count := by rw [hdelivered.sender]
  have hrlimit : r.sender.limit = some limit := by rw [hdelivered.sender, hlimit]
  cases halt with
  | completed =>
    obtain ⟨hdone, htime⟩ := hpaced.ends
    have hreached : limit ≤ s.next + count := by simpa [isDone, hrlimit, hnext] using hdone
    obtain rfl : count = limit - s.next := by
      rw [hnext] at hle
      omega
    exact ⟨rfl, hdelivered, htime.trans (Nat.zero_add _)⟩
  | stopped =>
    obtain ⟨-, hasked, -⟩ := hpaced.ends
    cases hasked
  | failed fault =>
    -- The write that failed was one that the connection had room for.
    have hgoing := not_isDone hrlimit hworks.refused.going
    have henough := hroom count hpaced.ends.1
    omega
  | endless => exact absurd rfl hhalts

/-- A run to the first write that fails, when the limit lies behind it. -/
theorem run_to_refusal {most : Nat} (hinterval : 0 < s.intervalMs)
    (hroom : c.writesLeft = some most)
    (hlimit : ∀ limit, s.limit = some limit → s.next + most < limit) :
    (∃ source, (s.run c stats none).1 = .failed (.write source)) ∧
      Run.Delivered s c stats most (s.run c stats none).2 ∧
      (s.run c stats none).2.elapsedMs = (most + 1) * s.intervalMs ∧
      (c.state = .opened ∨ c.state = .closed →
        (s.run c stats none).2.connection.state = .closed) := by
  have hfinite : c.writesLeft ≠ none := hroom ▸ Option.some_ne_none most
  have hhalts := @halts none s c stats hinterval (.inr (.inr hfinite))
  have hworks := s.works_run c stats none
  obtain ⟨count, hdelivered, hpaced⟩ := s.delivered_run c stats none
  generalize s.run c stats none = result at *
  obtain ⟨halt, r⟩ := result
  cases halt with
  | completed =>
    -- The limit cannot be reached with the payloads that the connection has room for.
    obtain ⟨hdone, -⟩ := hpaced.ends
    have hfew := hpaced.possible most hroom
    rw [hdelivered.sender] at hdone
    cases hs : s.limit with
    | none => simp [isDone, hs] at hdone
    | some limit =>
      have hbehind := hlimit limit hs
      have hreached : limit ≤ s.next + count := by simpa [isDone, hs] using hdone
      omega
  | stopped =>
    obtain ⟨-, hasked, -⟩ := hpaced.ends
    cases hasked
  | failed fault =>
    obtain ⟨hleft, htime⟩ := hpaced.ends
    obtain rfl : count = most := Option.some.inj (hleft.symm.trans hroom)
    obtain ⟨-, ⟨source, rfl⟩, hclosed⟩ := hworks.refused
    exact ⟨⟨source, rfl⟩, hdelivered, htime.trans (Nat.zero_add _), hclosed⟩
  | endless => exact absurd rfl hhalts

/-- A sender without a limit on a connection that takes everything goes on until it is asked to
stop. -/
theorem run_unbounded (hinterval : 0 < s.intervalMs) (hlimit : s.limit = none)
    (hroom : c.writesLeft = none) (stats : Stats) : (s.run c stats none).1 = .endless ∧
      ∀ count, (s.run c stats (some ((count + 1) * s.intervalMs))).1 = .stopped ∧
        Run.Delivered s c stats count (s.run c stats (some ((count + 1) * s.intervalMs))).2 := by
  constructor
  · rw [run, rounds, hlimit, hroom]
    rfl
  · intro count
    have hhalts := @halts (some ((count + 1) * s.intervalMs)) s c stats hinterval
      (.inr (.inl (Option.some_ne_none _)))
    obtain ⟨sent, hdelivered, hpaced⟩ := s.delivered_run c stats (some ((count + 1) * s.intervalMs))
    generalize s.run c stats (some ((count + 1) * s.intervalMs)) = result at *
    obtain ⟨halt, r⟩ := result
    cases halt with
    | completed =>
      obtain ⟨hdone, -⟩ := hpaced.ends
      rw [hdelivered.sender] at hdone
      simp [isDone, hlimit] at hdone
    | stopped =>
      obtain ⟨-, hasked, hlate⟩ := hpaced.ends
      have htime : (count + 1) * s.intervalMs = r.elapsedMs := Option.some.inj hasked
      have hmost : count ≤ sent := by
        have hle : (count + 1) * s.intervalMs ≤ 0 + (sent + 1) * s.intervalMs := htime ▸ hlate
        rw [Nat.zero_add] at hle
        have := Nat.le_of_mul_le_mul_right hle hinterval
        omega
      have hleast : sent ≤ count := by
        refine Nat.le_of_not_lt fun hmore => ?_
        have hlast : 0 + sent * s.intervalMs < (count + 1) * s.intervalMs :=
          hpaced.early (by omega) _ rfl
        have hbehind : (count + 1) * s.intervalMs ≤ sent * s.intervalMs :=
          Nat.mul_le_mul_right s.intervalMs hmore
        omega
      obtain rfl := Nat.le_antisymm hleast hmost
      exact ⟨rfl, hdelivered⟩
    | failed fault =>
      have hsome : c.writesLeft = some sent := hpaced.ends.1
      rw [hroom] at hsome
      cases hsome
    | endless => exact absurd rfl hhalts

/-- **A run ends at the limit or at the first write that fails**, whichever comes first, with every
payload before it sent once and in order, one at the end of each interval. The number that failed is
the next one. Where there is neither, the run does not end. -/
theorem ends_at_limit_or_refusal (hinterval : 0 < s.intervalMs) (hroom : c.HasRoom left)
    (stats : Stats) :
    let halt := (s.run c stats none).1
    let r := (s.run c stats none).2
    (∀ limit, s.limit = some limit → (∀ most, left = some most → limit ≤ s.next + most) →
      halt = .completed ∧ r.sender.next = max s.next limit ∧
        Run.Delivered s c stats (limit - s.next) r ∧
        r.elapsedMs = (limit - s.next) * s.intervalMs) ∧
    (∀ limit, s.limit = some limit → limit ≤ s.next →
      halt = .completed ∧ r = ⟨s, c, stats, 0⟩) ∧
    (∀ most, left = some most → (∀ limit, s.limit = some limit → s.next + most < limit) →
      (∃ source, halt = .failed (.write source)) ∧ r.sender.next = s.next + most ∧
        Run.Delivered s c stats most r ∧ r.elapsedMs = (most + 1) * s.intervalMs ∧
        (c.state = .opened ∨ c.state = .closed → r.connection.state = .closed)) ∧
    (s.limit = none → left = none → halt = .endless ∧
      ∀ count, (s.run c stats (some ((count + 1) * s.intervalMs))).1 = .stopped ∧
        Run.Delivered s c stats count (s.run c stats (some ((count + 1) * s.intervalMs))).2) := by
  intro halt r
  obtain rfl := Connection.hasRoom_iff.mp hroom
  have hdone (limit : Nat) (hlimit : s.limit = some limit) (hle : limit ≤ s.next) :
      s.run c stats none = (.completed, ⟨s, c, stats, 0⟩) :=
    run_done (by simpa [isDone, hlimit] using hle) c stats none
  refine ⟨fun limit hlimit henough => ?_, fun limit hlimit hle => ?_, fun most hmost hbehind => ?_,
    fun hlimit hall => run_unbounded hinterval hlimit hall stats⟩
  · rcases Nat.le_total s.next limit with hbelow | hreached
    · obtain ⟨hcompleted, hdelivered, htime⟩ :=
        @run_to_limit s c stats limit hinterval hlimit henough hbelow
      refine ⟨hcompleted, ?_, hdelivered, htime⟩
      rw [hdelivered.sender]
      show s.next + (limit - s.next) = max s.next limit
      omega
    · have hrun := hdone limit hlimit hreached
      have hnone : limit - s.next = 0 := Nat.sub_eq_zero_of_le hreached
      have hnext : s.next = max s.next limit := (Nat.max_eq_left hreached).symm
      have hnothing : c.wire.written.toList = c.wire.written.toList ++ [] :=
        (List.append_nil _).symm
      rw [hnone, show halt = _ from congrArg Prod.fst hrun, show r = _ from congrArg Prod.snd hrun]
      exact ⟨rfl, hnext, ⟨rfl, hnothing, rfl⟩, (Nat.zero_mul _).symm⟩
  · have hrun := hdone limit hlimit hle
    exact ⟨congrArg Prod.fst hrun, congrArg Prod.snd hrun⟩
  · obtain ⟨hfailed, hdelivered, htime, hclosed⟩ :=
      @run_to_refusal s c stats most hinterval hmost hbehind
    exact ⟨hfailed, by rw [show r.sender = _ from hdelivered.sender], hdelivered, htime, hclosed⟩

/-- A sender that is to send up to number 12 goes on with number 9 where two more writes succeed:
the second payload is a byte longer, and number 11 is the next one. -/
theorem ends_at_limit_or_refusal_resumed :
    let s : Sender := ⟨10, 9, some 12⟩
    let c : Connection := ⟨⟨.v4 .loopback, 8999⟩, ⟨.v4 .loopback, 8999⟩, .opened,
      { Wire.plan [] none with accepts := some 2 }, #[]⟩
    c.HasRoom (some 2) ∧ (∃ source, (s.run c .zero none).1 = .failed (.write source)) ∧
      (s.run c .zero none).2.sender.next = 11 ∧ (s.run c .zero none).2.stats = ⟨2, 17, 0, 0, 0⟩ ∧
      (s.run c .zero none).2.connection.wire.written.toList = bytesOf "Hello 9 Hello 10 " ∧
      (s.run c .zero none).2.elapsedMs = 30 ∧
      (s.run c .zero none).2.connection.state = .closed := by
  intro s c
  have hroom : c.HasRoom (some 2) := Connection.hasRoom_iff.mpr rfl
  obtain ⟨-, -, hrefused, -⟩ := ends_at_limit_or_refusal (s := s) (by decide) hroom .zero
  obtain ⟨hfailed, hnext, ⟨-, hwritten, hstats⟩, htime, hclosed⟩ :=
    hrefused 2 rfl fun limit hlimit => by cases hlimit; decide
  refine ⟨hroom, hfailed, hnext, hstats.trans ?_, hwritten.trans ?_, htime, hclosed (.inl rfl)⟩
  · decide +kernel
  · decide +kernel

end Sender

end LinkProbe
