import LinkProbe.Proofs.Sender.Runs
import LinkProbe.Proofs.Utf8.Division

/-!
# The pace of a sender

Each payload takes a sender one interval and the connection one of the writes that it has left. So
the end of a run tells how many payloads went before it, and a run that cannot go on for ever is
followed to its end.

* `Connection.writesLeft_write`: one write.
* `Sender.Run.Paced`: so many payloads before an end like this.
* `Sender.Works.paced`: every trace of a run is paced.
* `Sender.halts`: a sender that is bounded by its limit, by a request to stop or by its connection
  stops.
-/

namespace LinkProbe

open Utf8 (bytesOf_append)

theorem bytesOf_payload_ne_nil (number : Nat) : bytesOf (payload number) ≠ [] := by
  have hpayload : payload number = payloadOpening ++ (toString number ++ payloadSeparator) :=
    String.append_assoc ..
  rw [hpayload, bytesOf_append]
  exact List.append_ne_nil_of_left_ne_nil (by decide +kernel) _

/-! ## The writes that are left -/

/-- A write fails when none is left, and otherwise it takes one of them. -/
theorem Wire.writesLeft_write (w : Wire) {payload : List UInt8} (hpayload : payload ≠ []) :
    (w.writesLeft = some 0 ∧ ∃ failure, w.write payload = (.error failure, w)) ∨
    w.writesLeft ≠ some 0 ∧ ∃ v, w.write payload = (.ok payload.length, v) ∧
      v.writesLeft = w.writesLeft.map (· - 1) := by
  have hsome : ¬ payload.isEmpty = true := by simpa using hpayload
  cases hbroken : w.broken with
  | some failure =>
    have hleft : w.writesLeft = some 0 := by simp [writesLeft, hbroken]
    exact .inl ⟨hleft, failure, by rw [write, if_neg hsome, hbroken]⟩
  | none =>
    have hleft : w.writesLeft = w.accepts := by simp [writesLeft, hbroken]
    by_cases haccepts : w.accepts = some 0
    · exact .inl ⟨hleft.trans haccepts, .resetByPeer,
        by rw [write, if_neg hsome, hbroken]; exact if_pos haccepts⟩
    · refine .inr ⟨by rwa [hleft], { w with
          written := w.written ++ payload.toArray, accepts := w.accepts.map (· - 1) }, ?_, ?_⟩
      · rw [write, if_neg hsome, hbroken]
        exact if_neg haccepts
      · rw [hleft, writesLeft, hbroken]
        rfl

namespace Connection

theorem writesLeft_write (c : Connection) {payload : List UInt8} (hpayload : payload ≠ []) :
    (c.writesLeft = some 0 ∧ ∃ fault d, c.write payload = (.error fault, d)) ∨
    c.writesLeft ≠ some 0 ∧ ∃ d, c.write payload = (.ok payload.length, d) ∧
      d.writesLeft = c.writesLeft.map (· - 1) := by
  by_cases hstate : c.state = .opened
  · have hleft : c.writesLeft = c.wire.writesLeft := if_pos hstate
    rw [hleft, write, if_neg (not_not_intro hstate)]
    rcases c.wire.writesLeft_write hpayload with ⟨hnone, failure, hwrite⟩ | ⟨hsome, v, hwrite, hv⟩
    · exact .inl ⟨hnone, _, _, by rw [hwrite]⟩
    · refine .inr ⟨hsome, { c with wire := v }, by rw [hwrite], ?_⟩
      rw [← hv]
      exact if_pos hstate
  · exact .inl ⟨if_neg hstate, _, _, if_pos hstate⟩

end Connection

namespace Sender

variable {stopAt : Option Nat} {r after : Run} {met : List Contact} {halt : Halt} {count : Nat}

/-- What the end of a run tells of the time and of what stands in the way, after so many
payloads. -/
def Run.EndsAt (before : Run) (stopAt : Option Nat) (count : Nat) (after : Run) : Halt → Prop
  | .completed => after.sender.isDone = true ∧
    after.elapsedMs = before.elapsedMs + count * before.sender.intervalMs
  | .stopped => after.sender.isDone = false ∧ stopAt = some after.elapsedMs ∧
    after.elapsedMs ≤ before.elapsedMs + (count + 1) * before.sender.intervalMs
  | .failed _ => before.connection.writesLeft = some count ∧
    after.elapsedMs = before.elapsedMs + (count + 1) * before.sender.intervalMs
  | .endless => after.elapsedMs = before.elapsedMs + count * before.sender.intervalMs

/-- Between the two, `count` payloads went out at their times, and then the run ended like this. -/
structure Run.Paced (before : Run) (stopAt : Option Nat) (count : Nat) (halt : Halt)
    (after : Run) : Prop where
  /-- All went out before the request to stop. -/
  early : 0 < count → ∀ moment, stopAt = some moment →
    before.elapsedMs + count * before.sender.intervalMs < moment
  /-- The connection had a write left for each. -/
  possible : ∀ left, before.connection.writesLeft = some left → count ≤ left
  ends : before.EndsAt stopAt count after halt

/-- One more payload went out before. -/
theorem Run.Paced.cons {length : Nat} {c : Connection}
    (hearly : ∀ moment, stopAt = some moment → r.elapsedMs + r.sender.intervalMs < moment)
    (hsome : r.connection.writesLeft ≠ some 0)
    (hleft : c.writesLeft = r.connection.writesLeft.map (· - 1))
    (h : (r.sent length c).Paced stopAt count halt after) :
    r.Paced stopAt (count + 1) halt after := by
  have htime (n : Nat) : r.elapsedMs + (n + 1) * r.sender.intervalMs =
      (r.sent length c).elapsedMs + n * (r.sent length c).sender.intervalMs := by
    simp only [Run.sent, Nat.succ_mul]
    omega
  have hwrites (left : Nat) :
      r.connection.writesLeft = some (left + 1) ↔ c.writesLeft = some left := by
    rw [hleft]
    cases hr : r.connection.writesLeft with
    | none => simp
    | some n =>
      have hn : n ≠ 0 := fun hzero => hsome (by rw [hr, hzero])
      simp only [Option.some.injEq, Option.map_some]
      omega
  refine ⟨fun _ moment hmoment => ?_, fun left hr => ?_, ?_⟩
  · rw [htime]
    cases count with
    | zero => simpa [Run.sent] using hearly moment hmoment
    | succ count => exact h.early (Nat.succ_pos count) moment hmoment
  · cases left with
    | zero => exact absurd hr hsome
    | succ left => exact Nat.succ_le_succ (h.possible left ((hwrites left).mp hr))
  · have hends := h.ends
    cases halt with
    | completed => exact ⟨hends.1, by rw [htime]; exact hends.2⟩
    | stopped => exact ⟨hends.1, hends.2.1, by rw [htime]; exact hends.2.2⟩
    | failed fault => exact ⟨(hwrites count).mpr hends.1, by rw [htime]; exact hends.2⟩
    | endless => exact hends.trans (htime count).symm

/-- **The end of a run tells how many payloads went before it**, by the time that has passed and by
what ended it. -/
theorem Works.paced (h : Works stopAt r met halt after)
    (hcount : after.sender.next = r.sender.next + count) : r.Paced stopAt count halt after := by
  induction h generalizing count with
  | completed hdone =>
    obtain rfl : count = 0 := by omega
    exact ⟨nofun, fun _ _ => Nat.zero_le _, hdone, by simp⟩
  | stopped hgoing hasked hlate =>
    obtain rfl : count = 0 := by
      dsimp only at hcount
      omega
    exact ⟨nofun, fun _ _ => Nat.zero_le _, hgoing, hasked, by simpa using hlate⟩
  | @failed r fault c hgoing hearly hwrite =>
    obtain rfl : count = 0 := by
      dsimp only at hcount
      omega
    refine ⟨nofun, fun _ _ => Nat.zero_le _, ?_, by simp⟩
    rcases r.connection.writesLeft_write (bytesOf_payload_ne_nil r.sender.next) with ⟨hnone, -⟩ |
      ⟨-, d, hok, -⟩
    · exact hnone
    · cases hwrite.symm.trans hok
  | @tick r after length c met halt hgoing hearly hwrite hrest ih =>
    obtain ⟨more, hsent⟩ := hrest.sent
    have hmore : after.sender.next = r.sender.next + 1 + more := by
      rw [hsent.sender]
      rfl
    obtain rfl : count = more + 1 := by omega
    rcases r.connection.writesLeft_write (bytesOf_payload_ne_nil r.sender.next) with
      ⟨-, fault, d, hfail⟩ | ⟨hsome, d, hok, hleft⟩
    · cases hwrite.symm.trans hfail
    · cases hwrite.symm.trans hok
      exact (ih hmore).cons hearly hsome hleft
  | endless =>
    obtain rfl : count = 0 := by omega
    exact ⟨nofun, fun _ _ => Nat.zero_le _, by simp [Run.EndsAt]⟩

/-! ## Runs that stop -/

/-- Rounds that do not stop the sender are all used. -/
theorem next_ticks_endless {rounds : Nat} (h : (ticks stopAt rounds r).1 = .endless) :
    (ticks stopAt rounds r).2.sender.next = r.sender.next + rounds := by
  induction rounds generalizing r with
  | zero => rfl
  | succ rounds ih =>
    rw [ticks] at h ⊢
    cases hdone : r.sender.isDone with
    | true => simp [hdone] at h
    | false =>
      simp only [hdone, Bool.false_eq_true, if_false] at h ⊢
      cases hstop : stopAt.filter (· ≤ r.elapsedMs + r.sender.intervalMs) with
      | some moment => simp [hstop] at h
      | none =>
        simp only [hstop] at h ⊢
        rcases tick_cases r with ⟨fault, c, -, htick⟩ | ⟨length, c, -, htick⟩ <;>
          simp only [htick] at h ⊢
        · cases h
        · rw [ih h]
          simp only [Run.sent]
          omega

/-- A sender that is bounded in some way has so many rounds. -/
theorem exists_rounds {s : Sender} {c : Connection}
    (hbounded : s.limit ≠ none ∨ stopAt ≠ none ∨ c.writesLeft ≠ none) :
    ∃ bound, s.rounds c stopAt = some (bound + 1) ∧
      ((∃ limit, s.limit = some limit ∧ limit - s.next = bound) ∨
        (∃ moment, stopAt = some moment ∧ moment / s.intervalMs = bound) ∨
        c.writesLeft = some bound) := by
  let bounds := [s.limit.map (· - s.next), stopAt.map (· / s.intervalMs), c.writesLeft]
  cases hleast : (bounds.filterMap id).min? with
  | none =>
    have hnone : ∀ bound ∈ bounds, bound = none :=
      List.filterMap_eq_nil_iff.mp (List.min?_eq_none_iff.mp hleast)
    obtain ⟨hlimit, hstop, hleft⟩ : s.limit = none ∧ stopAt = none ∧ c.writesLeft = none := by
      simpa [bounds] using hnone
    simp [hlimit, hstop, hleft] at hbounded
  | some bound =>
    have hmem : some bound ∈ bounds := by
      simpa using List.min?_mem hleast
    refine ⟨bound, by simp only [rounds]; rw [hleast]; rfl, ?_⟩
    simp only [bounds, List.mem_cons, List.not_mem_nil, or_false] at hmem
    rcases hmem with hlimit | hstop | hleft
    · exact .inl (by simpa using hlimit.symm)
    · exact .inr (.inl (by simpa using hstop.symm))
    · exact .inr (.inr hleft.symm)

/-- **A sender that is bounded stops**: by its limit, by the request to stop or by the writes that
its connection has left. -/
theorem halts {s : Sender} {c : Connection} (stats : Stats) (hinterval : 0 < s.intervalMs)
    (hbounded : s.limit ≠ none ∨ stopAt ≠ none ∨ c.writesLeft ≠ none) :
    (s.run c stats stopAt).1 ≠ .endless := by
  intro hendless
  obtain ⟨bound, hrounds, hbound⟩ := exists_rounds hbounded
  have hworks := s.works_run c stats stopAt
  have hrun : s.run c stats stopAt = ticks stopAt (bound + 1) ⟨s, c, stats, 0⟩ := by
    simp only [run, hrounds]
  rw [hendless, hrun] at hworks
  have hnext : (ticks stopAt (bound + 1) ⟨s, c, stats, 0⟩).2.sender.next = s.next + (bound + 1) :=
    next_ticks_endless (hrun ▸ hendless)
  have hpaced := hworks.paced hnext
  -- One payload more than the bound allows.
  rcases hbound with ⟨limit, hlimit, hleft⟩ | ⟨moment, hmoment, hleft⟩ | hleft
  · have hgoing : s.isDone = false := by
      refine Bool.eq_false_iff.mpr fun hdone => ?_
      rw [hrun, ticks, if_pos hdone] at hendless
      cases hendless
    have hbelow := not_isDone hlimit hgoing
    have hle := hworks.next_le_limit hlimit (Nat.le_of_lt hbelow)
    omega
  · have hlate : moment < (bound + 1) * s.intervalMs :=
      (Nat.div_lt_iff_lt_mul hinterval).mp (by omega)
    have hearly := hpaced.early (Nat.succ_pos bound) moment hmoment
    dsimp only at hearly
    omega
  · exact absurd (hpaced.possible bound hleft) (Nat.not_succ_le_self bound)

end Sender

end LinkProbe
