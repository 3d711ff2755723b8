import LinkProbe.Proofs.Connection.Deeds
import LinkProbe.Proofs.Sink.Room

/-!
# Receivers whose sinks have room for some lines

A receiver whose sink has room for some lines goes in step with one whose sink takes everything,
until a piece of text is refused.

* `Receiver.Desk.take_limited`, `Receiver.Desk.finish_limited`: one chunk, and the end.
* `Receiver.consumeOne_limited`: the next chunk that comes.
* `Receiver.run_limited`, `Receiver.runWithin_limited`: a run, and one that may be cut off.
-/

namespace LinkProbe.Receiver

open Sink (Fits Truncates full)

variable {n capacity : Nat} {c d : Connection} {desk : Desk} {flow : Flow}

/-! ## One call -/

/-- What the desk would be if its sink had room for `n` line ends. -/
def Desk.limited (d : Desk) (n : Nat) : Desk := { d with sink := d.sink.limited n }

/-- The sink of the second desk takes everything and has taken what that of the first has, and
possibly more. -/
structure Desk.Grows (before after : Desk) : Prop where
  room : after.sink.room = none
  accepted : before.sink.accepted.toList <+: after.sink.accepted.toList

theorem Desk.Grows.trans {first second third : Desk} (h : first.Grows second)
    (h' : second.Grows third) : first.Grows third :=
  ⟨h'.room, h.accepted.trans h'.accepted⟩

theorem Desk.grows_after (hroom : desk.sink.room = none) (chunks : List (List UInt8))
    (replies : Decoder.Replies) : desk.Grows (desk.after chunks replies) where
  room := hroom
  accepted := by
    simp only [after, Array.toList_append]
    exact List.prefix_append _ _

theorem Desk.grows_take (hroom : desk.sink.room = none) (chunk : List UInt8) :
    desk.Grows (desk.take chunk).2 := by
  rcases desk.take_unlimited hroom chunk with ⟨_, _, -, htake⟩ | ⟨_, _, -, htake⟩ <;> rw [htake]
  · exact ⟨hroom, List.prefix_refl _⟩
  · exact desk.grows_after hroom _ _

theorem Desk.grows_finish (hroom : desk.sink.room = none) : desk.Grows desk.finish.2 := by
  rcases desk.finish_unlimited hroom with ⟨_, _, -, hfinish⟩ | ⟨_, _, -, hfinish⟩ <;> rw [hfinish]
  · exact ⟨hroom, List.prefix_refl _⟩
  · exact desk.grows_after hroom _ _

/-- What a call makes of the desk when the sink has room for `n` line ends. -/
def Desk.Limits (n : Nat) (whole cut : Except Fault Unit × Desk) : Prop :=
  Truncates n whole.2.sink (cut = (whole.1, whole.2.limited n)) fun left =>
    ∃ desk, cut = (.error (.output full), desk) ∧ desk.sink = left

theorem Desk.put_limited (hroom : desk.sink.room = none) (hfits : Fits n desk.sink.accepted.toList)
    (decoded : Decoded) : Limits n (desk.put decoded) ((desk.limited n).put decoded) := by
  have hput := Sink.putLine_limited hroom hfits decoded.text
  have hok : (desk.sink.putLine decoded.text).1 = .ok () := by
    rw [Sink.putLine_unlimited hroom]
  refine hput.imp (fun hsame => ?_) fun left hrefused => ?_
  · simp only [put, limited, hsame, hok]
  · refine ⟨{ (desk.put decoded).2 with sink := left }, ?_, rfl⟩
    simp only [put, limited, hrefused]

theorem Desk.take_limited (hroom : desk.sink.room = none)
    (hfits : Fits n desk.sink.accepted.toList) (chunk : List UInt8) :
    Limits n (desk.take chunk) ((desk.limited n).take chunk) := by
  have hdecoder : (desk.limited n).decoder = desk.decoder := rfl
  unfold take
  rw [hdecoder]
  rcases desk.decoder.feed chunk with ⟨bad | decoded, decoder⟩
  · exact .inl ⟨hfits, rfl⟩
  · exact @put_limited n { desk with decoder, stats := desk.stats.recordChunk chunk.length } hroom
      hfits decoded

theorem Desk.finish_limited (hroom : desk.sink.room = none)
    (hfits : Fits n desk.sink.accepted.toList) :
    Limits n desk.finish (desk.limited n).finish := by
  have hdecoder : (desk.limited n).decoder = desk.decoder := rfl
  unfold finish
  rw [hdecoder]
  rcases desk.decoder.finish with ⟨bad | decoded, decoder⟩
  · exact .inl ⟨hfits, rfl⟩
  · exact @put_limited n { desk with decoder } hroom hfits decoded

/-! ## Chunk after chunk -/

/-- What a run makes of the desk when the sink has room for `n` line ends. -/
def Limits {α : Type} (n : Nat) (refused : α) (whole cut : α × Desk × Connection) : Prop :=
  Truncates n whole.2.1.sink (cut = (whole.1, whole.2.1.limited n, whole.2.2)) fun left =>
    ∃ desk d, cut = (refused, desk, d) ∧ desk.sink = left

/-- Why a run ends in which a piece is refused. -/
def outputFull : Flow := .failed (.output full)

theorem grows_consumeOne (hroom : desk.sink.room = none) :
    desk.Grows (Connection.consumeOne consumer capacity c desk).2.1 := by
  have hgrows (bytes : List UInt8) := desk.grows_take hroom bytes
  unfold Connection.consumeOne
  split
  · exact ⟨hroom, List.prefix_refl _⟩
  · exact ⟨hroom, List.prefix_refl _⟩
  · exact ⟨hroom, List.prefix_refl _⟩
  · next bytes d _ =>
    have hbytes := hgrows bytes
    rw [show desk.take bytes = consumer.step desk bytes from rfl] at hbytes
    split <;> next hstep => rwa [hstep] at hbytes

/-- The next chunk is taken as if the sink took everything, or a piece of it is refused. -/
theorem consumeOne_limited (hroom : desk.sink.room = none)
    (hfits : Fits n desk.sink.accepted.toList) :
    Limits n (some outputFull) (Connection.consumeOne consumer capacity c desk)
      (Connection.consumeOne consumer capacity c (desk.limited n)) := by
  unfold Connection.consumeOne
  rcases c.read capacity with ⟨bytes | _ | _ | _, d⟩
  · have hlimited := desk.take_limited hroom hfits bytes
    simp only [show consumer.step = Desk.take from rfl]
    rcases htake : desk.take bytes with ⟨fault | _, t⟩ <;> rw [htake] at hlimited
    all_goals
      refine hlimited.imp (fun hsame => by rw [hsame]) ?_
      rintro left ⟨l, hrefused, rfl⟩
      exact ⟨l, _, by rw [hrefused]; rfl, rfl⟩
  all_goals exact .inl ⟨hfits, rfl⟩

theorem grows_consume (hroom : desk.sink.room = none) :
    desk.Grows (c.consume consumer capacity desk).2.1 := by
  fun_induction Connection.consume c consumer capacity desk with
  | case1 c desk flow t d hone =>
    have hgrows := @grows_consumeOne capacity c desk hroom
    rwa [hone] at hgrows
  | case2 c desk t d hone ih =>
    have hgrows := @grows_consumeOne capacity c desk hroom
    rw [hone] at hgrows
    exact hgrows.trans (ih hgrows.room)

theorem grows_consumeAtMost (hroom : desk.sink.room = none) (count : Nat) :
    desk.Grows (Connection.consumeAtMost consumer capacity count c desk).2.1 := by
  induction count generalizing c desk with
  | zero => exact ⟨hroom, List.prefix_refl _⟩
  | succ count ih =>
    have hgrows := @grows_consumeOne capacity c desk hroom
    rw [Connection.consumeAtMost]
    split
    · next hone =>
      rw [hone] at hgrows
      exact hgrows.trans (ih hgrows.room)
    · exact hgrows

/-- All chunks. -/
theorem consume_limited (hroom : desk.sink.room = none)
    (hfits : Fits n desk.sink.accepted.toList) : Limits n outputFull
      (c.consume consumer capacity desk) (c.consume consumer capacity (desk.limited n)) := by
  fun_induction Connection.consume c consumer capacity desk with
  | case1 c desk flow t d hone =>
    have hlimited := @consumeOne_limited n capacity c desk hroom hfits
    rw [hone] at hlimited
    refine hlimited.imp Connection.consume_last ?_
    rintro left ⟨l, e, hrefused, rfl⟩
    exact ⟨l, e, Connection.consume_last hrefused, rfl⟩
  | case2 c desk t d hone ih =>
    have hlimited := @consumeOne_limited n capacity c desk hroom hfits
    have hgrows := @grows_consumeOne capacity c desk hroom
    rw [hone] at hlimited hgrows
    refine hlimited.bind (grows_consume hgrows.room).accepted (fun hfits' hsame => ?_) ?_
    · rw [Connection.consume_more hsame]
      exact ih hgrows.room hfits'
    · rintro left ⟨l, e, hrefused, rfl⟩
      exact ⟨l, e, Connection.consume_last hrefused, rfl⟩

/-- Up to a number of chunks. -/
theorem consumeAtMost_limited (hroom : desk.sink.room = none)
    (hfits : Fits n desk.sink.accepted.toList) (count : Nat) : Limits n (some outputFull)
      (Connection.consumeAtMost consumer capacity count c desk)
      (Connection.consumeAtMost consumer capacity count c (desk.limited n)) := by
  induction count generalizing c desk with
  | zero => exact .inl ⟨hfits, rfl⟩
  | succ count ih =>
    have hlimited := @consumeOne_limited n capacity c desk hroom hfits
    have hgrows := @grows_consumeOne capacity c desk hroom
    simp only [Connection.consumeAtMost]
    rcases hone : Connection.consumeOne consumer capacity c desk with ⟨_ | flow, t, d⟩ <;>
      rw [hone] at hlimited hgrows
    · refine hlimited.bind (grows_consumeAtMost hgrows.room count).accepted
        (fun hfits' hsame => ?_) ?_
      · rw [hsame]
        exact ih hgrows.room hfits'
      · rintro left ⟨l, e, hrefused, rfl⟩
        exact ⟨l, e, by rw [hrefused], rfl⟩
    · refine hlimited.imp (fun hsame => by rw [hsame]) ?_
      rintro left ⟨l, e, hrefused, rfl⟩
      exact ⟨l, e, by rw [hrefused], rfl⟩

/-! ## A run -/

theorem grows_conclude (hroom : desk.sink.room = none) :
    desk.Grows (conclude (flow, desk, d)).2.1 := by
  cases flow with
  | ended =>
    have hgrows := desk.grows_finish hroom
    rw [conclude]
    rcases hfinish : desk.finish with ⟨_ | _, t⟩ <;> rwa [hfinish] at hgrows
  | failed _ | waiting => exact ⟨hroom, List.prefix_refl _⟩

/-- The end of a run. -/
theorem conclude_limited (hroom : desk.sink.room = none)
    (hfits : Fits n desk.sink.accepted.toList) : Limits n outputFull (conclude (flow, desk, d))
      (conclude (flow, desk.limited n, d)) := by
  cases flow with
  | ended =>
    have hlimited := desk.finish_limited hroom hfits
    simp only [conclude]
    rcases hfinish : desk.finish with ⟨fault | _, t⟩ <;> rw [hfinish] at hlimited
    all_goals
      refine hlimited.imp (fun hsame => by rw [hsame]; rfl) ?_
      rintro left ⟨l, hrefused, rfl⟩
      exact ⟨l, _, by rw [hrefused]; rfl, rfl⟩
  | failed _ | waiting => exact .inl ⟨hfits, rfl⟩

/-- **A receiver whose sink has room for some lines goes in step with one whose sink takes
everything**, until a piece of text is refused. -/
theorem run_limited {sink : Sink} (hroom : sink.room = none) (hfits : Fits n sink.accepted.toList)
    (r : Receiver) (c : Connection) (stats : Stats) :
    Limits n outputFull (r.run c sink stats) (r.run c (sink.limited n) stats) := by
  let start : Desk := ⟨r.decoder, sink, stats⟩
  have hroom' := (@grows_consume r.capacity c start hroom).room
  refine (@consume_limited n r.capacity c start hroom hfits).bind
    (grows_conclude hroom').accepted (fun hfits' hsame => ?_) ?_
  · rw [run, run, show Desk.mk _ _ _ = start.limited n from rfl, hsame]
    exact conclude_limited hroom' hfits'
  · rintro left ⟨l, e, hrefused, rfl⟩
    exact ⟨l, e, congrArg conclude hrefused, rfl⟩

/-- The same for a receiver that is to write down so many chunks and no more. -/
theorem runAtMost_limited {sink : Sink} (hroom : sink.room = none)
    (hfits : Fits n sink.accepted.toList) (r : Receiver) (count : Nat) (c : Connection)
    (stats : Stats) : Limits n (some outputFull) (r.runAtMost count c sink stats)
      (r.runAtMost count c (sink.limited n) stats) := by
  let start : Desk := ⟨r.decoder, sink, stats⟩
  have hlimited := @consumeAtMost_limited n r.capacity c start hroom hfits count
  have hroom' := (@grows_consumeAtMost r.capacity c start hroom count).room
  rw [runAtMost, runAtMost, show Desk.mk _ (sink.limited n) _ = start.limited n from rfl]
  rcases hrun : Connection.consumeAtMost consumer r.capacity count c start with
    ⟨_ | flow, desk, d⟩ <;> rw [hrun] at hlimited hroom'
  · refine hlimited.imp (fun hsame => by rw [hsame]) ?_
    rintro left ⟨l, e, hrefused, rfl⟩
    exact ⟨l, e, by rw [hrefused]; rfl, rfl⟩
  · refine hlimited.bind (grows_conclude hroom').accepted (fun hfits' hsame => ?_) ?_
    · rw [hsame]
      refine (@conclude_limited n d desk flow hroom' hfits').imp (fun hsame' => ?_) ?_
      · simp only [hsame']
      · rintro left ⟨l, e, hrefused, rfl⟩
        exact ⟨l, e, by simp only [hrefused], rfl⟩
    · rintro left ⟨l, e, hrefused, rfl⟩
      exact ⟨l, e, by rw [hrefused]; rfl, rfl⟩

/-- The same for one that may have a limit. -/
theorem runWithin_limited {sink : Sink} (hroom : sink.room = none)
    (hfits : Fits n sink.accepted.toList) (r : Receiver) (limit : Option Nat) (c : Connection)
    (stats : Stats) : Limits n (some outputFull) (r.runWithin limit c sink stats)
      (r.runWithin limit c (sink.limited n) stats) := by
  cases limit with
  | some count => exact runAtMost_limited hroom hfits r count c stats
  | none =>
    refine (run_limited hroom hfits r c stats).imp (fun hsame => ?_) ?_
    · rw [runWithin, runWithin, hsame]
    · rintro left ⟨l, e, hrefused, rfl⟩
      exact ⟨l, e, by rw [runWithin, hrefused], rfl⟩

theorem grows_run {sink : Sink} (hroom : sink.room = none) (r : Receiver) (c : Connection)
    (stats : Stats) : sink.accepted.toList <+: (r.run c sink stats).2.1.sink.accepted.toList := by
  have hgrows := @grows_consume r.capacity c ⟨r.decoder, sink, stats⟩ hroom
  exact (hgrows.trans (grows_conclude hgrows.room)).accepted

theorem grows_runAtMost {sink : Sink} (hroom : sink.room = none) (r : Receiver) (count : Nat)
    (c : Connection) (stats : Stats) :
    sink.accepted.toList <+: (r.runAtMost count c sink stats).2.1.sink.accepted.toList := by
  have hgrows := @grows_consumeAtMost r.capacity c ⟨r.decoder, sink, stats⟩ hroom count
  rw [runAtMost]
  rcases hrun : Connection.consumeAtMost consumer r.capacity count c ⟨r.decoder, sink, stats⟩ with
    ⟨_ | flow, desk, d⟩ <;> rw [hrun] at hgrows
  · exact hgrows.accepted
  · exact (hgrows.trans (grows_conclude hgrows.room)).accepted

theorem grows_runWithin {sink : Sink} (hroom : sink.room = none) (r : Receiver)
    (limit : Option Nat) (c : Connection) (stats : Stats) :
    sink.accepted.toList <+: (r.runWithin limit c sink stats).2.1.sink.accepted.toList := by
  cases limit with
  | some count => exact grows_runAtMost hroom r count c stats
  | none => exact grows_run hroom r c stats

end LinkProbe.Receiver
