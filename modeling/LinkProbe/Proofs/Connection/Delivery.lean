import LinkProbe.Proofs.Connection.Stream
import LinkProbe.Proofs.Sender.Runs

/-!
# Nothing is lost, doubled or put in another order

What the probe is told of its reads and writes, over any number of deeds, is what has gone over the
wire.

* `Connection.written`, `Connection.handedOut`: what the results of a deed tell.
* `Connection.written_eq`, `Connection.handedOut_eq`: it is what the deed has met on the wire.
* `Connection.gather`: what many deeds bring, one after the other.
* `Connection.nothing_lost`: both directions of a connection, whatever is done with it.
-/

namespace LinkProbe

/-- The same consumer with a record of all chunks that it was handed. -/
def Consumer.recorded {σ : Type} (consumer : Consumer σ) :
    Consumer (σ × Array (List UInt8)) where
  notes := consumer.notes
  step s bytes := ((consumer.step s.1 bytes).1, (consumer.step s.1 bytes).2, s.2.push bytes)

/-- The buffer of every read that a deed makes: that of the caller, or one made for the deed. -/
def Deed.buffer : Deed → Buffer
  | .read buffer => buffer
  | .drain capacity => .exact capacity
  | .receive receiver _ _ => .exact receiver.capacity
  | .write _ | .close | .send _ _ _ | .peer _ => .exact 0

/-- There is room for what is asked for and no more, unless a buffer of the caller's has more. -/
theorem Deed.room_buffer {deed : Deed}
    (hexact : ∀ buffer, deed = .read buffer → buffer.spare = buffer.capacity)
    (hsome : 0 < deed.buffer.capacity) : deed.buffer.room = deed.buffer.capacity := by
  have hspare : deed.buffer.spare = deed.buffer.capacity := by
    cases deed with
    | read buffer => exact hexact buffer rfl
    | write _ | close | drain _ | send _ _ _ | receive _ _ _ | peer _ => rfl
  rw [Buffer.room, hspare, Wire.room, if_neg (Nat.ne_of_gt hsome)]

namespace Connection

variable {σ : Type} {consumer : Consumer σ} {capacity : Nat} {c d : Connection} {s t : σ}
  {chunks : List (List UInt8)} {flow : Flow} {met : List Contact} {taken : List UInt8}

/-! ## What a deed tells -/

/-- The payloads that were written: a write tells of its own, and the counter of a sender goes on
with every payload. -/
def written (c : Connection) : Deed → List (List UInt8)
  | .write payload =>
    match (c.write payload).1 with
    | .ok _ => [payload]
    | .error _ => []
  | .send sender stats stopAt =>
    payloadsFrom sender.next ((sender.run c stats stopAt).2.sender.next - sender.next)
  | .read _ | .close | .drain _ | .receive _ _ _ | .peer _ => []

/-- The chunks that were handed out, whoever asked for them. -/
def handedOut (c : Connection) : Deed → List (List UInt8)
  | .read buffer =>
    match (c.read buffer).1 with
    | .chunk bytes => [bytes]
    | .ended | .failed _ | .waiting => []
  | .drain capacity => (c.drain capacity).2.1.toList
  | .receive receiver sink stats =>
    (c.consume Receiver.consumer.recorded receiver.capacity
      (⟨receiver.decoder, sink, stats⟩, #[])).2.1.2.toList
  | .write _ | .close | .send _ _ _ | .peer _ => []

/-- Reads put no payload on the wire. -/
theorem payloads_asked (c : Connection) (buffer : Buffer) :
    Contact.payloads (c.asked buffer) = [] := by
  unfold asked
  split <;> rfl

theorem payloads_consumeContacts (c : Connection) (consumer : Consumer σ) (capacity : Nat)
    (s : σ) : Contact.payloads (c.consumeContacts consumer capacity s) = [] := by
  obtain ⟨chunks, d, t, htakes, hstops⟩ :=
    consume_iff.mp (rfl : c.consume consumer capacity s = _)
  have hread : Contact.payloads (chunks.map fun bytes => .read (.data bytes)) = [] := by
    simp [Contact.payloads, Contact.payload?]
  rw [htakes.contacts, hstops.contacts, Contact.payloads_append, hread, payloads_asked]
  rfl

/-- Writes bring no chunk. -/
theorem chunks_offered (c : Connection) (payload : List UInt8) :
    Contact.chunks (c.offered payload) = [] := by
  unfold offered
  split <;> rfl

theorem chunks_works {stopAt : Option Nat} {r after : Sender.Run} {halt : Halt}
    (h : Sender.Works stopAt r met halt after) : Contact.chunks met = [] := by
  induction h with
  | completed _ | stopped _ _ _ | endless => rfl
  | failed _ _ _ => exact chunks_offered _ _
  | tick _ _ _ _ ih => rw [Contact.chunks_append, chunks_offered, ih, List.append_nil]

/-- What the results tell was written is what was written on the wire. -/
theorem written_eq (c : Connection) (deed : Deed) :
    c.written deed = Contact.payloads (c.contacts deed) := by
  cases deed with
  | write payload =>
    rw [written, contacts]
    rcases c.write_tells payload with ⟨fault, hwrite, hmet⟩ | ⟨hwrite, hmet⟩ <;> rw [hwrite, hmet]
  | send sender stats stopAt =>
    obtain ⟨count, hsent⟩ := sender.sent_run c stats stopAt
    rw [written, contacts, hsent.sender, hsent.payloads]
    simp only [Nat.add_sub_cancel_left]
  | read buffer => rw [written, contacts, payloads_asked]
  | drain capacity => rw [written, contacts, payloads_consumeContacts]
  | receive receiver sink stats => rw [written, contacts, payloads_consumeContacts]
  | close | peer _ => rfl

theorem Takes.recorded (h : Takes consumer capacity c s chunks d t) (seen : Array (List UInt8)) :
    Takes consumer.recorded capacity c (s, seen) chunks d (t, seen ++ chunks.toArray) := by
  induction h generalizing seen with
  | none => simpa using Takes.none
  | @chunk c d e s t u bytes chunks hread hstep _ ih =>
    have hrest := ih (seen.push bytes)
    have hseen : seen.push bytes ++ chunks.toArray = seen ++ (bytes :: chunks).toArray := by simp
    rw [hseen] at hrest
    refine .chunk hread ?_ hrest
    simp only [Consumer.recorded, hstep]

theorem Stops.recorded (h : Stops consumer capacity c s flow d t) (seen : Array (List UInt8)) :
    Stops consumer.recorded capacity c (s, seen) flow d
      (t, seen ++ (Contact.chunks (c.asked capacity)).toArray) := by
  rw [chunks_asked]
  cases h with
  | ended hread =>
    rw [hread]
    simpa using .ended hread
  | failed hread =>
    rw [hread]
    simpa using .failed hread
  | waiting hread =>
    rw [hread]
    simpa using .waiting hread
  | refused hread hstep =>
    refine .refused hread ?_
    simp [Consumer.recorded, hstep, hread]

/-- Keeping a record changes nothing else, and the record is what was read from the wire. -/
theorem consume_recorded (c : Connection) (consumer : Consumer σ) (capacity : Nat) (s : σ) :
    c.consume consumer.recorded capacity (s, #[]) =
      ((c.consume consumer capacity s).1,
        ((c.consume consumer capacity s).2.1,
          (Contact.chunks (c.consumeContacts consumer capacity s)).toArray),
        (c.consume consumer capacity s).2.2) := by
  rcases hconsume : c.consume consumer capacity s with ⟨flow, t, e⟩
  obtain ⟨chunks, d, u, htakes, hstops⟩ := consume_iff.mp hconsume
  rw [(htakes.recorded #[]).consume, (hstops.recorded _).consume,
    chunks_consumeContacts htakes hstops]
  simp

/-- What a collector keeps is what was read from the wire. -/
theorem kept_consume (c : Connection) (capacity : Nat) : (c.drain capacity).2.1.toList =
    Contact.chunks (c.consumeContacts collector capacity #[]) := by
  rcases hconsume : c.consume collector capacity #[] with ⟨flow, kept, e⟩
  obtain ⟨chunks, d, before, htakes, hstops⟩ := consume_iff.mp hconsume
  have hlast : Contact.chunks (d.asked capacity) = [] := by
    rw [chunks_asked]
    cases hstops with
    | ended hread | failed hread | waiting hread => rw [hread]
    | refused _ hstep => cases hstep
  rw [drain, hconsume, chunks_consumeContacts htakes hstops, hlast, List.append_nil]
  show kept.toList = chunks
  rw [hstops.items.1, htakes.items.1]
  simp

/-- What the results tell was handed out is what was read from the wire. -/
theorem handedOut_eq (c : Connection) (deed : Deed) :
    c.handedOut deed = Contact.chunks (c.contacts deed) := by
  cases deed with
  | read buffer => exact (c.chunks_asked buffer).symm
  | drain capacity => exact c.kept_consume capacity
  | receive receiver sink stats => rw [handedOut, contacts, consume_recorded]
  | write payload => rw [handedOut, contacts, chunks_offered]
  | send sender stats stopAt => exact (chunks_works (sender.works_run c stats stopAt)).symm
  | close | peer _ => rfl

theorem Takes.length (h : Takes consumer capacity c s chunks d t) :
    ∀ chunk ∈ chunks, 0 < chunk.length ∧ chunk.length ≤ Wire.room capacity := by
  induction h with
  | none => exact fun chunk hmem => absurd hmem List.not_mem_nil
  | chunk hread _ _ ih =>
    intro chunk hmem
    rcases List.mem_cons.mp hmem with rfl | hlater
    · exact length_read hread
    · exact ih chunk hlater

theorem length_asked {buffer : Buffer} {chunk : List UInt8}
    (h : chunk ∈ Contact.chunks (c.asked buffer)) :
    0 < chunk.length ∧ chunk.length ≤ buffer.room := by
  rw [chunks_asked] at h
  rcases hread : c.read buffer with ⟨bytes | _ | _ | _, d⟩ <;> rw [hread] at h
  · rw [List.mem_singleton.mp h]
    exact length_read hread
  · cases h
  · cases h
  · cases h

theorem length_consumeContacts {chunk : List UInt8}
    (h : chunk ∈ Contact.chunks (c.consumeContacts consumer capacity s)) :
    0 < chunk.length ∧ chunk.length ≤ Wire.room capacity := by
  obtain ⟨chunks, d, t, htakes, hstops⟩ :=
    consume_iff.mp (rfl : c.consume consumer capacity s = _)
  rw [chunks_consumeContacts htakes hstops] at h
  rcases List.mem_append.mp h with htaken | hlast
  · exact htakes.length chunk htaken
  · exact length_asked hlast

/-- A chunk that is handed out is not empty, and no larger than the room in the deed's buffer. -/
theorem length_handedOut {deed : Deed} {chunk : List UInt8} (h : chunk ∈ c.handedOut deed) :
    0 < chunk.length ∧ chunk.length ≤ deed.buffer.room := by
  rw [handedOut_eq] at h
  cases deed with
  | read buffer => exact length_asked h
  | drain capacity => exact length_consumeContacts h
  | receive receiver sink stats => exact length_consumeContacts h
  | write payload =>
    rw [contacts, chunks_offered] at h
    cases h
  | send sender stats stopAt =>
    rw [← handedOut_eq] at h
    cases h
  | close | peer _ => cases h

/-! ## What many deeds bring -/

/-- What deeds bring that are done one after the other. -/
def gather {α : Type} (c : Connection) (brings : Connection → Deed → List α) : List Deed → List α
  | [] => []
  | deed :: deeds => brings c deed ++ (c.perform deed).gather brings deeds

theorem gather_written (c : Connection) (deeds : List Deed) :
    c.gather written deeds = Contact.payloads (c.gather contacts deeds) := by
  induction deeds generalizing c with
  | nil => rfl
  | cons deed deeds ih => rw [gather, gather, written_eq, ih, Contact.payloads_append]

theorem gather_handedOut (c : Connection) (deeds : List Deed) :
    c.gather handedOut deeds = Contact.chunks (c.gather contacts deeds) := by
  induction deeds generalizing c with
  | nil => rfl
  | cons deed deeds ih => rw [gather, gather, handedOut_eq, ih, Contact.chunks_append]

/-- Everything stays accounted for, whatever is done. -/
theorem accounts_performAll (h : c.wire.Accounts met taken) (deeds : List Deed) :
    (c.performAll deeds).wire.Accounts (met ++ c.gather contacts deeds)
      (taken ++ c.gather taking deeds) := by
  induction deeds generalizing c met taken with
  | nil => simpa [performAll, gather] using h
  | cons deed deeds ih =>
    have hrest := ih (accounts_perform h deed)
    rwa [List.append_assoc, List.append_assoc] at hrest

/-- **Nothing is lost, doubled or put in another order**, whatever is done with a new connection and
whatever the peer does: what the peer has taken, followed by what it has not taken yet, are the
payloads of the writes that succeeded; the chunks that were handed out are the beginning of what the
peer has sent, and all of it once a read has found the end. No chunk is empty or larger than the
room in the buffer that it was read into, which is all that is asked for unless the caller's buffer
has more. -/
theorem nothing_lost {parts : List (List UInt8)} {ending : Option Ending}
    (hnew : c.wire = .plan parts ending) (deeds : List Deed) :
    c.gather taking deeds ++ (c.performAll deeds).wire.take.1 =
      (c.gather written deeds).flatten ∧
    (c.gather handedOut deeds).flatten <+: (c.performAll deeds).wire.sent.toList ∧
    (.read .ended ∈ c.gather contacts deeds →
      (c.gather handedOut deeds).flatten = (c.performAll deeds).wire.sent.toList) ∧
    (∀ before deed after, deeds = before ++ deed :: after →
      ∀ chunk ∈ (c.performAll before).handedOut deed,
        chunk ≠ [] ∧ chunk.length ≤ deed.buffer.room ∧
        ((∀ buffer, deed = .read buffer → buffer.spare = buffer.capacity) →
          0 < deed.buffer.capacity → chunk.length ≤ deed.buffer.capacity)) ∧
    ∀ capacity, ∃ failure : Option Fault, items capacity (some (c.performAll deeds)) =
      ((c.performAll deeds).handedOut (.drain capacity)).map .ok ++ failure.toList.map .error := by
  have haccounts := accounts_performAll (c := c) (by rw [hnew]; exact Wire.accounts_plan _ _) deeds
  rw [List.nil_append, List.nil_append] at haccounts
  rw [gather_written, gather_handedOut]
  refine ⟨haccounts.outbound.take.2, haccounts.inbound.begins,
    fun hended => (haccounts.inbound.ended hended).1, ?_,
    fun capacity => ⟨_, items_drain _ capacity⟩⟩
  intro before deed after _ chunk hchunk
  obtain ⟨hpos, hle⟩ := length_handedOut hchunk
  refine ⟨List.ne_nil_of_length_pos hpos, hle, fun hexact hcapacity => ?_⟩
  rwa [deed.room_buffer hexact hcapacity] at hle

/-- A buffer of the caller's with room for eight bytes is filled, though four are asked for. -/
example : (read ⟨⟨.v4 .loopback, 8999⟩, ⟨.v4 .loopback, 8999⟩, .opened,
    .plan [[0x61, 0x62, 0x63, 0x64, 0x65]] none, #[]⟩ ⟨4, 8, by decide⟩).1 =
      .chunk [0x61, 0x62, 0x63, 0x64, 0x65] := by decide

/-- A receiver stops at a byte that begins no character, and the next read goes on behind the chunk
with that byte. -/
theorem nothing_lost_bad_byte : ∃ (c : Connection) (deeds : List Deed),
    c.wire = .plan [[0x6F, 0xFF, 0x6B]] (some .close) ∧
    deeds = [.receive (.new .strict 2) (.empty none) .zero, .read (.exact 2), .write [0x68],
      .read (.exact 2)] ∧
    ((c.perform (.receive (.new .strict 2) (.empty none) .zero)).read (.exact 2)).1 =
      .chunk [0x6B] ∧
    (c.gather handedOut deeds).flatten = [0x6F, 0xFF, 0x6B] ∧
    (c.gather written deeds).flatten = [0x68] := by
  let start : Receiver.Desk := ⟨.new .strict, .empty none, .zero⟩
  let c : Connection := ⟨⟨.v4 .loopback, 8999⟩, ⟨.v4 .loopback, 8999⟩, .opened,
    .plan [[0x6F, 0xFF, 0x6B]] (some .close), #[]⟩
  let d : Connection := ({ c with wire := (c.wire.read 2).2 } : Connection).note (.received 2)
  have hstops : Stops Receiver.consumer 2 c start (.failed (.decode ⟨1, [0xFF]⟩)) d
      { start with stats := start.stats.recordChunk 2 } :=
    @Stops.refused _ Receiver.consumer 2 c _ start _ [0x6F, 0xFF] _ rfl rfl
  have hperform : c.perform (.receive (.new .strict 2) (.empty none) .zero) = d :=
    congrArg (fun result => result.2.2) (Receiver.run_refused (.new .strict 2) hstops.consume)
  let rest : List Deed := [.read (.exact 2), .write [0x68], .read (.exact 2)]
  let deeds : List Deed := .receive (.new .strict 2) (.empty none) .zero :: rest
  have hafter : c.performAll deeds = d.performAll rest := by
    rw [← hperform]
    rfl
  have hmet : c.gather contacts deeds =
      c.contacts (.receive (.new .strict 2) (.empty none) .zero) ++
        [.read (.data [0x6B]), .write [0x68] (.ok 1), .read .ended] := by
    have hrest : d.gather contacts rest =
        [.read (.data [0x6B]), .write [0x68] (.ok 1), .read .ended] := rfl
    rw [← hrest, ← hperform]
    rfl
  obtain ⟨hout, -, hin, -⟩ :=
    @nothing_lost c [[0x6F, 0xFF, 0x6B]] (some .close) rfl deeds
  have htaken : c.gather taking deeds = [] := rfl
  refine ⟨c, deeds, rfl, rfl, ?_, ?_, ?_⟩
  · rw [hperform]
    rfl
  · rw [hin (by rw [hmet]; simp), hafter]
    rfl
  · rw [← hout, htaken, hafter]
    rfl

end Connection

end LinkProbe
