import LinkProbe.Proofs.Connection.Exchange

/-!
# What has gone over a wire is accounted for

What an operation meets on the wire says which bytes went over it. These bytes agree with what the
wire itself knows of its two directions, and everything that can happen to a wire keeps it so.

* `Contact.chunks`, `Contact.payloads`: what reads brought and what writes put on the wire.
* `Wire.Accounts`: what was read and what was written agree with the wire.
* `Wire.Accounts.read`, `Wire.Accounts.write`, `Wire.Accounts.act`: one thing that happens to it.
* `Connection.accounts_perform`: one deed, however many reads and writes it makes.
-/

namespace LinkProbe

namespace Contact

/-- The chunk that a read brought. -/
def chunk? : Contact → Option (List UInt8)
  | .read (.data bytes) => some bytes
  | .read .ended | .read (.failed _) | .read .silent | .write _ _ => none

/-- The payload of a write that succeeded. -/
def payload? : Contact → Option (List UInt8)
  | .write payload (.ok _) => some payload
  | .write _ (.error _) | .read _ => none

/-- The chunks that were read, in order. -/
def chunks (met : List Contact) : List (List UInt8) := met.filterMap chunk?

/-- The payloads that were written, in order. -/
def payloads (met : List Contact) : List (List UInt8) := met.filterMap payload?

@[simp] theorem chunks_append (first second : List Contact) :
    chunks (first ++ second) = chunks first ++ chunks second :=
  List.filterMap_append

@[simp] theorem payloads_append (first second : List Contact) :
    payloads (first ++ second) = payloads first ++ payloads second :=
  List.filterMap_append

/-- Contacts that are chunks and no more. -/
theorem chunks_map_data (read : List (List UInt8)) :
    chunks (read.map fun bytes => .read (.data bytes)) = read := by
  induction read with
  | nil => rfl
  | cons bytes read ih => simpa [chunks, chunk?] using ih

end Contact

namespace Wire

/-! ## One move -/

@[simp] theorem written_conclude (w : Wire) (ending : Ending) :
    (w.conclude ending).written = w.written := by
  cases ending <;> rfl

@[simp] theorem taken_conclude (w : Wire) (ending : Ending) :
    (w.conclude ending).taken = w.taken := by
  cases ending <;> rfl

@[simp] theorem written_settle (w : Wire) : w.settle.written = w.written := by
  rcases w.settle_cases with h | ⟨-, -, -, ⟨part, parts, h⟩ | ⟨ending, h⟩ | h⟩ <;> simp [h]

@[simp] theorem taken_settle (w : Wire) : w.settle.taken = w.taken := by
  rcases w.settle_cases with h | ⟨-, -, -, ⟨part, parts, h⟩ | ⟨ending, h⟩ | h⟩ <;> simp [h]

/-- A read leaves the other direction as it is. -/
theorem written_read (w : Wire) (capacity : Nat) :
    (w.read capacity).2.written = w.written ∧ (w.read capacity).2.taken = w.taken := by
  rcases w.read_cases capacity with ⟨failure, -, h⟩ | ⟨-, -, -, h⟩ | ⟨-, -, -, h⟩ | ⟨-, -, h⟩ <;>
    simp [h]

/-! ## The accounts -/

/-- What reads brought agrees with what the peer has sent. -/
structure Inbound (w : Wire) (met : List Contact) : Prop where
  /-- It is the beginning of it. -/
  begins : (Contact.chunks met).flatten <+: w.sent.toList
  /-- As long as the wire is of use, the rest can still be read. -/
  unread : w.broken = none → (Contact.chunks met).flatten ++ w.unread = w.sent.toList
  /-- There is no rest when a read has found that the peer has ended. -/
  ended : .read .ended ∈ met →
    (Contact.chunks met).flatten = w.sent.toList ∧ w.ended = true ∧ w.unread = []

/-- What writes put on the wire agrees with what the peer has taken and can still take. -/
structure Outbound (w : Wire) (met : List Contact) (taken : List UInt8) : Prop where
  written : (Contact.payloads met).flatten = w.written.toList
  taken : taken = w.written.toList.take w.taken
  taken_le : w.taken ≤ w.written.size

/-- Both directions are accounted for. -/
structure Accounts (w : Wire) (met : List Contact) (taken : List UInt8) : Prop where
  inbound : w.Inbound met
  outbound : w.Outbound met taken

variable {w v : Wire} {met more : List Contact} {taken : List UInt8}

namespace Inbound

/-- Contacts that bring no chunk and do not find that the peer has ended. -/
theorem append (h : w.Inbound met) (hchunks : Contact.chunks more = [])
    (hended : .read .ended ∉ more) : w.Inbound (met ++ more) := by
  refine ⟨?_, ?_, ?_⟩
  · simpa [hchunks] using h.begins
  · simpa [hchunks] using h.unread
  · intro hmem
    simpa [hchunks] using h.ended ((List.mem_append.mp hmem).resolve_right hended)

theorem breakOff (h : w.Inbound met) (failure : IoFailure) : (w.breakOff failure).Inbound met := by
  refine ⟨h.begins, nofun, fun hmem => ?_⟩
  obtain ⟨hwhole, hended, -⟩ := h.ended hmem
  exact ⟨hwhole, hended, rfl⟩

theorem conclude (h : w.Inbound met) (ending : Ending) : (w.conclude ending).Inbound met := by
  cases ending with
  | close =>
    refine ⟨h.begins, h.unread, fun hmem => ?_⟩
    obtain ⟨hwhole, -, hunread⟩ := h.ended hmem
    exact ⟨hwhole, rfl, hunread⟩
  | reset => exact h.breakOff _

/-- Bytes that the peer sends as long as it has not ended. -/
theorem sends (h : w.Inbound met) (hbroken : w.broken = none) (hended : w.ended = false)
    (bytes : List UInt8) :
    ({ w with sent := w.sent ++ bytes.toArray, unread := w.unread ++ bytes } : Wire).Inbound
      met := by
  have hall := h.unread hbroken
  have hsent : (Contact.chunks met).flatten ++ (w.unread ++ bytes) =
      (w.sent ++ bytes.toArray).toList := by
    rw [← List.append_assoc, hall, Array.toList_append]
  refine ⟨⟨_, hsent⟩, fun _ => hsent, fun hmem => ?_⟩
  have hover := (h.ended hmem).2.1
  rw [hended] at hover
  cases hover

theorem send (h : w.Inbound met) (bytes : List UInt8) : (w.send bytes).Inbound met := by
  by_cases hmute : (w.ended || w.broken.isSome) = true
  · rwa [Wire.send, if_pos hmute]
  · rw [Wire.send, if_neg hmute]
    simp only [Bool.or_eq_true, not_or, Bool.not_eq_true, Option.isSome_eq_false_iff,
      Option.isNone_iff_eq_none] at hmute
    exact h.sends hmute.2 hmute.1 bytes

theorem settle (h : w.Inbound met) : w.settle.Inbound met := by
  rcases w.settle_cases with hsame | ⟨hbroken, hended, hunread, ⟨part, parts, hsends⟩ |
    ⟨ending, hends⟩ | hrests⟩
  · rwa [hsame]
  · have hsent := h.sends hbroken hended part
    rw [hunread, List.nil_append] at hsent
    rw [hsends]
    exact ⟨hsent.begins, hsent.unread, hsent.ended⟩
  · rw [hends]
    refine conclude ?_ ending
    exact ⟨h.begins, h.unread, h.ended⟩
  · rw [hrests]
    exact ⟨h.begins, h.unread, h.ended⟩

/-- What a read brings are the next bytes, and it finds that the peer has ended when none are
left. -/
theorem read (h : w.Inbound met) (capacity : Nat) :
    (w.read capacity).2.Inbound (met ++ [.read (w.read capacity).1]) := by
  rcases w.read_cases capacity with ⟨failure, -, hread⟩ | ⟨hbroken, hunread, hended, hread⟩ |
    ⟨-, -, -, hread⟩ | ⟨hbroken, hunread, hread⟩ <;> rw [hread]
  · exact h.append rfl (by simp)
  · have hall := h.unread hbroken
    have hsame : Contact.chunks (met ++ [.read .ended]) = Contact.chunks met := by
      rw [Contact.chunks_append]
      exact List.append_nil _
    rw [hunread, List.append_nil] at hall
    refine ⟨?_, ?_, fun _ => ⟨?_, hended, hunread⟩⟩ <;> rw [hsame]
    · exact h.begins
    · exact h.unread
    · exact hall
  · exact h.append rfl (by simp)
  · have hall := h.unread hbroken
    let bytes := w.unread.take (room capacity)
    have hnext : (Contact.chunks (met ++ [.read (.data bytes)])).flatten ++
        w.unread.drop (room capacity) = w.sent.toList := by
      simpa [bytes, Contact.chunks, Contact.chunk?] using hall
    refine settle ⟨⟨_, hnext⟩, fun _ => hnext, fun hmem => ?_⟩
    -- The peer cannot have ended before: there was something left.
    have hbefore : Contact.read .ended ∈ met := by simpa using hmem
    exact absurd (h.ended hbefore).2.2 hunread

end Inbound

namespace Outbound

/-- What does not touch the direction. -/
theorem congr (h : w.Outbound met taken) (hwritten : v.written = w.written)
    (htaken : v.taken = w.taken) (hmore : Contact.payloads more = []) :
    v.Outbound (met ++ more) taken := by
  refine ⟨?_, ?_, ?_⟩
  · rw [hwritten, Contact.payloads_append, hmore, List.append_nil]
    exact h.written
  · rw [hwritten, htaken]
    exact h.taken
  · rw [hwritten, htaken]
    exact h.taken_le

/-- A payload that is written comes behind all others. -/
theorem write (h : w.Outbound met taken) (payload : List UInt8) :
    (w.write payload).2.Outbound (met ++ [.write payload (w.write payload).1]) taken := by
  rcases w.write_cases payload with ⟨failure, hwrite⟩ | ⟨accepts, hwrite⟩ <;> rw [hwrite]
  · exact h.congr rfl rfl rfl
  · have hle := h.taken_le
    refine ⟨?_, ?_, ?_⟩
    · simp [Contact.payloads, Contact.payload?, ← h.written]
    · show taken = (w.written ++ payload.toArray).toList.take w.taken
      rw [Array.toList_append, List.take_append_of_le_length (by simpa using hle)]
      exact h.taken
    · show w.taken ≤ (w.written ++ payload.toArray).size
      rw [Array.size_append]
      omega

/-- What the peer takes is what it has not taken before. -/
theorem take (h : w.Outbound met taken) :
    w.take.2.2.Outbound met (taken ++ w.take.1) ∧
      taken ++ w.take.1 = (Contact.payloads met).flatten := by
  have hall : taken ++ w.take.1 = w.written.toList := by
    rw [h.taken]
    exact List.take_append_drop _ _
  refine ⟨⟨h.written, ?_, Nat.le_refl _⟩, by rw [hall, h.written]⟩
  show _ = w.written.toList.take w.written.size
  rw [hall, ← Array.length_toList, List.take_length]

end Outbound

namespace Accounts

theorem read (h : w.Accounts met taken) (capacity : Nat) :
    (w.read capacity).2.Accounts (met ++ [.read (w.read capacity).1]) taken := by
  obtain ⟨hwritten, htaken⟩ := w.written_read capacity
  exact ⟨h.inbound.read capacity, h.outbound.congr hwritten htaken rfl⟩

theorem write (h : w.Accounts met taken) (payload : List UInt8) :
    (w.write payload).2.Accounts (met ++ [.write payload (w.write payload).1]) taken := by
  refine ⟨?_, h.outbound.write payload⟩
  rcases w.write_cases payload with ⟨failure, hwrite⟩ | ⟨accepts, hwrite⟩ <;> rw [hwrite]
  · exact h.inbound.append rfl (by simp)
  · have hin : w.Inbound (met ++ [.write payload (.ok payload.length)]) :=
      h.inbound.append rfl (by simp)
    exact ⟨hin.begins, hin.unread, hin.ended⟩

theorem shutDown (h : w.Accounts met taken) : w.shutDown.Accounts met taken :=
  ⟨⟨h.inbound.begins, h.inbound.unread, h.inbound.ended⟩,
    ⟨h.outbound.written, h.outbound.taken, h.outbound.taken_le⟩⟩

end Accounts

/-- Whatever the peer or the network does, everything is accounted for. -/
theorem Accounts.act (h : w.Accounts met taken) (act : Act) :
    (act.apply w).Accounts met (taken ++ act.takes w) := by
  have houtbound {v : Wire} (hwritten : v.written = w.written) (htaken : v.taken = w.taken) :
      v.Outbound met (taken ++ []) := by
    have hsame : v.Outbound (met ++ []) taken := h.outbound.congr hwritten htaken rfl
    rwa [List.append_nil] at hsame ⊢
  cases act with
  | send bytes =>
    refine ⟨h.inbound.send bytes, houtbound ?_ ?_⟩ <;>
      rw [Act.apply, Wire.send] <;> split <;> rfl
  | conclude ending =>
    exact ⟨h.inbound.conclude ending,
      houtbound (written_conclude w ending) (taken_conclude w ending)⟩
  | extend parts ending =>
    refine ⟨Inbound.settle ⟨h.inbound.begins, h.inbound.unread, h.inbound.ended⟩,
      houtbound ?_ ?_⟩
    · rw [Act.apply, Wire.extend, written_settle]
    · rw [Act.apply, Wire.extend, taken_settle]
  | take =>
    exact ⟨⟨h.inbound.begins, h.inbound.unread, h.inbound.ended⟩, h.outbound.take.1⟩
  | breakOff failure => exact ⟨h.inbound.breakOff failure, houtbound rfl rfl⟩
  | limit writes =>
    exact ⟨⟨h.inbound.begins, h.inbound.unread, h.inbound.ended⟩, houtbound rfl rfl⟩

/-- Whatever happens to a wire one after the other is accounted for. -/
theorem Exchange.accounts {further : List UInt8} (hexchange : w.Exchange more further v)
    (h : w.Accounts met taken) : v.Accounts (met ++ more) (taken ++ further) := by
  induction hexchange with
  | start => rwa [List.append_nil, List.append_nil]
  | read _ capacity ih =>
    rw [← List.append_assoc]
    exact ih.read capacity
  | write _ payload ih =>
    rw [← List.append_assoc]
    exact ih.write payload
  | act _ act ih =>
    rw [← List.append_assoc]
    exact ih.act act

/-- Nothing has gone over a new wire. -/
theorem accounts_plan (parts : List (List UInt8)) (ending : Option Ending) :
    (plan parts ending).Accounts [] [] := by
  refine ⟨Inbound.settle ⟨List.prefix_refl _, fun _ => rfl, nofun⟩, ?_, ?_, ?_⟩ <;>
    simp [plan, Contact.payloads]

end Wire

namespace Connection

/-! ## One deed -/

variable {σ : Type} {consumer : Consumer σ} {capacity : Nat} {c d e : Connection} {s t u : σ}
  {chunks : List (List UInt8)} {flow : Flow} {met : List Contact} {taken : List UInt8}

/-- What a read meets is the chunk that it brings, if it brings one. -/
theorem chunks_asked (c : Connection) (buffer : Buffer) : Contact.chunks (c.asked buffer) =
    match (c.read buffer).1 with
    | .chunk bytes => [bytes]
    | .ended | .failed _ | .waiting => [] := by
  rcases c.read_cases buffer with ⟨hstate, hread⟩ | ⟨hstate, hopen⟩
  · rw [asked_closed hstate, hread]
    rfl
  · have hasked : c.asked buffer = [.read (c.wire.read buffer.spare).1] := by
      simp [asked, State.isTerminal, hstate]
    rw [hasked]
    rcases hopen with ⟨failure, -, hmet, hread⟩ | ⟨hmet, hread⟩ | ⟨hmet, hread⟩ |
      ⟨bytes, wire, hmet, hread⟩ <;> rw [hmet, hread] <;> rfl

/-- What a run of reads meets are the chunks that were taken, and what the last read brings. -/
theorem chunks_consumeContacts (htakes : Takes consumer capacity c s chunks d t)
    (hstops : Stops consumer capacity d t flow e u) :
    Contact.chunks (c.consumeContacts consumer capacity s) =
      chunks ++ Contact.chunks (d.asked capacity) := by
  rw [htakes.contacts, hstops.contacts, Contact.chunks_append, Contact.chunks_map_data]

theorem accounts_close (h : c.wire.Accounts met taken) : c.close.wire.Accounts met taken := by
  rw [wire_close]
  split
  · exact h
  · exact h.shutDown

/-- **All that goes over the wire in the course of a deed is accounted for.** -/
theorem accounts_perform (h : c.wire.Accounts met taken) (deed : Deed) :
    (c.perform deed).wire.Accounts (met ++ c.contacts deed) (taken ++ c.taking deed) := by
  by_cases hdeed : deed = .close
  · rw [hdeed, taking, contacts, List.append_nil, List.append_nil]
    exact accounts_close h
  · exact (c.exchange_perform hdeed).accounts h

end Connection

end LinkProbe
