import LinkProbe.Proofs.Decoder.Runs

/-!
# Where the failures of a decoder stand

A decoder can be called in any order, also after a call has failed. It counts its offsets from the
start of the stream, but a call that fails or flushes held bytes takes these out of the stream
without counting them, and all later offsets fall short by as many.

* `Call`, `Decoder.callAll`: calls in any order; `fed`: the bytes they feed.
* `Decoder.lost`, `Decoder.lostAll`: the bytes that calls take out of the stream uncounted.
* `CountsFor`: what the decoder knows of its place in the stream, which every call keeps
  (`CountsFor.call`).
* `failure_stands`: a failure stands at its offset and the lost bytes before it.
* `second_failure_counts_short`: so the offset alone is not its place.
-/

namespace LinkProbe.Decoder

open Utf8

/-! ## Calls -/

/-- A call of a decoder. -/
inductive Call where
  | feed (chunk : List UInt8)
  | finish
deriving DecidableEq, Repr

/-- The bytes that a call adds to the stream. -/
def Call.bytes : Call → List UInt8
  | .feed chunk => chunk
  | .finish => []

/-- The stream that the calls feed. -/
def fed (calls : List Call) : List UInt8 := calls.flatMap Call.bytes

/-- What a call brings, and the decoder after it. -/
def call (d : Decoder) : Call → Except Malformed Decoded × Decoder
  | .feed chunk => d.feed chunk
  | .finish => d.finish

/-- The decoder after calls, whether they failed or not. -/
def callAll (d : Decoder) (calls : List Call) : Decoder :=
  calls.foldl (fun d call => (d.call call).2) d

/-- How many bytes a call takes out of the stream without counting them: all that a call which fails
had before it, and what was held at the end. -/
def lost (d : Decoder) : Call → Nat
  | .feed chunk =>
    match (d.feed chunk).1 with
    | .error _ => d.held.length + chunk.length
    | .ok _ => 0
  | .finish => d.held.length

/-- How many bytes the calls take out of the stream without counting them. -/
def lostAll (d : Decoder) : List Call → Nat
  | [] => 0
  | call :: calls => d.lost call + (d.call call).2.lostAll calls

theorem callAll_append (d : Decoder) (first second : List Call) :
    d.callAll (first ++ second) = (d.callAll first).callAll second :=
  List.foldl_append

theorem lostAll_append (d : Decoder) (first second : List Call) :
    d.lostAll (first ++ second) = d.lostAll first + (d.callAll first).lostAll second := by
  induction first generalizing d with
  | nil => exact (Nat.zero_add _).symm
  | cons call first ih =>
    rw [List.cons_append, lostAll, ih, lostAll, Nat.add_assoc]
    rfl

/-! ## One call -/

/-- A chunk is read to its end, or a strict decoder drops it with all it held. -/
theorem feed_cases (d : Decoder) (chunk : List UInt8) :
    d.feed chunk = (.ok (shownText (scan d.held chunk).pieces.toList),
      d.advance chunk (scan d.held chunk).held) ∨
    ∃ bad, firstBad? d.offset (scan d.held chunk).pieces.toList = some bad ∧
      d.feed chunk = (.error bad, { d with held := [] }) := by
  cases hmode : d.mode with
  | lossy => exact .inl (by rw [feed, hmode]; rfl)
  | strict =>
    cases hbad : firstBad? d.offset (scan d.held chunk).pieces.toList with
    | none => exact .inl (by simp only [feed, hmode, hbad]; rfl)
    | some bad => exact .inr ⟨bad, rfl, by simp only [feed, hmode, hbad]⟩

/-- Held bytes are dropped at the end, whatever comes of them. -/
theorem finish_cases (d : Decoder) :
    (∃ decoded, d.finish = (.ok decoded, { d with held := [] })) ∨
    d.held ≠ [] ∧ d.finish = (.error ⟨d.offset, d.held⟩, { d with held := [] }) := by
  by_cases hheld : d.held = []
  · exact .inl ⟨⟨"", 0⟩, by simp [finish, hheld]⟩
  · cases hmode : d.mode with
    | lossy => exact .inl ⟨⟨"\uFFFD", 1⟩, by simp [finish, hheld, hmode]⟩
    | strict => exact .inr ⟨hheld, by simp [finish, hheld, hmode]⟩

/-- The first bad piece that is settled stands in the bytes that were scanned. -/
theorem prefix_of_firstBad? {held chunk : List UInt8} {offset : Nat} {bad : Malformed}
    (hheld : Holdable held) (h : firstBad? offset (scan held chunk).pieces.toList = some bad) :
    ∃ place, bad.offset = offset + place ∧ place ≤ (held ++ chunk).length ∧
      Subpart bad.bytes ((held ++ chunk).drop place) := by
  rw [← Nat.add_zero offset, firstBad?_add] at h
  obtain ⟨inner, hinner, rfl⟩ := Option.map_eq_some_iff.mp h
  have hbroken : BrokenAt (held ++ chunk) inner :=
    brokenAt_of_firstBad? (settles_scan hheld chunk).division (firstBad?_append hinner)
  exact ⟨inner.offset, rfl, hbroken.offset_le, hbroken.subpart⟩

/-- A call that fails shows bytes of what it had before it, and drops all of that. -/
theorem call_error {d : Decoder} {call : Call} {bad : Malformed} (hheld : Holdable d.held)
    (h : (d.call call).1 = .error bad) :
    bad.bytes ≠ [] ∧ (∃ place, bad.offset = d.offset + place ∧
      bad.bytes <+: (d.held ++ call.bytes).drop place ∧
      place + bad.bytes.length ≤ d.held.length + call.bytes.length) ∧
    (d.call call).2.offset = d.offset ∧ d.lost call = d.held.length + call.bytes.length := by
  cases call with
  | feed chunk =>
    rcases d.feed_cases chunk with hfeed | ⟨other, hother, hfeed⟩
    · rw [Decoder.call, hfeed] at h
      cases h
    · rw [Decoder.call, hfeed] at h
      cases h
      obtain ⟨place, hoffset, hplace, hsub⟩ := prefix_of_firstBad? hheld hother
      have hlen := hsub.isPrefix.length_le
      rw [List.length_drop, List.length_append] at hlen
      rw [List.length_append] at hplace
      refine ⟨hsub.ne_nil, ⟨place, hoffset, hsub.isPrefix, ?_⟩, ?_, ?_⟩
      · show place + bad.bytes.length ≤ d.held.length + chunk.length
        omega
      · rw [Decoder.call, hfeed]
      · rw [lost, hfeed]
        rfl
  | finish =>
    rcases d.finish_cases with ⟨decoded, hfinish⟩ | ⟨hne, hfinish⟩
    · rw [Decoder.call, hfinish] at h
      cases h
    · rw [Decoder.call, hfinish] at h
      cases h
      refine ⟨hne, ⟨0, rfl, ?_, ?_⟩, ?_, rfl⟩
      · rw [List.drop_zero]
        exact List.prefix_append _ _
      · exact Nat.le_of_eq (Nat.zero_add _)
      · rw [Decoder.call, hfinish]

/-- With what it loses, a call never leads back in the stream. -/
theorem offset_le_call (d : Decoder) (call : Call) :
    d.offset ≤ (d.call call).2.offset + d.lost call := by
  cases call with
  | feed chunk =>
    rcases d.feed_cases chunk with hfeed | ⟨bad, -, hfeed⟩ <;> rw [Decoder.call, hfeed]
    · exact Nat.le_trans (Nat.le_add_right _ _) (Nat.le_add_right _ _)
    · exact Nat.le_add_right _ _
  | finish =>
    rcases d.finish_cases with ⟨decoded, hfinish⟩ | ⟨-, hfinish⟩ <;>
      rw [Decoder.call, hfinish] <;> exact Nat.le_add_right _ _

theorem offset_le_callAll (d : Decoder) (calls : List Call) :
    d.offset ≤ (d.callAll calls).offset + d.lostAll calls := by
  induction calls generalizing d with
  | nil => exact Nat.le_refl _
  | cons call calls ih =>
    have hcall := d.offset_le_call call
    have hcalls := ih (d.call call).2
    show d.offset ≤ ((d.call call).2.callAll calls).offset +
      (d.lost call + (d.call call).2.lostAll calls)
    omega

/-! ## The place in the stream -/

/-- The decoder holds the end of the stream and, but for the missed bytes, has counted all before
it. -/
structure CountsFor (d : Decoder) (stream : List UInt8) (missed : Nat) : Prop where
  holdable : Holdable d.held
  atEnd : d.held <:+ stream
  counted : missed + d.offset + d.held.length = stream.length

namespace CountsFor

variable {d : Decoder} {stream : List UInt8} {missed : Nat}

theorem new (mode : DecodeMode) : (Decoder.new mode).CountsFor [] 0 :=
  ⟨.nil, List.suffix_refl _, rfl⟩

/-- Every call keeps the place in the stream, but for what it loses. -/
theorem call (h : d.CountsFor stream missed) (call : Call) :
    (d.call call).2.CountsFor (stream ++ call.bytes) (missed + d.lost call) := by
  have hcounted := h.counted
  cases call with
  | feed chunk =>
    rcases d.feed_cases chunk with hfeed | ⟨bad, -, hfeed⟩ <;>
      simp only [Decoder.call, lost, Call.bytes, hfeed]
    · have hsettles := settles_scan h.holdable chunk
      have hle := hsettles.held_suffix.length_le
      obtain ⟨counted, hstream⟩ := h.atEnd
      refine ⟨hsettles.holdable, ?_, ?_⟩
      · rw [← hstream, List.append_assoc]
        exact hsettles.held_suffix.trans (List.suffix_append _ _)
      · rw [List.length_append] at hle ⊢
        simp only [advance]
        omega
    · refine ⟨.nil, List.nil_suffix, ?_⟩
      show missed + (d.held.length + chunk.length) + d.offset + 0 = _
      rw [List.length_append]
      omega
  | finish =>
    rcases d.finish_cases with ⟨decoded, hfinish⟩ | ⟨-, hfinish⟩ <;>
      simp only [Decoder.call, lost, Call.bytes, hfinish, List.append_nil] <;>
      refine ⟨.nil, List.nil_suffix, ?_⟩ <;>
      show missed + d.held.length + d.offset + 0 = _ <;>
      omega

theorem callAll (h : d.CountsFor stream missed) (calls : List Call) :
    (d.callAll calls).CountsFor (stream ++ fed calls) (missed + d.lostAll calls) := by
  induction calls generalizing d stream missed with
  | nil => simpa [fed, lostAll, Decoder.callAll] using h
  | cons call calls ih =>
    have hcalls := ih (h.call call)
    rw [List.append_assoc, Nat.add_assoc] at hcalls
    exact hcalls

/-- A failure stands in the stream at its offset and the missed bytes. -/
theorem error (h : d.CountsFor stream missed) {call : Call} {bad : Malformed}
    (hbad : (d.call call).1 = .error bad) :
    bad.bytes <+: (stream ++ call.bytes).drop (missed + bad.offset) := by
  obtain ⟨-, ⟨place, hoffset, hprefix, -⟩, -⟩ := call_error h.holdable hbad
  obtain ⟨counted, hstream⟩ := h.atEnd
  have hlength : counted.length = missed + d.offset := by
    have hcounted := h.counted
    rw [← hstream, List.length_append] at hcounted
    omega
  have hplace : missed + bad.offset = counted.length + place := by omega
  rw [← hstream, List.append_assoc, hplace, List.drop_length_add_append]
  exact hprefix

end CountsFor

/-- **A failure stands in the stream where its offset says, counted from behind the bytes that
earlier calls lost**, whatever calls came before. Behind it stand all later failures. -/
theorem failure_stands {mode : DecodeMode} {before : List Call} {call : Call} {bad : Malformed}
    (h : (((new mode).callAll before).call call).1 = .error bad) :
    bad.bytes ≠ [] ∧
    bad.bytes <+: (fed (before ++ [call])).drop ((new mode).lostAll before + bad.offset) ∧
    ∀ between later other,
      (((new mode).callAll (before ++ call :: between)).call later).1 = .error other →
      (new mode).lostAll before + bad.offset + bad.bytes.length ≤
        (new mode).lostAll (before ++ call :: between) + other.offset := by
  have hcounts := (CountsFor.new mode).callAll before
  rw [List.nil_append, Nat.zero_add] at hcounts
  obtain ⟨hne, ⟨place, hoffset, -, hfits⟩, hstays, hlost⟩ := call_error hcounts.holdable h
  refine ⟨hne, ?_, ?_⟩
  · have hstands := hcounts.error h
    rwa [fed, List.flatMap_append, List.flatMap_singleton]
  · intro between later other hother
    have hcounts' := (CountsFor.new mode).callAll (before ++ call :: between)
    obtain ⟨-, ⟨place', hoffset', -, -⟩, -⟩ := call_error hcounts'.holdable hother
    -- What the first failure had before it is lost, and no call leads back behind that.
    have hmore := offset_le_callAll (((new mode).callAll before).call call).2 between
    have hsum : (new mode).lostAll (before ++ call :: between) = (new mode).lostAll before +
        (((new mode).callAll before).lost call +
          (((new mode).callAll before).call call).2.lostAll between) :=
      lostAll_append _ _ _
    have hlast : (new mode).callAll (before ++ call :: between) =
        (((new mode).callAll before).call call).2.callAll between :=
      callAll_append _ _ _
    rw [hlast] at hoffset'
    omega

/-- The second failure stands four bytes behind the start, of which three were lost. -/
theorem failure_stands_second :
    let before : List Call := [.feed [0x61, 0x62, 0xFF]]
    (((new .strict).callAll before).call (.feed [0x63, 0xFF])).1 = .error ⟨1, [0xFF]⟩ ∧
      (new .strict).lostAll before = 3 ∧
      [0xFF] <+: (fed (before ++ [.feed [0x63, 0xFF]])).drop (3 + 1) := by
  have h : (((new .strict).callAll [.feed [0x61, 0x62, 0xFF]]).call (.feed [0x63, 0xFF])).1 =
      .error ⟨1, [0xFF]⟩ := rfl
  exact ⟨h, by decide, (failure_stands h).2.1⟩

/-- After a failure, an offset alone is not the place of the next one, and need not be greater. -/
theorem second_failure_counts_short :
    let first : Call := .feed [0x61, 0x62, 0xFF]
    let second : Call := .feed [0x63, 0xFF]
    ((new .strict).call first).1 = .error ⟨2, [0xFF]⟩ ∧
      (((new .strict).callAll [first]).call second).1 = .error ⟨1, [0xFF]⟩ ∧
      ¬ [0xFF] <+: (fed [first, second]).drop 1 ∧ ¬ 2 < 1 :=
  ⟨rfl, rfl, by decide, by decide⟩

end LinkProbe.Decoder
