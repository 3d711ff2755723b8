import LinkProbe.Proofs.Decoder.Agreement
import LinkProbe.Proofs.Decoder.Checks
import LinkProbe.Proofs.Decoder.Offsets

/-!
# Decoding in rounds

A chunk can also be decoded without a scanner. What is held and the chunk are put into one buffer,
and the rest of it is checked for a text again and again, behind every bad piece, until nothing more
can be settled.

* `round`, `Rounds`: one look at the rest of the buffer, and looks up to the end.
* `FeedsBy`: a chunk that is decoded in this way; `feedsBy_iff`: the looks come to an end, take
  nothing from beyond the buffer, and bring what `Decoder.feed` brings.
* `replaced_of_feedAll`: all that is fed is decoded, but for what is held.
* `holds_back_least`: a decoder never holds more than the beginning of one character.
-/

namespace LinkProbe.Decoder

open Utf8
open String (utf8EncodeChar)

/-! ## Rounds -/

/-- The bytes from one place to the other, if both are in bounds. -/
def within? (bytes : List UInt8) (first last : Nat) : Option (List UInt8) :=
  if first ≤ last ∧ last ≤ bytes.length then some (bytes.extract first last) else none

/-- What a look at the rest of a buffer comes to. -/
inductive Round where
  /-- A bad piece is replaced, and there may be more. -/
  | again (decoded : Decoded) (consumed : Nat)
  /-- Nothing more can be settled. -/
  | ended (decoded : Decoded) (consumed : Nat)
  | refused (bad : Malformed)
deriving DecidableEq, Repr

/-- Looks at the rest of the buffer, if that and all that is taken out of it is in bounds. -/
def round (d : Decoder) (buffer : List UInt8) (decoded : Decoded) (consumed : Nat) :
    Option Round := do
  let rest ← within? buffer consumed buffer.length
  match verdict rest with
  | .whole text => return .ended ⟨decoded.text ++ text, decoded.replacements⟩ buffer.length
  | .stops upTo bad? =>
    let text := decoded.text ++ (shownText (divide (← within? rest 0 upTo))).text
    match bad?, d.mode with
    | none, _ => return .ended ⟨text, decoded.replacements⟩ (consumed + upTo)
    | some length, .strict =>
      return .refused ⟨d.offset + (consumed + upTo), ← within? rest upTo (upTo + length)⟩
    | some length, .lossy =>
      return .again ⟨text.push '\uFFFD', decoded.replacements + 1⟩ (consumed + (upTo + length))

/-- Looks at the rest of the buffer until nothing more can be settled. -/
inductive Rounds (d : Decoder) (buffer : List UInt8) :
    Decoded → Nat → Except Malformed (Decoded × Nat) → Prop where
  | ended {decoded decoded' : Decoded} {consumed consumed' : Nat}
      (h : d.round buffer decoded consumed = some (.ended decoded' consumed')) :
      Rounds d buffer decoded consumed (.ok (decoded', consumed'))
  | refused {decoded : Decoded} {consumed : Nat} {bad : Malformed}
      (h : d.round buffer decoded consumed = some (.refused bad)) :
      Rounds d buffer decoded consumed (.error bad)
  | again {decoded decoded' : Decoded} {consumed consumed' : Nat}
      {result : Except Malformed (Decoded × Nat)}
      (h : d.round buffer decoded consumed = some (.again decoded' consumed'))
      (hnext : Rounds d buffer decoded' consumed' result) :
      Rounds d buffer decoded consumed result

/-- A chunk is decoded in rounds over what is held and the chunk. What is settled is then taken out
of the buffer, if it is in bounds. -/
inductive FeedsBy (d : Decoder) (chunk : List UInt8) : Except Malformed Decoded × Decoder → Prop
  | ended {decoded : Decoded} {consumed : Nat} {held : List UInt8}
      (hrounds : d.Rounds (d.held ++ chunk) ⟨"", 0⟩ 0 (.ok (decoded, consumed)))
      (hdrain : within? (d.held ++ chunk) consumed (d.held ++ chunk).length = some held) :
      FeedsBy d chunk (.ok decoded, { d with held := held, offset := d.offset + consumed })
  | refused {bad : Malformed}
      (hrounds : d.Rounds (d.held ++ chunk) ⟨"", 0⟩ 0 (.error bad)) :
      FeedsBy d chunk (.error bad, { d with held := [] })

variable {d : Decoder} {buffer rest held before : List UInt8} {pieces : List Piece}
  {decoded : Decoded} {consumed : Nat}

theorem within?_inner (before inner rest : List UInt8) :
    within? (before ++ (inner ++ rest)) before.length (before.length + inner.length) =
      some inner := by
  rw [within?, if_pos (by simp), List.extract_eq_take_drop]
  simp

theorem within?_rest (before rest : List UInt8) :
    within? (before ++ rest) before.length (before ++ rest).length = some rest := by
  simpa using within?_inner before rest []

theorem within?_front (first rest : List UInt8) :
    within? (first ++ rest) 0 first.length = some first := by
  simpa using within?_inner [] first rest

theorem text_chars (chars : List Char) :
    (shownText (divide (chars.flatMap utf8EncodeChar))).text = .ofList chars := by
  rw [← division_iff.mp (Division.chars chars)]
  show String.ofList ((chars.map .char).map Piece.shown) = _
  rw [List.map_map]
  exact congrArg String.ofList (List.map_id chars)

/-- A look at characters behind which a character may begin is the last one. -/
theorem round_rest (d : Decoder) (before : List UInt8) (chars : List Char) (hheld : Holdable held)
    (decoded : Decoded) :
    d.round (before ++ (chars.flatMap utf8EncodeChar ++ held)) decoded before.length =
      some (.ended ⟨decoded.text ++ .ofList chars, decoded.replacements⟩
        (before.length + (chars.flatMap utf8EncodeChar).length)) := by
  rw [round, within?_rest, Option.bind_eq_bind, Option.bind_some]
  rcases hheld with rfl | hbegins
  · rw [List.append_nil, verdict_chars, List.length_append]
    rfl
  · rw [verdict_cut chars hbegins]
    simp only [within?_front, text_chars, Option.bind_some]
    rfl

/-- A look at characters behind which a bad piece stands finds it. -/
theorem round_bad (d : Decoder) (before : List UInt8) (chars : List Char) {bad bytes : List UInt8}
    (hsub : Subpart bad (bad ++ bytes)) (hext : ¬ Extendable (bad ++ bytes))
    (h : Settles bytes pieces held) (decoded : Decoded) :
    d.round (before ++ (chars.flatMap utf8EncodeChar ++ (bad ++ bytes))) decoded before.length =
      some (match d.mode with
        | .strict =>
          .refused ⟨d.offset + (before.length + (chars.flatMap utf8EncodeChar).length), bad⟩
        | .lossy =>
          .again ⟨(decoded.text ++ .ofList chars).push '\uFFFD', decoded.replacements + 1⟩
            (before.length + ((chars.flatMap utf8EncodeChar).length + bad.length))) := by
  rw [round, within?_rest, Option.bind_eq_bind, Option.bind_some, verdict_bad chars hsub hext h]
  simp only [within?_front, text_chars, Option.bind_some]
  cases d.mode with
  | strict =>
    simp only [within?_inner, Option.bind_some]
    rfl
  | lossy => rfl

/-- Characters are shown as they are, and a bad piece behind them as one character. -/
theorem shownText_stretch (chars : List Char) (bad : List UInt8) (pieces : List Piece)
    (decoded : Decoded) :
    (⟨decoded.text ++ (shownText (chars.map .char ++ .bad bad :: pieces)).text,
        decoded.replacements + (shownText (chars.map .char ++ .bad bad :: pieces)).replacements⟩ :
      Decoded) =
      ⟨(decoded.text ++ .ofList chars).push '\uFFFD' ++ (shownText pieces).text,
        decoded.replacements + 1 + (shownText pieces).replacements⟩ := by
  rw [Decoded.mk.injEq]
  constructor
  · apply String.toList_inj.mp
    simp [shownText, Piece.shown, Function.comp_def]
  · simp [shownText, Piece.isBad, Function.comp_def, List.countP_cons]
    omega

/-- Without a bad piece to refuse, the rounds settle all that can be settled. -/
theorem rounds_ok (h : Stretches rest pieces held)
    (hchars : d.mode = .strict → ∀ piece ∈ pieces, piece.isBad = false) (before : List UInt8)
    (decoded : Decoded) :
    d.Rounds (before ++ rest) decoded before.length
      (.ok (⟨decoded.text ++ (shownText pieces).text,
          decoded.replacements + (shownText pieces).replacements⟩,
        (before ++ rest).length - held.length)) := by
  -- One round for each stretch: a bad piece leads to the next one, the last ends the rounds.
  induction h generalizing before decoded with
  | @rest chars held hheld =>
    have hshown : shownText (chars.map .char) = ⟨.ofList chars, 0⟩ := by
      simp [shownText, Piece.shown, Piece.isBad, Function.comp_def]
    have hlength : (before ++ (chars.flatMap utf8EncodeChar ++ held)).length - held.length =
        before.length + (chars.flatMap utf8EncodeChar).length := by
      simp only [List.length_append]
      omega
    rw [hshown, hlength]
    exact .ended (d.round_rest before chars hheld decoded)
  | @bad chars bad bytes held pieces hsub hext h ih =>
    cases hmode : d.mode with
    | strict => simpa [Piece.isBad] using hchars hmode (.bad bad) (by simp)
    | lossy =>
      have hround := d.round_bad before chars hsub hext h.settles decoded
      rw [hmode] at hround
      have hnext := ih (fun hstrict => by rw [hmode] at hstrict; cases hstrict)
        (before ++ (chars.flatMap utf8EncodeChar ++ bad))
        ⟨(decoded.text ++ .ofList chars).push '\uFFFD', decoded.replacements + 1⟩
      rw [shownText_stretch]
      simp only [List.append_assoc, List.length_append] at hround hnext ⊢
      exact .again hround hnext

/-- A strict decoder refuses the first bad piece in its first round. -/
theorem rounds_refused (h : Stretches rest pieces held) (hmode : d.mode = .strict)
    {bad : Malformed} (hbad : firstBad? d.offset pieces = some bad) (decoded : Decoded) :
    d.Rounds rest decoded 0 (.error bad) := by
  cases h with
  | rest chars _ =>
    rw [firstBad?_eq_none_iff.mpr (by simp [Piece.isBad])] at hbad
    cases hbad
  | bad chars hsub hext h =>
    have hround := d.round_bad [] chars hsub hext h.settles decoded
    rw [firstBad?_chars, firstBad?, Option.some.injEq] at hbad
    rw [hmode, List.nil_append, List.length_nil, Nat.zero_add, hbad] at hround
    exact .refused hround

/-- A round has one outcome, so the rounds have. -/
theorem Rounds.unique {result other : Except Malformed (Decoded × Nat)}
    (h : d.Rounds buffer decoded consumed result) (h' : d.Rounds buffer decoded consumed other) :
    result = other := by
  induction h with
  | ended hround =>
    cases h' with
    | ended hround' => cases hround.symm.trans hround'; rfl
    | refused hround' | again hround' _ => cases hround.symm.trans hround'
  | refused hround =>
    cases h' with
    | refused hround' => cases hround.symm.trans hround'; rfl
    | ended hround' | again hround' _ => cases hround.symm.trans hround'
  | again hround _ ih =>
    cases h' with
    | again hround' hnext =>
      cases hround.symm.trans hround'
      exact ih hnext
    | ended hround' | refused hround' => cases hround.symm.trans hround'

theorem FeedsBy.unique {chunk : List UInt8} {reply other : Except Malformed Decoded × Decoder}
    (h : d.FeedsBy chunk reply) (h' : d.FeedsBy chunk other) : reply = other := by
  cases h with
  | ended hrounds hdrain =>
    cases h' with
    | ended hrounds' hdrain' =>
      cases hrounds.unique hrounds'
      cases hdrain.symm.trans hdrain'
      rfl
    | refused hrounds' => cases hrounds.unique hrounds'
  | refused hrounds =>
    cases h' with
    | ended hrounds' _ => cases hrounds.unique hrounds'
    | refused hrounds' =>
      cases hrounds.unique hrounds'
      rfl

/-- What can be settled without refusing a bad piece is taken out of the buffer. -/
theorem feedsBy_ok (hheld : Holdable d.held) (chunk : List UInt8)
    (hchars : d.mode = .strict → ∀ piece ∈ (scan d.held chunk).pieces.toList, piece.isBad = false) :
    d.FeedsBy chunk (.ok (shownText (scan d.held chunk).pieces.toList),
      d.advance chunk (scan d.held chunk).held) := by
  have hsettles := settles_scan hheld chunk
  have hrounds := rounds_ok hsettles.stretches hchars [] ⟨"", 0⟩
  obtain ⟨settled, hbuffer, -⟩ := hsettles.divides
  have hconsumed : (d.held ++ chunk).length - (scan d.held chunk).held.length = settled.length := by
    rw [hbuffer, List.length_append, Nat.add_sub_cancel]
  have hdrain : within? (d.held ++ chunk) settled.length (d.held ++ chunk).length =
      some (scan d.held chunk).held := by
    rw [hbuffer]
    exact within?_rest settled _
  have hadvance : d.advance chunk (scan d.held chunk).held =
      { d with held := (scan d.held chunk).held, offset := d.offset + settled.length } := by
    rw [advance, ← hconsumed, List.length_append]
  simp only [List.nil_append, List.length_nil, String.empty_append, Nat.zero_add, hconsumed]
    at hrounds
  rw [hadvance]
  exact .ended hrounds hdrain

/-- **The rounds over a chunk come to an end, with all that they take out of the buffer in bounds**,
and bring what the scanner brings. -/
theorem feedsBy_iff (hheld : Holdable d.held) {chunk : List UInt8}
    {reply : Except Malformed Decoded × Decoder} :
    d.FeedsBy chunk reply ↔ reply = d.feed chunk := by
  -- That the rounds bring this is enough, for they have no second outcome.
  have hfeeds : d.FeedsBy chunk (d.feed chunk) := by
    cases hmode : d.mode with
    | lossy =>
      have hfeed := feedsBy_ok hheld chunk fun hstrict => by
        rw [hmode] at hstrict
        cases hstrict
      rw [feed, hmode]
      exact hfeed
    | strict =>
      cases hbad : firstBad? d.offset (scan d.held chunk).pieces.toList with
      | none =>
        have hfeed := feedsBy_ok hheld chunk fun _ => firstBad?_eq_none_iff.mp hbad
        simp only [feed, hmode, hbad]
        exact hfeed
      | some bad =>
        have hfeed : d.feed chunk = (.error bad, { d with held := [] }) := by
          simp only [feed, hmode, hbad]
        rw [hfeed]
        exact .refused (rounds_refused (settles_scan hheld chunk).stretches hmode hbad _)
  exact ⟨fun h => h.unique hfeeds, fun h => h ▸ hfeeds⟩

/-! ## What is held back -/

/-- A call that fails leaves nothing held. -/
theorem held_of_error {call : Call} {bad : Malformed} (h : (d.call call).1 = .error bad) :
    (d.call call).2.held = [] := by
  cases call with
  | feed chunk =>
    rcases d.feed_cases chunk with hfeed | ⟨_, -, hfeed⟩ <;> rw [call, hfeed] at h ⊢
    cases h
  | finish => exact d.held_finish

/-- Chunks that are all decoded are fed by calls of which none fails. -/
theorem callAll_feed {d : Decoder} {chunks : List (List UInt8)}
    (h : (d.feedAll chunks).failure = none) :
    d.callAll (chunks.map .feed) = (d.feedAll chunks).decoder := by
  induction chunks generalizing d with
  | nil => rfl
  | cons chunk chunks ih =>
    show (d.feed chunk).2.callAll (chunks.map .feed) = _
    simp only [feedAll] at h ⊢
    split at h
    · cases h
    · next hfeed => rw [hfeed, ih h]

/-- Calls that do not fail settle all that is fed but what is held at the end. -/
theorem replaced_of_feedAll {mode : DecodeMode} {chunks : List (List UInt8)}
    (h : ((new mode).feedAll chunks).failure = none) :
    ∃ settled, chunks.flatten = settled ++ ((new mode).feedAll chunks).decoder.held ∧
      Replaced settled (joined ((new mode).feedAll chunks).decoded) := by
  have hextendable (hstrict : mode = .strict) : Extendable chunks.flatten := by
    subst hstrict
    refine Classical.byContradiction fun hnot => ?_
    obtain ⟨bad, hfails⟩ := exists_failsInside_iff.mpr hnot
    rw [hfails.failure_feedAll] at h
    cases h
  obtain ⟨settled, hflatten, hdivision⟩ := (settles_scan .nil chunks.flatten).divides
  rw [feedAll_new hextendable]
  exact ⟨settled, hflatten, _, hdivision, joined_shown [] chunks⟩

/-- **A decoder holds nothing or the beginning of a character, so three bytes at most**, whatever
was called before, and nothing after the end of the stream or a failure. What it has not decoded of
a stream without a failure is just what it holds. A chunk can be decoded in rounds over a buffer,
which come to an end within its bounds. -/
theorem holds_back_least (mode : DecodeMode) (calls : List Call) :
    let d := (new mode).callAll calls
    (d.held = [] ∨ Begins d.held) ∧ d.held.length ≤ 3 ∧
    (d.call .finish).2.held = [] ∧
    (∀ call bad, (d.call call).1 = .error bad → (d.call call).2.held = []) ∧
    (∀ chunk reply, d.FeedsBy chunk reply ↔ d.call (.feed chunk) = reply) ∧
    ∀ chunks, ((new mode).feedAll chunks).failure = none →
      let replies := (new mode).feedAll chunks
      replies.decoder = (new mode).callAll (chunks.map .feed) ∧
      ∃ settled, chunks.flatten = settled ++ replies.decoder.held ∧
        Replaced settled (joined replies.decoded) := by
  intro d
  have hheld : Holdable d.held := ((CountsFor.new mode).callAll calls).holdable
  refine ⟨hheld, ?_, d.held_finish, fun call bad => held_of_error,
    fun chunk reply => (feedsBy_iff hheld).trans eq_comm,
    fun chunks h => ⟨(callAll_feed h).symm, replaced_of_feedAll h⟩⟩
  rcases hheld with hnil | hbegins
  · rw [hnil]
    exact Nat.zero_le 3
  · exact hbegins.length_le

/-- Two bytes of a euro sign are held back, and a byte that cannot go on with them fails. -/
theorem holds_back_least_euro :
    let d := (new .strict).callAll [.feed [0xFF], .feed [0x61, 0xE2, 0x82]]
    d.held = [0xE2, 0x82] ∧ d.held.length ≤ 3 ∧
      (d.call (.feed [0x62])).1 = .error ⟨1, [0xE2, 0x82]⟩ ∧ (d.call (.feed [0x62])).2.held = [] ∧
      ((new .strict).feedAll [[0x61, 0xE2], [0x82]]).failure = none ∧
      ∃ settled, [0x61, 0xE2, 0x82] = settled ++ [0xE2, 0x82] ∧ Replaced settled ⟨"a", 0⟩ := by
  intro d
  obtain ⟨-, hlength, -, hfailed, -, hdecoded⟩ :=
    holds_back_least .strict [.feed [0xFF], .feed [0x61, 0xE2, 0x82]]
  have hfail : (d.call (.feed [0x62])).1 = .error ⟨1, [0xE2, 0x82]⟩ := rfl
  exact ⟨rfl, hlength, hfail, hfailed _ _ hfail, rfl, (hdecoded [[0x61, 0xE2], [0x82]] rfl).2⟩

end LinkProbe.Decoder
