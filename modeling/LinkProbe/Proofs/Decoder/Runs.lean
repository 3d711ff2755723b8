import Mathlib.Algebra.GroupWithZero.Nat
import LinkProbe.Proofs.Decoder.Reference

/-!
# Decoding chunk by chunk

A decoder is fed the chunks of a stream one after the other and then told of the end. Where the
chunks are cut makes no difference to what it says about the whole stream.

* `after`: the decoder after bytes, computed from the bytes alone. Every call that does not fail
  leads from one such decoder to another (`feed_after`).
* `feedAll`, `decodeAll`: the calls up to the first that fails.
* `lossy_decodeAll`: a lossy decoder shows the stream with its bad pieces replaced.
* `strict_decodeAll`: a strict one shows a stream that encodes a text as it is, and otherwise fails
  with the first bad piece, in the call that makes it certain.
-/

namespace LinkProbe.Decoder

open Utf8
open String (utf8EncodeChar)

/-! ## Calls -/

/-- What the calls of a decoder bring up to the first that fails. -/
structure Replies where
  /-- What the calls that do not fail return, in order. -/
  decoded : List Decoded
  /-- How the last call fails, if it does. -/
  failure : Option Malformed
  /-- The decoder after the last call. -/
  decoder : Decoder

/-- Feeds the chunks in order. -/
def feedAll (d : Decoder) : List (List UInt8) → Replies
  | [] => ⟨[], none, d⟩
  | chunk :: chunks =>
    match d.feed chunk with
    | (.error bad, d) => ⟨[], some bad, d⟩
    | (.ok decoded, d) =>
      let rest := d.feedAll chunks
      { rest with decoded := decoded :: rest.decoded }

/-- Feeds the chunks in order and ends the stream. -/
def decodeAll (d : Decoder) (chunks : List (List UInt8)) : Replies :=
  let fed := d.feedAll chunks
  match fed.failure with
  | some _ => fed
  | none =>
    match fed.decoder.finish with
    | (.error bad, d) => ⟨fed.decoded, some bad, d⟩
    | (.ok decoded, d) => ⟨fed.decoded ++ [decoded], none, d⟩

/-- The texts as one, and all replacements together. -/
def joined (decoded : List Decoded) : Decoded :=
  ⟨.join (decoded.map Decoded.text), (decoded.map Decoded.replacements).sum⟩

/-- The decoder after bytes of which no call has failed. -/
def after (mode : DecodeMode) (bytes : List UInt8) : Decoder :=
  ⟨mode, (scan [] bytes).held, bytes.length - (scan [] bytes).held.length⟩

/-- What is shown for each of the chunks, where `held` is held before the first. -/
def shown (held : List UInt8) : List (List UInt8) → List Decoded
  | [] => []
  | chunk :: chunks =>
    shownText (scan held chunk).pieces.toList :: shown (scan held chunk).held chunks

/-! ## What is shown -/

theorem joined_append (first second : List Decoded) : joined (first ++ second) =
    ⟨(joined first).text ++ (joined second).text,
      (joined first).replacements + (joined second).replacements⟩ := by
  simp [joined, String.join_append]

theorem shownText_append (first second : List Piece) : shownText (first ++ second) =
    ⟨(shownText first).text ++ (shownText second).text,
      (shownText first).replacements + (shownText second).replacements⟩ := by
  simp [shownText, String.ofList_append]

/-- However the bytes are cut into chunks, the same is shown. -/
theorem joined_shown (held : List UInt8) (chunks : List (List UInt8)) :
    joined (shown held chunks) = shownText (scan held chunks.flatten).pieces.toList := by
  induction chunks generalizing held with
  | nil => rfl
  | cons chunk chunks ih =>
    have hcons (decoded : Decoded) (rest : List Decoded) :
        joined (decoded :: rest) = ⟨decoded.text ++ (joined rest).text,
          decoded.replacements + (joined rest).replacements⟩ := by
      simp [joined]
    rw [shown, hcons, ih, List.flatten_cons, scan_append, Array.toList_append, shownText_append]

theorem length_shown (held : List UInt8) (chunks : List (List UInt8)) :
    (shown held chunks).length = chunks.length := by
  induction chunks generalizing held with
  | nil => rfl
  | cons chunk chunks ih => rw [shown, List.length_cons, ih, List.length_cons]

/-! ## Feeding -/

theorem holdable_scan (bytes : List UInt8) : Holdable (scan [] bytes).held :=
  (settles_scan .nil bytes).holdable

theorem length_held_le (bytes : List UInt8) : (scan [] bytes).held.length ≤ bytes.length :=
  (settles_scan .nil bytes).held_suffix.length_le

theorem extendable_iff_scan {bytes : List UInt8} : Extendable bytes ↔
    ∀ piece ∈ (scan [] bytes).pieces.toList, piece.isBad = false :=
  (settles_scan .nil bytes).extendable_iff

theorem advance_after (mode : DecodeMode) (bytes chunk : List UInt8) :
    (after mode bytes).advance chunk (scan (scan [] bytes).held chunk).held =
      after mode (bytes ++ chunk) := by
  have hheld : (scan (scan [] bytes).held chunk).held = (scan [] (bytes ++ chunk)).held := by
    rw [scan_append]
  have hle := length_held_le bytes
  have hle' := length_held_le (bytes ++ chunk)
  have hle'' := (settles_scan (holdable_scan bytes) chunk).held_suffix.length_le
  rw [hheld, List.length_append] at hle''
  rw [List.length_append] at hle'
  simp only [advance, after, hheld, Decoder.mk.injEq, List.length_append, true_and]
  omega

theorem firstBad?_chars (chars : List Char) (offset : Nat) (pieces : List Piece) :
    firstBad? offset (chars.map .char ++ pieces) =
      firstBad? (offset + (chars.flatMap utf8EncodeChar).length) pieces := by
  induction chars generalizing offset with
  | nil => rfl
  | cons c chars ih =>
    rw [List.map_cons, List.cons_append, firstBad?, ih, List.flatMap_cons, List.length_append,
      String.length_utf8EncodeChar, Nat.add_assoc]

/-- Where no bad piece is settled yet, pieces that come later stand after the held bytes. -/
theorem firstBad?_scan {bytes : List UInt8} (h : Extendable bytes) (pieces : List Piece) :
    firstBad? 0 ((scan [] bytes).pieces.toList ++ pieces) =
      firstBad? (bytes.length - (scan [] bytes).held.length) pieces := by
  obtain ⟨chars, hpieces, hbytes⟩ :=
    (settles_scan .nil bytes).eq_chars (extendable_iff_scan.mp h)
  have hlen := congrArg List.length hbytes
  rw [List.nil_append, List.length_append] at hlen
  rw [hpieces, firstBad?_chars]
  congr 1
  omega

theorem firstBad?_append {offset : Nat} {pieces more : List Piece} {bad : Malformed}
    (h : firstBad? offset pieces = some bad) : firstBad? offset (pieces ++ more) = some bad := by
  induction pieces generalizing offset with
  | nil => cases h
  | cons piece pieces ih =>
    cases piece with
    | bad bytes => exact h
    | char c => exact ih h

/-- A call that has no bad piece to refuse. -/
theorem feed_after {mode : DecodeMode} {bytes chunk : List UInt8}
    (h : mode = .strict → Extendable (bytes ++ chunk)) :
    (after mode bytes).feed chunk =
      (.ok (shownText (scan (scan [] bytes).held chunk).pieces.toList),
        after mode (bytes ++ chunk)) := by
  have hadvance := advance_after mode bytes chunk
  cases mode with
  | lossy => rw [← hadvance]; rfl
  | strict =>
    have hchars := extendable_iff_scan.mp (h rfl)
    rw [scan_append, Array.toList_append] at hchars
    have hnone : firstBad? (after .strict bytes).offset
        (scan (scan [] bytes).held chunk).pieces.toList = none :=
      firstBad?_eq_none_iff.mpr fun piece hp => hchars piece (List.mem_append_right _ hp)
    rw [← hadvance]
    simp only [feed, after] at hnone ⊢
    rw [hnone]
    rfl

/-- A call that has: the piece is the first bad one of the whole stream. -/
theorem feed_after_broken {bytes chunk more : List UInt8} (h : Extendable bytes)
    (hbroken : ¬ Extendable (bytes ++ chunk)) :
    ∃ bad, BrokenAt (bytes ++ chunk ++ more) bad ∧
      (after .strict bytes).feed chunk = (.error bad, { after .strict bytes with held := [] }) := by
  cases hbad : firstBad? 0 (scan [] (bytes ++ chunk)).pieces.toList with
  | none => exact absurd (extendable_iff_scan.mpr (firstBad?_eq_none_iff.mp hbad)) hbroken
  | some bad =>
    refine ⟨bad, brokenAt_iff.mpr ?_, ?_⟩
    · rw [divide, scan_append [] (bytes ++ chunk) more, Array.toList_append, List.append_assoc]
      exact firstBad?_append hbad
    · rw [scan_append, Array.toList_append, firstBad?_scan h] at hbad
      simp only [feed, after] at hbad ⊢
      rw [hbad]

theorem feedAll_after {mode : DecodeMode} {bytes : List UInt8} {chunks : List (List UInt8)}
    (h : mode = .strict → Extendable (bytes ++ chunks.flatten)) :
    (after mode bytes).feedAll chunks =
      ⟨shown (scan [] bytes).held chunks, none, after mode (bytes ++ chunks.flatten)⟩ := by
  induction chunks generalizing bytes with
  | nil => simp [feedAll, shown]
  | cons chunk chunks ih =>
    simp only [List.flatten_cons, ← List.append_assoc] at h ⊢
    have hfeed := feed_after fun hm => (h hm).of_append
    have hheld : (scan (scan [] bytes).held chunk).held = (scan [] (bytes ++ chunk)).held := by
      rw [scan_append]
    simp only [feedAll, hfeed, ih h, shown, hheld]

theorem feedAll_new {mode : DecodeMode} {chunks : List (List UInt8)}
    (h : mode = .strict → Extendable chunks.flatten) :
    (new mode).feedAll chunks = ⟨shown [] chunks, none, after mode chunks.flatten⟩ :=
  @feedAll_after mode [] chunks h

/-- Chunks that are fed without a failure do not matter to what the next ones bring. -/
theorem feedAll_append {d : Decoder} {first second : List (List UInt8)}
    (h : (d.feedAll first).failure = none) : d.feedAll (first ++ second) =
      { (d.feedAll first).decoder.feedAll second with
        decoded := (d.feedAll first).decoded ++
          ((d.feedAll first).decoder.feedAll second).decoded } := by
  induction first generalizing d with
  | nil => rfl
  | cons chunk first ih =>
    simp only [List.cons_append, feedAll] at h ⊢
    split at h
    · cases h
    · rw [ih h]
      rfl

/-- Chunks behind one that fails are not fed. -/
theorem feedAll_of_error {d d' : Decoder} {before : List (List UInt8)} {chunk : List UInt8}
    {bad : Malformed} (h : (d.feedAll before).failure = none)
    (hfeed : (d.feedAll before).decoder.feed chunk = (.error bad, d')) (after : List (List UInt8)) :
    d.feedAll (before ++ chunk :: after) = ⟨(d.feedAll before).decoded, some bad, d'⟩ := by
  rw [feedAll_append h, feedAll, hfeed]
  simp only [List.append_nil]

/-! ## The end of the stream -/

theorem finish_after_lossy (bytes : List UInt8) : (after .lossy bytes).finish =
    (.ok (shownText (unfinished (scan [] bytes).held)),
      { after .lossy bytes with held := [] }) := by
  unfold finish unfinished
  cases h : (scan [] bytes).held.isEmpty
  · simp only [after, h]
    rfl
  · simp only [after, h]
    rfl

/-- A strict decoder that has not failed yet fails at the end if bytes are held. -/
theorem finish_after_strict {bytes : List UInt8} (h : Extendable bytes) :
    ((scan [] bytes).held = [] ∧
      (after .strict bytes).finish = (.ok ⟨"", 0⟩, { after .strict bytes with held := [] })) ∨
    ∃ bad, BrokenAt bytes bad ∧
      (after .strict bytes).finish = (.error bad, { after .strict bytes with held := [] }) := by
  by_cases hheld : (scan [] bytes).held = []
  · exact .inl ⟨hheld, by simp [finish, after, hheld]⟩
  · right
    refine ⟨⟨bytes.length - (scan [] bytes).held.length, (scan [] bytes).held⟩, ?_, ?_⟩
    · rw [brokenAt_iff, divide, firstBad?_scan h]
      simp [unfinished, hheld, firstBad?]
    · simp [finish, after, hheld]

/-- All calls, when those before the last have not failed. -/
theorem decodeAll_of_finish {d d' : Decoder} {chunks : List (List UInt8)} {decoded : Decoded}
    (h : (d.feedAll chunks).failure = none)
    (hfinish : (d.feedAll chunks).decoder.finish = (.ok decoded, d')) :
    d.decodeAll chunks = ⟨(d.feedAll chunks).decoded ++ [decoded], none, d'⟩ := by
  rw [decodeAll, h, hfinish]

/-- All calls, when the last one fails and none before it. -/
theorem decodeAll_of_finish_error {d d' : Decoder} {chunks : List (List UInt8)} {bad : Malformed}
    (h : (d.feedAll chunks).failure = none)
    (hfinish : (d.feedAll chunks).decoder.finish = (.error bad, d')) :
    d.decodeAll chunks = ⟨(d.feedAll chunks).decoded, some bad, d'⟩ := by
  rw [decodeAll, h, hfinish]

/-- All calls, when one that feeds a chunk fails and none before it: it is the last one. -/
theorem decodeAll_of_feed_error {d d' : Decoder} {before : List (List UInt8)} {chunk : List UInt8}
    {bad : Malformed} (h : (d.feedAll before).failure = none)
    (hfeed : (d.feedAll before).decoder.feed chunk = (.error bad, d')) (after : List (List UInt8)) :
    d.decodeAll (before ++ chunk :: after) = ⟨(d.feedAll before).decoded, some bad, d'⟩ := by
  rw [decodeAll, feedAll_of_error h hfeed]

/-! ## Lossy streams -/

/-- A lossy decoder that has been fed bytes before goes on with them. -/
theorem feedAll_after_lossy (bytes : List UInt8) (chunks : List (List UInt8)) :
    (after .lossy bytes).feedAll chunks =
      ⟨shown (scan [] bytes).held chunks, none, after .lossy (bytes ++ chunks.flatten)⟩ :=
  feedAll_after fun hstrict => by cases hstrict

theorem decodeAll_after_lossy (bytes : List UInt8) (chunks : List (List UInt8)) :
    (after .lossy bytes).decodeAll chunks =
      ⟨shown (scan [] bytes).held chunks ++
          [shownText (unfinished (scan [] (bytes ++ chunks.flatten)).held)], none,
        { after .lossy (bytes ++ chunks.flatten) with held := [] }⟩ := by
  have hfed := feedAll_after_lossy bytes chunks
  rw [decodeAll_of_finish (by rw [hfed]) (by rw [hfed]; exact finish_after_lossy _), hfed]

/-- What it has shown before and what it shows then belong together. -/
theorem shownText_scan_append (bytes : List UInt8) (chunks : List (List UInt8)) :
    shownText (scan [] (bytes ++ chunks.flatten)).pieces.toList =
      ⟨(shownText (scan [] bytes).pieces.toList).text ++
          (joined (shown (scan [] bytes).held chunks)).text,
        (shownText (scan [] bytes).pieces.toList).replacements +
          (joined (shown (scan [] bytes).held chunks)).replacements⟩ := by
  rw [scan_append, Array.toList_append, shownText_append, joined_shown]

theorem decodeAll_lossy (chunks : List (List UInt8)) : (new .lossy).decodeAll chunks =
    ⟨shown [] chunks ++ [shownText (unfinished (scan [] chunks.flatten).held)], none,
      { after .lossy chunks.flatten with held := [] }⟩ :=
  decodeAll_after_lossy [] chunks

theorem joined_decodeAll_lossy (chunks : List (List UInt8)) :
    joined ((new .lossy).decodeAll chunks).decoded = shownText (divide chunks.flatten) := by
  have hlast (decoded : Decoded) : joined [decoded] = decoded := by simp [joined]
  rw [decodeAll_lossy, joined_append, joined_shown, hlast, divide, shownText_append]

/-- **A lossy decoder shows the stream with its bad pieces replaced, wherever it is cut.** No call
fails and nothing is held at the end. -/
theorem lossy_decodeAll (chunks : List (List UInt8)) :
    ∃ replies, (new .lossy).decodeAll chunks = replies ∧
      replies.failure = none ∧ replies.decoded.length = chunks.length + 1 ∧
      (∀ whole, Replaced chunks.flatten whole ↔ whole = joined replies.decoded) ∧
      replies.decoder.held = [] := by
  refine ⟨_, decodeAll_lossy chunks, rfl, ?_, fun whole => ?_, rfl⟩
  · rw [List.length_append, length_shown, List.length_singleton]
  · rw [replaced_iff, ← joined_decodeAll_lossy, decodeAll_lossy]

/-! ## Strict streams -/

/-- What is shown while no bad piece is settled: the bytes but for the held ones. -/
theorem bytesOf_shown {chunks : List (List UInt8)} (h : Extendable chunks.flatten) :
    bytesOf (joined (shown [] chunks)).text ++ (scan [] chunks.flatten).held = chunks.flatten := by
  obtain ⟨chars, hpieces, hbytes⟩ :=
    (settles_scan .nil chunks.flatten).eq_chars (extendable_iff_scan.mp h)
  have htext : (joined (shown [] chunks)).text = .ofList chars := by
    rw [joined_shown, hpieces]
    simp [shownText, Piece.shown, Function.comp_def]
  rw [htext, bytesOf_ofList]
  exact hbytes.symm

theorem replacements_shown {chunks : List (List UInt8)} (h : Extendable chunks.flatten)
    {decoded : Decoded} (hd : decoded ∈ shown [] chunks) : decoded.replacements = 0 := by
  have hsum : ((shown [] chunks).map Decoded.replacements).sum = 0 := by
    have := congrArg Decoded.replacements (joined_shown [] chunks)
    simp only [joined, shownText] at this
    rw [this, List.countP_eq_zero]
    intro piece hp
    simp [extendable_iff_scan.mp h piece hp]
  exact List.sum_eq_zero_iff_forall_eq_nat.mp hsum _ (List.mem_map_of_mem hd)

/-- The first chunk after which it is certain that the stream encodes no text. -/
theorem exists_breaking {chunks : List (List UInt8)} (h : ¬ Extendable chunks.flatten) :
    ∃ n < chunks.length, Extendable (chunks.take n).flatten ∧
      ¬ Extendable (chunks.take (n + 1)).flatten := by
  have hupto (k : Nat) (hk : ¬ Extendable (chunks.take k).flatten) :
      ∃ n < k, Extendable (chunks.take n).flatten ∧
        ¬ Extendable (chunks.take (n + 1)).flatten := by
    induction k with
    | zero => exact absurd wellFormed_nil.extendable hk
    | succ k ih =>
      by_cases hext : Extendable (chunks.take k).flatten
      · exact ⟨k, Nat.lt_succ_self k, hext, hk⟩
      · obtain ⟨n, hn, hfound⟩ := ih hext
        exact ⟨n, Nat.lt_succ_of_lt hn, hfound⟩
  exact hupto chunks.length (by rwa [List.take_length])

/-- The replies to a stream that can still become a text when it ends. -/
theorem decodeAll_strict_extendable {chunks : List (List UInt8)} (h : Extendable chunks.flatten) :
    ((scan [] chunks.flatten).held = [] ∧ (new .strict).decodeAll chunks =
      ⟨shown [] chunks ++ [⟨"", 0⟩], none, { after .strict chunks.flatten with held := [] }⟩) ∨
    ∃ bad, BrokenAt chunks.flatten bad ∧ (new .strict).decodeAll chunks =
      ⟨shown [] chunks, some bad, { after .strict chunks.flatten with held := [] }⟩ := by
  have hfed := @feedAll_new .strict chunks fun _ => h
  rcases finish_after_strict h with ⟨hheld, hfinish⟩ | ⟨bad, hbad, hfinish⟩
  · refine .inl ⟨hheld, ?_⟩
    rw [decodeAll_of_finish (by rw [hfed]) (by rw [hfed]; exact hfinish), hfed]
  · refine .inr ⟨bad, hbad, ?_⟩
    rw [decodeAll_of_finish_error (by rw [hfed]) (by rw [hfed]; exact hfinish), hfed]

/-- The first chunk that shows that a stream cannot is refused. -/
theorem feed_strict_broken {chunks : List (List UInt8)} {n : Nat} (hn : n < chunks.length)
    (h : Extendable (chunks.take n).flatten)
    (hbroken : ¬ Extendable (chunks.take (n + 1)).flatten) :
    ∃ bad, BrokenAt chunks.flatten bad ∧
      (after .strict (chunks.take n).flatten).feed chunks[n] =
        (.error bad, { after .strict (chunks.take n).flatten with held := [] }) := by
  have hstep : (chunks.take (n + 1)).flatten = (chunks.take n).flatten ++ chunks[n] := by
    rw [List.take_succ_eq_append_getElem hn, List.flatten_append, List.flatten_singleton]
  have hwhole : chunks.flatten =
      (chunks.take n).flatten ++ chunks[n] ++ (chunks.drop (n + 1)).flatten := by
    rw [← hstep, ← List.flatten_append, List.take_append_drop]
  obtain ⟨bad, hbad, hfeed⟩ :=
    @feed_after_broken _ chunks[n] (chunks.drop (n + 1)).flatten h (hstep ▸ hbroken)
  exact ⟨bad, hwhole ▸ hbad, hfeed⟩

/-- The replies to a stream that cannot, up to the chunk that shows it. -/
theorem decodeAll_strict_broken {chunks : List (List UInt8)} {n : Nat} (hn : n < chunks.length)
    (h : Extendable (chunks.take n).flatten)
    (hbroken : ¬ Extendable (chunks.take (n + 1)).flatten) :
    ∃ bad, BrokenAt chunks.flatten bad ∧ (new .strict).decodeAll chunks =
      ⟨shown [] (chunks.take n), some bad,
        { after .strict (chunks.take n).flatten with held := [] }⟩ := by
  have hchunks : chunks.take n ++ chunks[n] :: chunks.drop (n + 1) = chunks := by
    rw [← List.drop_eq_getElem_cons hn, List.take_append_drop]
  have hfed := @feedAll_new .strict (chunks.take n) fun _ => h
  obtain ⟨bad, hbad, hfeed⟩ := feed_strict_broken hn h hbroken
  have hall := @decodeAll_of_feed_error (new .strict) _ (chunks.take n) chunks[n] bad
    (by rw [hfed]) (by rw [hfed]; exact hfeed) (chunks.drop (n + 1))
  rw [hchunks, hfed] at hall
  exact ⟨bad, hbad, hall⟩

/-- What is shown before a stream breaks is the beginning of what it would have been. -/
theorem bytesOf_shown_append {before : List (List UInt8)} {bytes : List UInt8} {bad : Malformed}
    (h : Extendable before.flatten) (hpre : before.flatten <+: bytes) (hbad : BrokenAt bytes bad) :
    ∃ more, bytesOf ((joined (shown [] before)).text ++ more) = bytes.take bad.offset := by
  have hshown : bytesOf (joined (shown [] before)).text <+: bytes :=
    List.IsPrefix.trans ⟨_, bytesOf_shown h⟩ hpre
  have hlen := hbad.longest _ hshown ⟨_, rfl⟩
  obtain ⟨rest, hrest⟩ := List.prefix_take_iff.mpr ⟨hshown, hlen⟩
  obtain ⟨more, rfl⟩ : WellFormed rest := by
    have hw := hbad.wellFormed
    rwa [← hrest, WellFormed.append_iff ⟨_, rfl⟩] at hw
  exact ⟨more, by rw [bytesOf_append, hrest]⟩

/-- **A strict decoder shows a stream that encodes a text as it is; otherwise it fails with the
first bad piece of the stream**, wherever that is cut: in the first call after which no more bytes
can make a text of those it was fed, or at the end if they still can. -/
theorem strict_decodeAll (chunks : List (List UInt8)) :
    ∃ replies, (new .strict).decodeAll chunks = replies ∧
      (WellFormed chunks.flatten →
        replies.failure = none ∧ replies.decoded.length = chunks.length + 1 ∧
        (∀ decoded ∈ replies.decoded, decoded.replacements = 0) ∧
        bytesOf (joined replies.decoded).text = chunks.flatten ∧
        replies.decoded.getLast? = some ⟨"", 0⟩) ∧
      (¬ WellFormed chunks.flatten → ∃ bad, replies.failure = some bad ∧
        (∀ other, BrokenAt chunks.flatten other ↔ other = bad) ∧
        (Extendable chunks.flatten → replies.decoded.length = chunks.length ∧
          bad.bytes = chunks.flatten.drop bad.offset) ∧
        (¬ Extendable chunks.flatten → replies.decoded.length < chunks.length ∧
          Extendable (chunks.take replies.decoded.length).flatten ∧
          ¬ Extendable (chunks.take (replies.decoded.length + 1)).flatten) ∧
        ∃ more, bytesOf ((joined replies.decoded).text ++ more) =
          chunks.flatten.take bad.offset) := by
  have hunique {bad other : Malformed} (h : BrokenAt chunks.flatten bad) :
      BrokenAt chunks.flatten other ↔ other = bad :=
    ⟨fun h' => h'.unique h, fun heq => heq ▸ h⟩
  by_cases hext : Extendable chunks.flatten
  · rcases decodeAll_strict_extendable hext with ⟨hheld, hreplies⟩ | ⟨bad, hbad, hreplies⟩
    · have hbytes := bytesOf_shown hext
      rw [hheld, List.append_nil] at hbytes
      refine ⟨_, hreplies, fun _ => ⟨rfl, ?_, ?_, ?_, ?_⟩, fun hnot => absurd ⟨_, hbytes⟩ hnot⟩
      · rw [List.length_append, length_shown, List.length_singleton]
      · intro decoded hdecoded
        rcases List.mem_append.mp hdecoded with hd | hd
        · exact replacements_shown hext hd
        · rw [List.mem_singleton.mp hd]
      · rw [joined_append]
        simpa [joined] using hbytes
      · exact List.getLast?_concat
    · refine ⟨_, hreplies, fun hw => absurd hw hbad.not_wellFormed, fun _ => ⟨bad, rfl, ?_⟩⟩
      exact ⟨fun _ => hunique hbad, fun _ => ⟨length_shown _ _, hbad.bytes_eq_of_extendable hext⟩,
        fun hnot => absurd hext hnot, bytesOf_shown_append hext (List.prefix_refl _) hbad⟩
  · obtain ⟨n, hn, hbefore, hbroken⟩ := exists_breaking hext
    obtain ⟨bad, hbad, hreplies⟩ := decodeAll_strict_broken hn hbefore hbroken
    have hpre : (chunks.take n).flatten <+: chunks.flatten :=
      ⟨(chunks.drop n).flatten, by rw [← List.flatten_append, List.take_append_drop]⟩
    have hcalls : (shown [] (chunks.take n)).length = n := by
      rw [length_shown, List.length_take_of_le (Nat.le_of_lt hn)]
    refine ⟨_, hreplies, fun hw => absurd hw hbad.not_wellFormed, fun _ => ⟨bad, rfl, ?_⟩⟩
    rw [hcalls]
    exact ⟨fun _ => hunique hbad, fun h => absurd h hext, fun _ => ⟨hn, hbefore, hbroken⟩,
      bytesOf_shown_append hbefore hpre hbad⟩

/-- A euro sign that is cut in two is no failure, one that a space breaks off is. -/
theorem strict_decodeAll_euro :
    ((new .strict).decodeAll [[0xE2], [0x82, 0xAC]]).failure = none ∧
      ((new .strict).decodeAll [[0x6F, 0xE2], [0x82], [0x20]]).failure =
        some ⟨1, [0xE2, 0x82]⟩ := by
  obtain ⟨_, rfl, hwhole, -⟩ := strict_decodeAll [[0xE2], [0x82, 0xAC]]
  obtain ⟨_, rfl, -, hbroken⟩ := strict_decodeAll [[0x6F, 0xE2], [0x82], [0x20]]
  refine ⟨(hwhole (by decide)).1, ?_⟩
  obtain ⟨bad, hfailure, hbad, -⟩ := hbroken (by decide)
  have hat : BrokenAt [0x6F, 0xE2, 0x82, 0x20] ⟨1, [0xE2, 0x82]⟩ := brokenAt_iff.mpr (by decide)
  rw [hfailure, (hbad _).mp hat]

end LinkProbe.Decoder
