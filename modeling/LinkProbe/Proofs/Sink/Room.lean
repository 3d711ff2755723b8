import LinkProbe.Proofs.Receiver.Runs

/-!
# Sinks with room for some lines

A sink that has room for a number of line ends takes what one without a limit takes, up to the first
piece that comes after so many. That piece and all later ones are refused.

* `Sink.Fits`: such a sink takes all of the pieces.
* `Sink.RefusedAt`: the first piece that it refuses, if it does not.
* `Sink.limited`: what a sink without a limit would be with one.
* `Sink.Truncates`: what becomes of the two, which goes on step by step (`Truncates.bind`).
* `Sink.putLine_limited`: how the two take a line.
-/

namespace LinkProbe.Sink

variable {n k : Nat} {pieces more : List String} {piece : String} {s : Sink}

/-! ## Pieces and line ends -/

/-- The number of line ends in the pieces. -/
def endsOf (pieces : List String) : Nat := (pieces.map lineEnds).sum

/-- A sink with room for `n` line ends takes all of the pieces: none comes after so many. -/
def Fits (n : Nat) (pieces : List String) : Prop := ∀ k < pieces.length, endsOf (pieces.take k) < n

/-- The piece with this number is the first one that comes after `n` line ends. -/
structure RefusedAt (n : Nat) (pieces : List String) (k : Nat) : Prop where
  lt : k < pieces.length
  late : n ≤ endsOf (pieces.take k)
  before : ∀ j < k, endsOf (pieces.take j) < n

theorem lineEnds_join (pieces : List String) : lineEnds (.join pieces) = endsOf pieces := by
  induction pieces with
  | nil => rfl
  | cons piece pieces ih =>
    rw [String.join_cons, lineEnds, String.toList_append, List.count_append, endsOf,
      List.map_cons, List.sum_cons]
    exact congrArg _ ih

theorem endsOf_concat (pieces : List String) (piece : String) :
    endsOf (pieces ++ [piece]) = endsOf pieces + lineEnds piece := by
  simp [endsOf]

theorem fits_nil : Fits n [] := nofun

theorem Fits.append_singleton (h : Fits n pieces) (hearly : endsOf pieces < n) :
    Fits n (pieces ++ [piece]) := by
  intro k hk
  rw [List.length_append, List.length_singleton] at hk
  rw [List.take_append_of_le_length (by omega)]
  by_cases hlast : k = pieces.length
  · rwa [hlast, List.take_length]
  · exact h k (by omega)

theorem Fits.refusedAt (h : Fits n pieces) (hlate : n ≤ endsOf pieces) :
    RefusedAt n (pieces ++ piece :: more) pieces.length where
  lt := by simp
  late := by rwa [List.take_left]
  before j hj := by
    rw [List.take_append_of_le_length (Nat.le_of_lt hj)]
    exact h j hj

/-- More pieces do not change which one is refused first. -/
theorem RefusedAt.append (h : RefusedAt n pieces k) (more : List String) :
    RefusedAt n (pieces ++ more) k := by
  have htake {j : Nat} (hj : j ≤ k) : (pieces ++ more).take j = pieces.take j :=
    List.take_append_of_le_length (Nat.le_trans hj (Nat.le_of_lt h.lt))
  refine ⟨Nat.lt_of_lt_of_le h.lt (by simp), ?_, fun j hj => ?_⟩
  · rw [htake (Nat.le_refl k)]
    exact h.late
  · rw [htake (Nat.le_of_lt hj)]
    exact h.before j hj

theorem RefusedAt.not_fits (h : RefusedAt n pieces k) : ¬ Fits n pieces :=
  fun hfits => Nat.not_le_of_lt (hfits k h.lt) h.late

/-- One piece only is the first that is refused. -/
theorem RefusedAt.unique {j : Nat} (h : RefusedAt n pieces j) (h' : RefusedAt n pieces k) :
    j = k := by
  rcases Nat.lt_trichotomy j k with hlt | heq | hgt
  · exact absurd (h'.before j hlt) (Nat.not_lt_of_le h.late)
  · exact heq
  · exact absurd (h.before k hgt) (Nat.not_lt_of_le h'.late)

/-! ## Two sinks -/

/-- What the sink would be with room for `n` line ends. -/
def limited (s : Sink) (n : Nat) : Sink := { s with room := some (n - endsOf s.accepted.toList) }

/-- Something is done with a sink without a limit, which is `whole` afterwards, and the same with
one that has room for `n` line ends. The second sink takes all that the first takes, and then things
are the `same`; or the first piece that comes too late is `refused`, and the sink is left with what
came before. -/
def Truncates (n : Nat) (whole : Sink) (same : Prop) (refused : Sink → Prop) : Prop :=
  (Fits n whole.accepted.toList ∧ same) ∨
  ∃ k left, RefusedAt n whole.accepted.toList k ∧ refused left ∧
    left.accepted.toList = whole.accepted.toList.take k

/-- What is done next follows where nothing was refused, and otherwise does not matter. -/
theorem Truncates.bind {whole whole' : Sink} {same same' : Prop} {refused refused' : Sink → Prop}
    (h : Truncates n whole same refused)
    (hgrows : whole.accepted.toList <+: whole'.accepted.toList)
    (hsame : Fits n whole.accepted.toList → same → Truncates n whole' same' refused')
    (hrefused : ∀ left, refused left → refused' left) : Truncates n whole' same' refused' := by
  rcases h with ⟨hfits, h⟩ | ⟨k, left, hk, h, hleft⟩
  · exact hsame hfits h
  · obtain ⟨more, hmore⟩ := hgrows
    refine .inr ⟨k, left, hmore ▸ hk.append more, hrefused left h, ?_⟩
    rw [hleft, ← hmore, List.take_append_of_le_length (Nat.le_of_lt hk.lt)]

theorem Truncates.imp {whole : Sink} {same same' : Prop} {refused refused' : Sink → Prop}
    (h : Truncates n whole same refused) (hsame : same → same')
    (hrefused : ∀ left, refused left → refused' left) : Truncates n whole same' refused' :=
  h.bind (List.prefix_refl _) (fun hfits hnow => .inl ⟨hfits, hsame hnow⟩) hrefused

theorem put_limited (hroom : s.room = none) (hfits : Fits n s.accepted.toList) (piece : String) :
    Truncates n (s.put piece).2 ((s.limited n).put piece = (.ok (), (s.put piece).2.limited n))
      fun left => (s.limited n).put piece = (.error full, left) := by
  rw [put_unlimited hroom]
  by_cases hearly : endsOf s.accepted.toList < n
  · have hopen : (s.limited n).room ≠ some 0 := by
      simp only [limited, ne_eq, Option.some.injEq]
      omega
    left
    rw [put_ok hopen, Array.toList_push]
    refine ⟨hfits.append_singleton hearly, ?_⟩
    simp only [limited, Option.map_some, Array.toList_push, endsOf_concat, Nat.sub_sub]
  · have hlate := Nat.le_of_not_lt hearly
    have hfull : (s.limited n).room = some 0 := by
      simp only [limited, Option.some.injEq]
      omega
    right
    rw [put_full hfull, Array.toList_push]
    exact ⟨_, _, hfits.refusedAt hlate, rfl, (List.take_left ..).symm⟩

/-- A line is taken whole, or one of its pieces is the first that comes too late. -/
theorem putLine_limited (hroom : s.room = none) (hfits : Fits n s.accepted.toList)
    (text : String) :
    Truncates n (s.putLine text).2
      ((s.limited n).putLine text = (.ok (), (s.putLine text).2.limited n))
      fun left => (s.limited n).putLine text = (.error (.output full), left) := by
  by_cases htext : text = ""
  · subst htext
    exact .inl ⟨hfits, rfl⟩
  · have hsome : ¬ text.isEmpty = true := by simpa using htext
    have hroom' : (s.put text).2.room = none := by rw [put_unlimited hroom]
    have hwhole : (s.putLine text).2 = ((s.put text).2.put "\n").2 := by
      simp only [putLine, if_neg hsome, put_unlimited hroom]
      rw [put_unlimited rfl]
    have hgrows : (s.put text).2.accepted.toList <+:
        ((s.put text).2.put "\n").2.accepted.toList := by
      rw [put_unlimited hroom', Array.toList_push]
      exact List.prefix_append _ _
    rw [hwhole, putLine, if_neg hsome]
    refine (put_limited hroom hfits text).bind hgrows (fun hfits' hsame => ?_) fun left hrefused => ?_
    · rw [hsame]
      refine (put_limited hroom' hfits' "\n").imp (fun hsame' => ?_) fun left hrefused => ?_
      · simp only [hsame']
      · simp only [hrefused]
    · simp only [hrefused]

end LinkProbe.Sink
