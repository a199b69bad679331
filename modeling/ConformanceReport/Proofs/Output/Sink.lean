import ConformanceReport.Output.Sink

/-!
# What a sink takes

A sink that takes bytes in two parts ends up as one that takes them at once (`take_take`), and one
that is full takes nothing more (`take_append_of_not_fits`). So it does not matter in which pieces
bytes are written (`writeAll_eq_write`): a cut falls where the room ends, also inside a piece.
-/

namespace ConformanceReport.Sink

variable (sink : Sink) (first second : Bytes)

@[simp] theorem take_room :
    (sink.take first).room = sink.room.map fun room => room - first.length := rfl

@[simp] theorem take_full : (sink.take first).full = sink.full := rfl

@[simp] theorem take_flushes : (sink.take first).flushes = sink.flushes := rfl

@[simp] theorem take_stuck : (sink.take first).stuck = sink.stuck := rfl

/-- Two sinks are equal if all that they hold is. -/
@[ext] theorem ext {left right : Sink} (taken : left.taken = right.taken)
    (room : left.room = right.room) (full : left.full = right.full)
    (flushes : left.flushes = right.flushes) (stuck : left.stuck = right.stuck) :
    left = right := by
  cases left
  cases right
  simp_all

/-- No bytes always fit. -/
@[simp] theorem fits_nil : sink.fits [] = true := by
  unfold fits
  split <;> simp

/-- Taking no bytes changes nothing. -/
@[simp] theorem take_nil : sink.take [] = sink := by
  obtain ⟨taken, room, full, flushes, stuck⟩ := sink
  cases room <;> simp [take, fitting]

/-- A sink without a limit has room for all bytes. -/
theorem fits_of_room_none (noLimit : sink.room = none) : sink.fits first = true := by
  simp [fits, noLimit]

/-- Bytes fit into limited room exactly if they are no more than it. -/
theorem fits_iff_of_room {room : Nat} (limit : sink.room = some room) :
    sink.fits first = true ↔ first.length ≤ room := by
  simp [fits, limit]

/-- Bytes that fit are taken whole. -/
theorem taken_take_of_fits (fits : sink.fits first = true) :
    (sink.take first).taken = sink.taken ++ first := by
  cases limit : sink.room with
  | none => simp [take, fitting, limit]
  | some room =>
    have bound := (sink.fits_iff_of_room first limit).mp fits
    simp [take, fitting, limit, List.take_of_length_le bound]

/-- Of bytes that may not fit, as many are taken as there is room for. -/
theorem taken_take_of_room {room : Nat} (limit : sink.room = some room) :
    (sink.take first).taken = sink.taken ++ first.take room := by
  simp [take, fitting, limit]

/-- Bytes fit together exactly if the first do and the second still do after them. -/
theorem fits_append :
    sink.fits (first ++ second) = (sink.fits first && (sink.take first).fits second) := by
  cases limit : sink.room with
  | none => simp [fits, limit]
  | some room =>
    rw [Bool.eq_iff_iff, Bool.and_eq_true, fits_iff_of_room _ _ limit, fits_iff_of_room _ _ limit,
      fits_iff_of_room _ _ (by simp [limit] : (sink.take first).room = some (room - first.length)),
      List.length_append]
    omega

/-- Taking bytes in two parts is taking them at once. -/
theorem take_take : (sink.take first).take second = sink.take (first ++ second) := by
  ext1
  · cases limit : sink.room with
    | none => simp [take, fitting, limit]
    | some room => simp [take, fitting, limit, List.take_append]
  · cases limit : sink.room with
    | none => simp [limit]
    | some room => simp [limit, Nat.sub_sub]
  all_goals rfl

/-- A sink that the first bytes fill takes nothing of the second. -/
theorem take_append_of_not_fits (full : sink.fits first = false) :
    sink.take (first ++ second) = sink.take first := by
  cases limit : sink.room with
  | none => simp [fits, limit] at full
  | some room =>
    have bound : room < first.length := by simpa [fits, limit] using full
    ext1
    · rw [taken_take_of_room _ _ limit, taken_take_of_room _ _ limit,
        List.take_append_of_le_length (Nat.le_of_lt bound)]
    · simp only [take_room, limit, Option.map_some, List.length_append, Option.some.injEq]
      omega
    all_goals rfl

/-- It does not matter in which pieces bytes are written. -/
theorem writeAll_eq_write (pieces : List Bytes) :
    sink.writeAll pieces = sink.write pieces.flatten := by
  induction pieces generalizing sink with
  | nil => simp [writeAll, write]
  | cons piece more inductionHypothesis =>
    rw [writeAll, List.flatten_cons, write, write, fits_append]
    cases fits : sink.fits piece with
    | false => simp [take_append_of_not_fits _ _ _ fits]
    | true =>
      simp only [if_true, Bool.true_and]
      rw [inductionHypothesis, write, take_take]
      rfl

end ConformanceReport.Sink
