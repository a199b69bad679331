import ConformanceReport.Proofs.Text.Utf8

/-!
# What lossy decoding keeps

The pieces of a byte sequence hold all of its bytes (`flatMap_bytes_pieces`), and behind the start
of a character the cutting begins anew: no piece reaches across a byte that continues nothing
(`pieces_append`). So a sequence ends with an encoded text exactly if its last pieces are the
characters of that text (`utf8_suffix_iff`), and a text without the replacement character is shown
only for the bytes that encode it, as the whole (`lossy_eq_iff`) and at the end
(`utf8_suffix_lossy_iff`).
-/

namespace ConformanceReport.Utf8

/-- The bytes that a piece stands for. -/
def Piece.bytes : Piece → Bytes
  | .scalar character => String.utf8EncodeChar character
  | .broken bytes => bytes

/-- A byte sequence that does not start in the middle of a character. -/
def Resumes (bytes : Bytes) : Prop :=
  ∀ first ∈ bytes.head?, isTail first = false

/-- The encoding of a text does not start in the middle of a character. -/
theorem resumes_utf8 (text : String) : Resumes (utf8 text) := by
  unfold Resumes utf8
  cases text.toList with
  | nil => simp
  | cons character more =>
    have encoded := encoded_utf8EncodeChar character
    obtain ⟨lead, tail, bytes⟩ := List.exists_cons_of_ne_nil String.utf8EncodeChar_ne_nil
    rw [bytes] at encoded
    rw [List.flatMap_cons, bytes]
    simpa using encoded.lead_not_tail

/-! ## Pieces -/

/-- A first piece and the bytes after it make up the whole. -/
theorem bytes_append_split (lead : UInt8) (rest : Bytes) :
    (split lead rest).1.bytes ++ (split lead rest).2 = lead :: rest := by
  cases cut : split lead rest with
  | mk piece after =>
    cases piece with
    | scalar character =>
      obtain ⟨tail, rfl, encoded⟩ := encoded_of_split cut
      rw [Piece.bytes, ← encoded.eq_utf8EncodeChar, List.cons_append]
    | broken bytes =>
      unfold split at cut
      repeat' split at cut
      all_goals
        simp only [Prod.mk.injEq, Piece.broken.injEq, reduceCtorEq, false_and] at cut
      all_goals
        obtain ⟨rfl, rfl⟩ := cut
        rfl

/-- Nothing of a byte sequence is lost in its pieces. -/
theorem flatMap_bytes_pieces (bytes : Bytes) : (pieces bytes).flatMap Piece.bytes = bytes := by
  fun_induction pieces bytes with
  | case1 => rfl
  | case2 lead rest inductionHypothesis =>
    rw [List.flatMap_cons, inductionHypothesis, bytes_append_split]

/-- A first piece does not change with what is added behind, if that does not start in the middle
of a character. -/
theorem split_append (lead : UInt8) (rest : Bytes) {more : Bytes} (resumes : Resumes more) :
    split lead (rest ++ more) = (split lead rest).map id (· ++ more) := by
  cases more with
  | nil =>
    simp only [List.append_nil]
    rfl
  | cons first more =>
    have notTail : isTail first = false := resumes first rfl
    have notAllowed : allowsSecond lead first = false := by
      rw [← Bool.not_eq_true]
      intro allowed
      rw [isTail_of_allowsSecond allowed] at notTail
      cases notTail
    -- What `rest` lacks of a character is at most three bytes, and `first` is none of them.
    rcases rest with _ | ⟨second, _ | ⟨third, _ | ⟨fourth, rest⟩⟩⟩
    all_goals
      simp only [split, List.cons_append, List.nil_append, notTail, notAllowed,
        Bool.false_eq_true, if_false, ite_self, apply_ite (Prod.map id (· ++ first :: more)),
        Prod.map_apply, id]

/-- The pieces of two byte sequences in a row, if the second does not start in the middle of a
character. -/
theorem pieces_append (bytes : Bytes) {more : Bytes} (resumes : Resumes more) :
    pieces (bytes ++ more) = pieces bytes ++ pieces more := by
  fun_induction pieces bytes with
  | case1 => rfl
  | case2 lead rest inductionHypothesis =>
    rw [List.cons_append, pieces, split_append lead rest resumes, Prod.map_fst, Prod.map_snd, id,
      inductionHypothesis, List.cons_append]

/-- The pieces of an encoded text are its characters. -/
theorem pieces_utf8 (text : String) : pieces (utf8 text) = text.toList.map .scalar :=
  pieces_flatMap_utf8EncodeChar text.toList

/-- Only the encoding of a text has the characters of that text as its pieces. -/
theorem pieces_eq_map_scalar_iff {bytes : Bytes} {text : String} :
    pieces bytes = text.toList.map .scalar ↔ bytes = utf8 text := by
  constructor
  · intro same
    rw [← flatMap_bytes_pieces bytes, same, List.flatMap_map]
    rfl
  · rintro rfl
    exact pieces_utf8 text

/-- A byte sequence ends with an encoded text exactly if its last pieces are the characters of that
text. -/
theorem utf8_suffix_iff {text : String} {bytes : Bytes} :
    utf8 text <:+ bytes ↔ text.toList.map .scalar <:+ pieces bytes := by
  constructor
  · rintro ⟨front, rfl⟩
    rw [pieces_append front (resumes_utf8 text), pieces_utf8]
    exact List.suffix_append _ _
  · rintro ⟨front, same⟩
    refine ⟨front.flatMap Piece.bytes, ?_⟩
    rw [← flatMap_bytes_pieces bytes, ← same, List.flatMap_append, List.flatMap_map]
    rfl

/-! ## Shown pieces -/

/-- A piece is shown as another than the replacement character exactly if it is that character. -/
theorem Piece.shown_eq_iff {piece : Piece} {character : Char} (clean : character ≠ '\uFFFD') :
    piece.shown = character ↔ piece = .scalar character := by
  cases piece with
  | scalar found => rw [Piece.shown, Piece.scalar.injEq]
  | broken bytes => simp [Piece.shown, clean.symm]

/-- Pieces are shown as a text without the replacement character exactly if they are its
characters. -/
theorem map_shown_eq_iff {found : List Piece} {characters : List Char}
    (clean : '\uFFFD' ∉ characters) :
    found.map Piece.shown = characters ↔ found = characters.map .scalar := by
  induction found generalizing characters with
  | nil => simp [eq_comm]
  | cons piece more inductionHypothesis =>
    cases characters with
    | nil => simp
    | cons character characters =>
      rw [List.mem_cons, not_or] at clean
      rw [List.map_cons, List.map_cons, List.cons.injEq, List.cons.injEq,
        inductionHypothesis clean.2, Piece.shown_eq_iff (Ne.symm clean.1)]

/-- The last shown characters are those of a text without the replacement character exactly if the
last pieces are. -/
theorem suffix_map_shown_iff {found : List Piece} {characters : List Char}
    (clean : '\uFFFD' ∉ characters) :
    characters <:+ found.map Piece.shown ↔ characters.map .scalar <:+ found := by
  constructor
  · intro suffix
    obtain ⟨ending, isEnding, same⟩ := List.suffix_map_iff.mp suffix
    rwa [(map_shown_eq_iff clean).mp same.symm] at isEnding
  · intro suffix
    have shown := suffix.map Piece.shown
    rwa [(map_shown_eq_iff clean).mpr rfl] at shown

/-- A byte sequence is shown as a text without the replacement character exactly if it encodes that
text. -/
theorem lossy_eq_iff {text : String} (clean : '\uFFFD' ∉ text.toList) {bytes : Bytes} :
    lossy bytes = text ↔ bytes = utf8 text := by
  rw [← pieces_eq_map_scalar_iff, ← map_shown_eq_iff clean, lossy, ← String.toList_inj,
    String.toList_ofList]

/-- What is shown of a byte sequence ends with a text without the replacement character exactly if
the bytes end with the encoding of that text. -/
theorem utf8_suffix_lossy_iff {text : String} (clean : '\uFFFD' ∉ text.toList) {bytes : Bytes} :
    utf8 text <:+ utf8 (lossy bytes) ↔ utf8 text <:+ bytes := by
  rw [utf8_suffix_iff, utf8_suffix_iff, pieces_utf8, lossy, String.toList_ofList,
    ← suffix_map_shown_iff clean, ← suffix_map_shown_iff clean, List.map_map]
  have same : Piece.shown ∘ Piece.scalar = id := rfl
  rw [same, List.map_id]

end ConformanceReport.Utf8
