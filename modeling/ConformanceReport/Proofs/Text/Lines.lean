import ConformanceReport.Proofs.Text.Utf8

/-!
# Lines

An output is made of lines, each with its end. Its line ends are as many as its lines exactly if no
line holds one inside, so the number of lines tells whether the texts that were joined to an output
are its lines (`AreLines.newline_not_mem`). Texts on one line each are known from the output that
they make (`eq_of_join_ended_eq`).
-/

namespace ConformanceReport

/-- The byte that ends a line. -/
def newline : UInt8 := ascii '\n'

/-- A text that is on one line. -/
def OneLine (text : String) : Prop :=
  '\n' ∉ text.toList

instance (text : String) : Decidable (OneLine text) :=
  inferInstanceAs (Decidable ('\n' ∉ text.toList))

/-- Texts are on one line together exactly if each of them is. -/
@[simp] theorem oneLine_append_iff {left right : String} :
    OneLine (left ++ right) ↔ OneLine left ∧ OneLine right := by
  simp [OneLine]

/-- Only the character that ends a line is encoded with its byte. -/
theorem newline_mem_utf8EncodeChar_iff {character : Char} :
    newline ∈ String.utf8EncodeChar character ↔ character = '\n' := by
  constructor
  · intro member
    by_cases small : character.toNat < 0x80
    · rw [Utf8.utf8EncodeChar_of_lt small, List.mem_singleton] at member
      have values : 10 = character.toNat % 256 := congrArg UInt8.toNat member
      rw [← Char.toNat_inj]
      show character.toNat = 10
      omega
    · have large := Utf8.le_of_mem_utf8EncodeChar (Nat.le_of_not_lt small) member
      exact absurd large (by decide)
  · rintro rfl
    decide

/-- A text is on one line exactly if its encoding holds no end of a line. -/
theorem newline_not_mem_utf8_iff {text : String} : newline ∉ utf8 text ↔ OneLine text := by
  simp [OneLine, utf8, List.mem_flatMap, newline_mem_utf8EncodeChar_iff]

/-- Lines with their ends. -/
def joinLines (lines : List Bytes) : Bytes :=
  lines.flatMap fun line => line ++ [newline]

/-- An output is made of some lines. -/
def AreLines (output : Bytes) (lines : List Bytes) : Prop :=
  output = joinLines lines ∧ ∀ line ∈ lines, newline ∉ line

/-- A line brings its own end and those inside it. -/
theorem count_newline_joinLines_cons (line : Bytes) (more : List Bytes) :
    (joinLines (line :: more)).count newline =
      line.count newline + 1 + (joinLines more).count newline := by
  rw [joinLines, List.flatMap_cons, ← joinLines, List.count_append, List.count_append,
    List.count_singleton_self]

/-- Lines have at least as many ends as there are lines. -/
theorem length_le_count_newline_joinLines (lines : List Bytes) :
    lines.length ≤ (joinLines lines).count newline := by
  induction lines with
  | nil => exact Nat.zero_le _
  | cons line more inductionHypothesis =>
    rw [count_newline_joinLines_cons, List.length_cons]
    omega

/-- Lines have as many ends as there are lines exactly if none holds an end inside. -/
theorem count_newline_joinLines_eq_length_iff {lines : List Bytes} :
    (joinLines lines).count newline = lines.length ↔ ∀ line ∈ lines, newline ∉ line := by
  induction lines with
  | nil => simp [joinLines]
  | cons line more inductionHypothesis =>
    have least := length_le_count_newline_joinLines more
    rw [List.forall_mem_cons, ← inductionHypothesis, ← List.count_eq_zero,
      count_newline_joinLines_cons, List.length_cons]
    omega

/-- If an output that is made of lines has as many of them as texts were joined to it, the texts
are lines themselves. -/
theorem AreLines.newline_not_mem {texts lines : List Bytes}
    (areLines : AreLines (joinLines texts) lines) (sameLength : lines.length = texts.length) :
    ∀ text ∈ texts, newline ∉ text := by
  obtain ⟨isOutput, clean⟩ := areLines
  rw [← count_newline_joinLines_eq_length_iff, isOutput, ← sameLength]
  exact count_newline_joinLines_eq_length_iff.mpr clean

/-! ## Texts from their lines -/

/-- Splitting at the ends of lines yields the texts that were joined, if each is on one line, and
nothing after the last end. -/
theorem splitOn_join_ended {texts : List String} (clean : ∀ text ∈ texts, OneLine text) :
    (String.join (texts.map fun text => text ++ "\n")).toList.splitOn '\n' =
      texts.map String.toList ++ [[]] := by
  induction texts with
  | nil => rfl
  | cons text more inductionHypothesis =>
    rw [List.forall_mem_cons] at clean
    have rest := inductionHypothesis clean.2
    have first := List.splitOn_eq_singleton clean.1
    have isEnd : "\n".toList = ['\n'] := rfl
    rw [List.splitOn_eq_splitOnP] at rest first ⊢
    rw [List.map_cons, String.join_cons, String.toList_append, String.toList_append, isEnd,
      List.append_assoc, List.singleton_append, List.splitOnP_append_cons, first, rest]
    · rfl
    · exact beq_self_eq_true '\n'

/-- Texts that are on one line each are known from what they make with their ends. -/
theorem eq_of_join_ended_eq {left right : List String} (leftClean : ∀ text ∈ left, OneLine text)
    (rightClean : ∀ text ∈ right, OneLine text)
    (same : String.join (left.map fun text => text ++ "\n") =
      String.join (right.map fun text => text ++ "\n")) : left = right := by
  have split := congrArg (fun text : String => text.toList.splitOn '\n') same
  rw [splitOn_join_ended leftClean, splitOn_join_ended rightClean] at split
  exact (List.map_inj_right fun _ _ => String.toList_inj.mp).mp (List.append_cancel_right split)

end ConformanceReport
