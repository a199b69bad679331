import ConformanceReport.Proofs.Text.Lossy
import ConformanceReport.Scan.Finding

/-!
# Names as they are and names as they are shown

A scan tells result files by the names that it shows, in which broken bytes have become replacement
characters. `Entry.IsNamed` asks the same of the bytes of a name. As long as the filter itself has
no replacement character both come to the same (`scanned_by_real_names`), so that no file is passed
over or taken in because its name is no text.
-/

namespace ConformanceReport

/-- The bytes of the name of an entry are those of a result file: they end in the extension, and
they are not the manifest of the suite. -/
def Entry.IsNamed (filter : Filter) (entry : Entry) : Prop :=
  entry.name ≠ utf8 filter.manifest ∧ utf8 filter.extension <:+ entry.name

instance (filter : Filter) (entry : Entry) : Decidable (entry.IsNamed filter) :=
  inferInstanceAs (Decidable (_ ∧ _))

/-- A shown name is accepted exactly if it is not the manifest and ends in the extension. -/
theorem Filter.accepts_iff {filter : Filter} {name : String} :
    filter.accepts name = true ↔
      name ≠ filter.manifest ∧ utf8 filter.extension <:+ utf8 name := by
  rw [Filter.accepts, Bool.and_eq_true, decide_eq_true_eq, List.isSuffixOf_iff_suffix]

/-- With a filter that has no replacement character, the name that is shown for an entry is accepted
exactly if the bytes of its name are not those of the manifest and end in those of the extension; so
a scan finds the same as if it looked at the bytes. -/
theorem scanned_by_real_names {filter : Filter} (manifest : '\uFFFD' ∉ filter.manifest.toList)
    (extension : '\uFFFD' ∉ filter.extension.toList) :
    (∀ entry : Entry, filter.accepts entry.shownName = true ↔
      entry.name ≠ utf8 filter.manifest ∧ utf8 filter.extension <:+ entry.name) ∧
    ∀ entries : List Entry,
      Finding.all filter entries =
        (entries.filter fun entry => entry.IsNamed filter).map Finding.of := by
  have accepted (entry : Entry) :
      filter.accepts entry.shownName = true ↔ entry.IsNamed filter := by
    rw [Filter.accepts_iff, Entry.shownName, Utf8.utf8_suffix_lossy_iff extension, ne_eq,
      Utf8.lossy_eq_iff manifest]
    rfl
  refine ⟨accepted, ?_⟩
  intro entries
  have sameTest (entry : Entry) :
      filter.accepts entry.shownName = decide (entry.IsNamed filter) :=
    Bool.eq_iff_iff.mpr ((accepted entry).trans decide_eq_true_iff.symm)
  unfold Finding.all
  simp only [sameTest]

/-- A name with a character cut short right before an extension that starts with a long character is
accepted, and so is the manifest behind a stray byte. -/
theorem scanned_by_broken_names :
    let filter : Filter := ⟨"é.json", "é.json"⟩
    let cutShort : Entry := ⟨utf8 "case" ++ [0xE2, 0x82] ++ utf8 "é.json", .error .noEntry⟩
    let stray : Entry := ⟨0xC3 :: utf8 "é.json", .error .noEntry⟩
    let manifest : Entry := ⟨utf8 "é.json", .error .noEntry⟩
    '\uFFFD' ∉ filter.manifest.toList ∧ '\uFFFD' ∉ filter.extension.toList ∧
      filter.accepts cutShort.shownName = true ∧
      Finding.all filter [stray, manifest, cutShort] = [.of stray, .of cutShort] := by
  intro filter cutShort stray manifest
  have cleanManifest : '\uFFFD' ∉ filter.manifest.toList := by decide +kernel
  have cleanExtension : '\uFFFD' ∉ filter.extension.toList := by decide +kernel
  obtain ⟨accepted, found⟩ := scanned_by_real_names cleanManifest cleanExtension
  have isNamed : cutShort.IsNamed filter := by decide +kernel
  have strayIsNamed : stray.IsNamed filter := by decide +kernel
  have manifestIsNot : ¬ manifest.IsNamed filter := by decide +kernel
  refine ⟨cleanManifest, cleanExtension, (accepted cutShort).mpr isNamed, ?_⟩
  rw [found]
  simp [isNamed, strayIsNamed, manifestIsNot]

end ConformanceReport
