import ConformanceReport.Config.Document
import ConformanceReport.Proofs.Results
import Mathlib.Data.List.Forall2

/-!
# Settings in the sections of a document

A section is read entry by entry, and so is the document as a whole: an entry sets one of two things
or is passed over. `Reads` captures this once for the document and both sections. As no key comes
twice, each of the two things is what its own key says, or what it was before, whatever the other
entries are (`Reads.foldlM_iff`).
-/

namespace ConformanceReport

namespace Config

open Toml

/-! ## Values of settings -/

/-- A value that is a given text. -/
def IsText (value : Value) (content : String) : Prop :=
  ∃ span, value = .text span content

/-- A value that is a given truth value. -/
def IsBoolean (value : Value) (truth : Bool) : Prop :=
  ∃ span, value = .boolean span truth

/-- A value that is a list of given texts. -/
def IsTexts (value : Value) (contents : List String) : Prop :=
  ∃ span items, value = .list span items ∧ List.Forall₂ IsText items contents

theorem text_eq_ok_iff {value : Value} {content : String} :
    text value = .ok content ↔ IsText value content := by
  cases value <;> simp [text, refuse, IsText]

theorem boolean_eq_ok_iff {value : Value} {truth : Bool} :
    boolean value = .ok truth ↔ IsBoolean value truth := by
  cases value <;> simp [boolean, refuse, IsBoolean]

theorem mapM_text_eq_ok_iff {items : List Value} {contents : List String} :
    items.mapM text = .ok contents ↔ List.Forall₂ IsText items contents := by
  induction items generalizing contents with
  | nil =>
    rw [List.mapM_nil, List.forall₂_nil_left_iff]
    exact ⟨fun same => by cases same; rfl, fun same => by rw [same]; rfl⟩
  | cons item more inductionHypothesis =>
    rw [List.mapM_cons, bind_eq_ok_iff, List.forall₂_cons_left_iff]
    constructor
    · rintro ⟨content, isContent, rest⟩
      obtain ⟨contents', areContents, same⟩ := bind_eq_ok_iff.mp rest
      cases same
      exact ⟨content, contents', text_eq_ok_iff.mp isContent,
        inductionHypothesis.mp areContents, rfl⟩
    · rintro ⟨content, contents', isText, areTexts, rfl⟩
      exact ⟨content, text_eq_ok_iff.mpr isText,
        bind_eq_ok_iff.mpr ⟨contents', inductionHypothesis.mpr areTexts, rfl⟩⟩

theorem texts_eq_ok_iff {value : Value} {contents : List String} :
    texts value = .ok contents ↔ IsTexts value contents := by
  cases value with
  | list span items => simp [texts, IsTexts, mapM_text_eq_ok_iff]
  | _ => simp [texts, refuse, IsTexts]

/-! ## Entries that set one of two things -/

/-- What a setting comes to: what its value denotes, or else what it was before. -/
inductive Sets {α : Type} (denotes : Value → α → Prop) (before : α) : Option Value → α → Prop where
  | absent : Sets denotes before none before
  | stated {value : Value} {content : α} (isDenoted : denotes value content) :
      Sets denotes before (some value) content

@[simp] theorem sets_none_iff {α : Type} {denotes : Value → α → Prop} {before content : α} :
    Sets denotes before none content ↔ before = content := by
  constructor
  · intro sets
    cases sets
    rfl
  · rintro rfl
    exact .absent

@[simp] theorem sets_some_iff {α : Type} {denotes : Value → α → Prop} {before content : α}
    {value : Value} : Sets denotes before (some value) content ↔ denotes value content := by
  constructor
  · intro sets
    cases sets with
    | stated isDenoted => exact isDenoted
  · exact .stated

/-- A setting comes to something exactly if its value, where there is one, denotes something. -/
theorem exists_sets_iff {α : Type} {denotes : Value → α → Prop} {before : α}
    {value? : Option Value} :
    (∃ content, Sets denotes before value? content) ↔
      ∀ value ∈ value?, ∃ content, denotes value content := by
  cases value? <;> simp

/-- Reading an entry sets one of the two parts of what is read, by its key, or neither. -/
structure Reads {whole left right : Type} (make : left → right → whole)
    (step : whole → String × Value → Except Mismatch whole) (leftKey rightKey : String)
    (readLeft : Value → Except Mismatch left) (readRight : Value → Except Mismatch right) :
    Prop where
  make_inj : ∀ {a b a' b'}, make a b = make a' b' ↔ a = a' ∧ b = b'
  keys_ne : leftKey ≠ rightKey
  left : ∀ a b value, step (make a b) (leftKey, value) = (readLeft value).map (make · b)
  right : ∀ a b value, step (make a b) (rightKey, value) = (readRight value).map (make a ·)
  other : ∀ a b key value, key ≠ leftKey → key ≠ rightKey →
    step (make a b) (key, value) = .ok (make a b)

section

variable {whole left right : Type} {make : left → right → whole}
  {step : whole → String × Value → Except Mismatch whole} {leftKey rightKey : String}
  {readLeft : Value → Except Mismatch left} {readRight : Value → Except Mismatch right}

/-- Entries with distinct keys set each part to what the value under its own key denotes. -/
theorem Reads.foldlM_iff (reads : Reads make step leftKey rightKey readLeft readRight)
    {entries : List (String × Value)} (distinct : (entries.map Prod.fst).Nodup) {a a' : left}
    {b b' : right} :
    entries.foldlM step (make a b) = .ok (make a' b') ↔
      Sets (fun value content => readLeft value = .ok content) a (entries.lookup leftKey) a' ∧
        Sets (fun value content => readRight value = .ok content) b (entries.lookup rightKey)
          b' := by
  induction entries generalizing a b with
  | nil =>
    change Except.ok (make a b) = .ok (make a' b') ↔ _
    simp [reads.make_inj]
  | cons entry more inductionHypothesis =>
    obtain ⟨key, value⟩ := entry
    rw [List.map_cons, List.nodup_cons] at distinct
    have noMore : more.lookup key = none := by
      rw [List.lookup_eq_none_iff]
      intro entry member
      rw [bne_iff_ne]
      rintro rfl
      exact distinct.1 (List.mem_map.mpr ⟨entry, member, rfl⟩)
    rw [List.foldlM_cons, bind_eq_ok_iff]
    by_cases isLeft : key = leftKey
    · subst isLeft
      have notRight : (rightKey == key) = false := by simpa using reads.keys_ne.symm
      simp [reads.left, map_eq_ok_iff, List.lookup_cons, notRight,
        inductionHypothesis distinct.2, noMore]
    by_cases isRight : key = rightKey
    · subst isRight
      have notLeft : (leftKey == key) = false := by simpa using reads.keys_ne
      simp [reads.right, map_eq_ok_iff, List.lookup_cons, notLeft,
        inductionHypothesis distinct.2, noMore, and_comm]
    · have notLeft : (leftKey == key) = false := by simpa using Ne.symm isLeft
      have notRight : (rightKey == key) = false := by simpa using Ne.symm isRight
      simp [reads.other a b key value isLeft isRight, List.lookup_cons, notLeft, notRight,
        inductionHypothesis distinct.2]

end

theorem reads_setFilter : Reads Filter.mk setFilter "manifest_file" "extension" text text where
  make_inj := by simp
  keys_ne := by decide
  left := fun a b value => rfl
  right := fun a b value => rfl
  other := fun a b key value notLeft notRight => by simp [setFilter, notLeft, notRight]

theorem reads_setPolicy :
    Reads (fun passing failOnVerdict => Policy.mk ⟨passing⟩ failOnVerdict) setPolicy
      "passing_behaviors" "fail_on_verdict" texts boolean where
  make_inj := by simp
  keys_ne := by decide
  left := fun a b value => rfl
  right := fun a b value => rfl
  other := fun a b key value notLeft notRight => by simp [setPolicy, notLeft, notRight]

theorem reads_setSection : Reads Config.mk setSection "scanner" "verdict" filterOf policyOf where
  make_inj := by simp
  keys_ne := by decide
  left := fun a b value => rfl
  right := fun a b value => rfl
  other := fun a b key value notLeft notRight => by simp [setSection, notLeft, notRight]

end Config

end ConformanceReport
