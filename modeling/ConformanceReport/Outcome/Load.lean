import ConformanceReport.Json.Skip
import ConformanceReport.Kind
import ConformanceReport.Outcome.Basic

/-!
# Result files

A result file holds one outcome, as a JSON object with the members `case` and `behavior` or as a
list of the two values in that order. Other members are passed over. The value of `case` is read
as a whole before it is judged; `behavior` has to be a string. Whatever the defect, a file is
refused with the first one in the order of the text.
-/

namespace ConformanceReport

namespace Outcome

open Json

/-- The two members of an outcome. -/
inductive Field where
  | caseId
  | behavior
  deriving DecidableEq, Repr

/-- The key of a member. -/
def Field.key : Field → String
  | .caseId => "case"
  | .behavior => "behavior"

/-- The member with a given key. -/
def Field.ofKey? (key : String) : Option Field :=
  if key = "case" then some .caseId
  else if key = "behavior" then some .behavior
  else none

/-- Doubles in messages are positional from `1e-5` up to `1e16`. -/
def messageLayout : Decimal.Layout where
  positional magnitude := -5 < magnitude && magnitude ≤ 16
  tie := .toEven
  notANumber := "NaN"
  infinity := "inf"

/-- What is wanted where a value of another kind stands. -/
inductive Wanted where
  | text
  | outcome
  deriving DecidableEq, Repr

/-- The name of what is wanted. -/
def Wanted.shown : Wanted → String
  | .text => "a string"
  | .outcome => "struct TestOutcome"

/-- Why a file holds no outcome. -/
inductive Defect where
  | grammar (cause : Cause)
  | missing (field : Field)
  | duplicate (field : Field)
  | wrongLength (length : Nat)
  | noCaseId
  | wrongKind (found : Kind) (wanted : Wanted)

/-- The wording of a defect. -/
def Defect.message : Defect → String
  | .grammar cause => cause.message
  | .missing field => "missing field `" ++ field.key ++ "`"
  | .duplicate field => "duplicate field `" ++ field.key ++ "`"
  | .wrongLength length =>
    "invalid length " ++ toString length ++ ", expected struct TestOutcome with 2 elements"
  | .noCaseId => "data did not match any variant of untagged enum CaseId"
  | .wrongKind found wanted => found.mismatch messageLayout wanted.shown

/-- A reader whose refusals are defects of the grammar. -/
def grammatical {α : Type} (result : Except (Fault Cause) α) : Except (Fault Defect) α :=
  result.mapError (Fault.map .grammar)

/-- The kind of a JSON value. -/
def kindOf : Value → Kind
  | .null => .null
  | .boolean value => .boolean value
  | .number (.natural value) => .integer value.toNat
  | .number (.negative value) => .integer value
  | .number (.floating value) => .floating value
  | .text value => .text value
  | .list _ => .list
  | .object _ => .object

/-- The kind of a value that is not wanted. A scalar is read to its end; a container is left at
its opening bracket. The input starts at the first byte of the value. -/
def readKind (input : Bytes) : Except (Fault Cause) (Kind × Bytes) :=
  match input with
  | [] => .error ⟨.endInValue, [], .peeked⟩
  | byte :: rest =>
    if byte = ascii '[' then .ok (.list, byte :: rest)
    else if byte = ascii '\x7b' then .ok (.object, byte :: rest)
    else do
      let scalar ← readScalar (byte :: rest)
      .ok (kindOf scalar.value, scalar.rest)

/-- Refuses the value at the front of the input as being of the wrong kind. -/
def refuseKind {α : Type} (wanted : Wanted) (input : Bytes) : Except (Fault Defect) α := do
  let (found, rest) ← grammatical (readKind input)
  .error ⟨.wrongKind found wanted, rest, .consumed⟩

/-- The number of containers that may be open at once. -/
def nestingLimit : Nat := 127

/-- The rest after an optional closing bracket, before which only insignificant bytes stand. -/
def afterObjectEnd (input : Bytes) : Bytes :=
  match skipBlank input with
  | [] => []
  | byte :: rest => if byte = ascii '\x7d' then rest else byte :: rest

/-- As `afterObjectEnd` for a list, where a separator and what is insignificant after it are
passed over too. -/
def afterListEnd (input : Bytes) : Bytes :=
  match skipBlank input with
  | [] => []
  | byte :: rest =>
    if byte = ascii ']' then rest
    else if byte = ascii ',' then skipBlank rest
    else byte :: rest

/-- The value of `case`; `after` says where a value that is no identifier is refused. -/
def readCaseId (after : Bytes → Bytes) : Reader Defect CaseId := fun input => do
  let value ← grammatical (readValue (nestingLimit - 1) input)
  match CaseId.ofJson? value.value with
  | some caseId => .ok (value.replace caseId)
  | none => .error ⟨.noCaseId, after value.rest, .consumed⟩

/-- The value of `behavior`. -/
def readLabel : Reader Defect String := fun input =>
  match found : skipBlank input with
  | [] => .error ⟨.grammar .endInValue, [], .peeked⟩
  | byte :: rest =>
    if byte = ascii '"' then do
      let text ← grammatical (readText rest)
      .ok (text.behindFirst found)
    else refuseKind .text (byte :: rest)

/-- The members of an outcome that were found so far. -/
structure Found where
  caseId : Option CaseId
  label : Option String
  deriving DecidableEq, Repr

namespace Found

/-- Nothing found yet. -/
def none : Found := ⟨.none, .none⟩

/-- Whether a member was found. -/
def has (found : Found) : Field → Bool
  | .caseId => found.caseId.isSome
  | .behavior => found.label.isSome

/-- The outcome, if both members were found; otherwise the first that is missing. -/
def outcome (found : Found) : Except Field Outcome :=
  match found.caseId, found.label with
  | some caseId, some label => .ok ⟨caseId, label⟩
  | .none, _ => .error .caseId
  | some _, .none => .error .behavior

end Found

/-- One member of an outcome's object, which starts at the quote of its key. A key that was seen
before is refused whatever follows it. -/
def readOutcomeMember (found : Found) : Reader Defect Found := fun input => do
  let key ← grammatical (readKey input)
  match Field.ofKey? key.value with
  | .none =>
    let colon ← grammatical (readColon key.rest)
    let skipped ← grammatical (skipValue colon.rest)
    .ok (((key.andThen colon).andThen skipped).replace found)
  | some field =>
    if found.has field then .error ⟨.duplicate field, afterObjectEnd key.rest, .consumed⟩
    else
      let colon ← grammatical (readColon key.rest)
      match field with
      | .caseId =>
        let caseId ← readCaseId afterObjectEnd colon.rest
        .ok (((key.andThen colon).andThen caseId).replace ⟨some caseId.value, found.label⟩)
      | .behavior =>
        let label ← readLabel colon.rest
        .ok (((key.andThen colon).andThen label).replace ⟨found.caseId, some label.value⟩)

/-- The members of an outcome's object after its opening bracket, and what follows the object. -/
def readOutcomeObject (first : Bool) (found : Found) (input : Bytes) :
    Except (Fault Defect) (Outcome × Bytes) :=
  match nextMember first input with
  | .error fault => .error (fault.map .grammar)
  | .ok (.close rest _) =>
    match found.outcome with
    | .ok outcome => .ok (outcome, rest)
    | .error field => .error ⟨.missing field, rest, .consumed⟩
  | .ok (.entry start _length_le) =>
    match readOutcomeMember found start with
    | .error fault => .error fault
    | .ok member => readOutcomeObject false member.value member.rest
termination_by input.length
decreasing_by exact Nat.lt_of_lt_of_le member.shorter _length_le

/-- The closing bracket of an outcome's list. -/
def readListEnd (input : Bytes) : Except (Fault Cause) Bytes :=
  match skipBlank input with
  | [] => .error ⟨.endInList, [], .peeked⟩
  | byte :: rest =>
    if byte = ascii ']' then .ok rest
    else if byte = ascii ',' then
      match skipBlank rest with
      | [] => .error ⟨.trailingCharacters, [], .peeked⟩
      | byte :: rest =>
        .error ⟨if byte = ascii ']' then .trailingComma else .trailingCharacters,
          byte :: rest, .peeked⟩
    else .error ⟨.trailingCharacters, byte :: rest, .peeked⟩

/-- The values of an outcome's list after its opening bracket, and what follows the list. -/
def readOutcomeList (input : Bytes) : Except (Fault Defect) (Outcome × Bytes) := do
  match ← grammatical (nextItem true input) with
  | .close rest _ => .error ⟨.wrongLength 0, rest, .consumed⟩
  | .entry start _ =>
    let caseId ← readCaseId afterListEnd start
    match ← grammatical (nextItem false caseId.rest) with
    | .close rest _ => .error ⟨.wrongLength 1, rest, .consumed⟩
    | .entry start _ =>
      let label ← readLabel start
      let rest ← grammatical (readListEnd label.rest)
      .ok (⟨caseId.value, label.value⟩, rest)

/-- An outcome at the front of a text, and what follows it. -/
def readFront (input : Bytes) : Except (Fault Defect) (Outcome × Bytes) :=
  match skipBlank input with
  | [] => .error ⟨.grammar .endInValue, [], .peeked⟩
  | byte :: rest =>
    if byte = ascii '[' then readOutcomeList rest
    else if byte = ascii '\x7b' then readOutcomeObject true .none rest
    else refuseKind .outcome (byte :: rest)

/-- Demands that nothing but insignificant bytes is left. -/
def demandEnd (input : Bytes) : Except (Fault Cause) Unit :=
  match skipBlank input with
  | [] => .ok ()
  | byte :: rest => .error ⟨.trailingCharacters, byte :: rest, .peeked⟩

/-- The outcome that a whole content holds, or the fault in it. -/
def read (content : Bytes) : Except (Fault Defect) Outcome := do
  let (outcome, rest) ← readFront content
  grammatical (demandEnd rest)
  .ok outcome

/-- A refused content: the defect and its position. -/
structure Malformed where
  defect : Defect
  position : Position

/-- The wording of a refusal. -/
def Malformed.message (malformed : Malformed) : String :=
  malformed.defect.message ++ " at line " ++ toString malformed.position.line ++ " column "
    ++ toString malformed.position.column

/-- The outcome that a content holds, or the refusal of the content. -/
def load (content : Bytes) : Except Malformed Outcome :=
  (read content).mapError fun fault => ⟨fault.cause, fault.position content⟩

end Outcome

namespace CaseId

open Json

/-- A refused case identifier. A text that is one JSON value but no identifier has no position. -/
inductive Refusal where
  | grammar (cause : Cause) (position : Position)
  | noCaseId

/-- The wording of a refusal. -/
def Refusal.message : Refusal → String
  | .grammar cause position =>
    (Outcome.Malformed.mk (.grammar cause) position).message
  | .noCaseId => Outcome.Defect.noCaseId.message

/-- The identifier that a whole JSON text holds. -/
def load (content : Bytes) : Except Refusal CaseId :=
  let refuse (fault : Fault Cause) : Refusal := .grammar fault.cause (fault.position content)
  match readValue Outcome.nestingLimit content with
  | .error fault => .error (refuse fault)
  | .ok value =>
    match ofJson? value.value with
    | none => .error .noCaseId
    | some caseId => (Outcome.demandEnd value.rest).mapError refuse |>.map fun _ => caseId

end CaseId

end ConformanceReport
