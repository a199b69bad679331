import ConformanceReport.Json.Number
import ConformanceReport.Json.Text

/-!
# JSON values

The tree a JSON text denotes, and its reader. Nesting is limited: the reader is given the number
of containers that may still be opened. The steps between the items of a list and between the
members of an object are functions of their own, since a record is read by the same steps.
-/

namespace ConformanceReport

namespace Json

/-- A JSON value. Members keep their order and may repeat a key. -/
inductive Value where
  | null
  | boolean (value : Bool)
  | number (value : Number)
  | text (value : String)
  | list (items : List Value)
  | object (members : List (String × Value))

/-- Expects the remaining bytes of a literal name. -/
def readName (expected : Bytes) (input : Bytes) : Except (Fault Cause) (Optional Unit input) :=
  match expected, input with
  | [], input => .ok (.nothing () input)
  | _ :: _, [] => .error ⟨.endInValue, [], .consumed⟩
  | letter :: expected, byte :: rest =>
    if byte = letter then do
      let name ← readName expected rest
      .ok (name.behind byte)
    else .error ⟨.literalExpected, rest, .consumed⟩

/-- A literal name whose first byte was consumed. -/
def readLiteralName (name : String) (value : Value) (first : UInt8) (rest : Bytes) :
    Except (Fault Cause) (Parsed Value (first :: rest)) := do
  let found ← readName ((utf8 name).drop 1) rest
  .ok ((found.behindRequired first).replace value)

/-- A value that is no container. The input starts at its first byte. -/
def readScalar : Reader Cause Value
  | [] => .error ⟨.endInValue, [], .peeked⟩
  | byte :: rest =>
    if byte = ascii 'n' then readLiteralName "null" .null byte rest
    else if byte = ascii 't' then readLiteralName "true" (.boolean true) byte rest
    else if byte = ascii 'f' then readLiteralName "false" (.boolean false) byte rest
    else if byte = ascii '-' || (digit? byte).isSome then do
      let number ← readNumber (byte :: rest)
      .ok (number.map .number)
    else if byte = ascii '"' then do
      let text ← readText rest
      .ok ((text.behind byte).map .text)
    else .error ⟨.valueExpected, byte :: rest, .peeked⟩

/-- What stands next inside a container. -/
inductive Next (input : Bytes) where
  /-- The closing bracket, and what follows it. -/
  | close (rest : Bytes) (shorter : rest.length < input.length)
  /-- An item or a member, which starts at `start`. -/
  | entry (start : Bytes) (length_le : start.length ≤ input.length)

namespace Next

/-- The closing bracket, after insignificant bytes. -/
def closing {input rest : Bytes} {byte : UInt8} (found : skipBlank input = byte :: rest) :
    Next input :=
  .close rest (skipBlank_shorter found)

/-- An entry that starts after insignificant bytes. -/
def entering {input start : Bytes} (found : skipBlank input = start) : Next input :=
  .entry start (found ▸ skipBlank_length_le input)

/-- An entry that starts after a separator, with insignificant bytes before and after it. -/
def separated {input rest start : Bytes} {byte : UInt8}
    (found : skipBlank input = byte :: rest) (following : skipBlank rest = start) :
    Next input :=
  .entry start
    (Nat.le_trans (following ▸ skipBlank_length_le rest) (Nat.le_of_lt (skipBlank_shorter found)))

end Next

/-- What stands next in a list: its end, or an item after the separator that all but the first
call for. -/
def nextItem (first : Bool) (input : Bytes) : Except (Fault Cause) (Next input) :=
  match found : skipBlank input with
  | [] => .error ⟨.endInList, [], .peeked⟩
  | byte :: rest =>
    if byte = ascii ']' then .ok (.closing found)
    else if first then .ok (.entering found)
    else if byte ≠ ascii ',' then .error ⟨.listSeparatorExpected, byte :: rest, .peeked⟩
    else match following : skipBlank rest with
      | [] => .error ⟨.endInValue, [], .peeked⟩
      | byte :: start =>
        if byte = ascii ']' then .error ⟨.trailingComma, byte :: start, .peeked⟩
        else .ok (.separated found following)

/-- What stands next in an object: its end, or a member after the separator that all but the
first call for. A member starts with the quote of its key. -/
def nextMember (first : Bool) (input : Bytes) : Except (Fault Cause) (Next input) :=
  match found : skipBlank input with
  | [] => .error ⟨.endInObject, [], .peeked⟩
  | byte :: rest =>
    if byte = ascii '\x7d' then .ok (.closing found)
    else if first then
      if byte = ascii '"' then .ok (.entering found)
      else .error ⟨.keyNotText, byte :: rest, .peeked⟩
    else if byte ≠ ascii ',' then .error ⟨.memberSeparatorExpected, byte :: rest, .peeked⟩
    else match following : skipBlank rest with
      | [] => .error ⟨.endInValue, [], .peeked⟩
      | byte :: start =>
        if byte = ascii '"' then .ok (.separated found following)
        else if byte = ascii '\x7d' then .error ⟨.trailingComma, byte :: start, .peeked⟩
        else .error ⟨.keyNotText, byte :: start, .peeked⟩

/-- The key of a member that starts at its quote. -/
def readKey : Reader Cause String
  | [] => .error ⟨.endInText, [], .consumed⟩
  | quote :: rest => do
    let key ← readText rest
    .ok (key.behind quote)

/-- The colon between a key and its value. -/
def readColon : Reader Cause Unit := fun input =>
  match found : skipBlank input with
  | [] => .error ⟨.endInObject, [], .peeked⟩
  | byte :: rest =>
    if byte = ascii ':' then .ok ((Parsed.single () byte rest).behindBlank found)
    else .error ⟨.colonExpected, byte :: rest, .peeked⟩

/-- What is left of a container when its next entry starts at a given place. -/
def Parsed.enter {α : Type} {input start : Bytes} (length_le : start.length ≤ input.length)
    (parsed : Parsed α start) : Parsed α input :=
  ⟨parsed.value, parsed.rest, Nat.lt_of_lt_of_le parsed.shorter length_le⟩

/-- The items of a list after its opening bracket, added to those already read. -/
def readItems (readItem : Reader Cause Value) (items : List Value) (input : Bytes) :
    Except (Fault Cause) (Parsed (List Value) input) :=
  match nextItem items.isEmpty input with
  | .error fault => .error fault
  | .ok (.close rest shorter) => .ok ⟨items.reverse, rest, shorter⟩
  | .ok (.entry start length_le) =>
    match readItem start with
    | .error fault => .error fault
    | .ok item =>
      match readItems readItem (item.value :: items) item.rest with
      | .error fault => .error fault
      | .ok all => .ok ((item.andThen all).enter length_le)
termination_by input.length
decreasing_by exact Nat.lt_of_lt_of_le item.shorter length_le

/-- A key, a colon and a value. -/
def readMember (readItem : Reader Cause Value) : Reader Cause (String × Value) := fun input => do
  let key ← readKey input
  let colon ← readColon key.rest
  let item ← readItem colon.rest
  .ok (((key.andThen colon).andThen item).replace (key.value, item.value))

/-- The members of an object after its opening bracket, added to those already read. -/
def readMembers (readItem : Reader Cause Value) (members : List (String × Value))
    (input : Bytes) : Except (Fault Cause) (Parsed (List (String × Value)) input) :=
  match nextMember members.isEmpty input with
  | .error fault => .error fault
  | .ok (.close rest shorter) => .ok ⟨members.reverse, rest, shorter⟩
  | .ok (.entry start length_le) =>
    match readMember readItem start with
    | .error fault => .error fault
    | .ok member =>
      match readMembers readItem (member.value :: members) member.rest with
      | .error fault => .error fault
      | .ok all => .ok ((member.andThen all).enter length_le)
termination_by input.length
decreasing_by exact Nat.lt_of_lt_of_le member.shorter length_le

/-- A value, after insignificant bytes. At most `room` containers may be nested in each other. -/
def readValue : (room : Nat) → Reader Cause Value
  | room, input =>
    match found : skipBlank input with
    | [] => .error ⟨.endInValue, [], .peeked⟩
    | byte :: rest =>
      if byte = ascii '[' then
        match room with
        | 0 => .error ⟨.nestedTooDeeply, byte :: rest, .peeked⟩
        | room + 1 => do
          let items ← readItems (readValue room) [] rest
          .ok ((items.map .list).behindFirst found)
      else if byte = ascii '\x7b' then
        match room with
        | 0 => .error ⟨.nestedTooDeeply, byte :: rest, .peeked⟩
        | room + 1 => do
          let members ← readMembers (readValue room) [] rest
          .ok ((members.map .object).behindFirst found)
      else do
        let scalar ← readScalar (byte :: rest)
        .ok (scalar.behindBlank found)

end Json

end ConformanceReport
