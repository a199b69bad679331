import ConformanceReport.Proofs.Json.Skip

/-!
# What becomes of a value

`Sound` narrows the grammar to values of which all strings denote texts, with no more open
containers than there is room for, and says what becomes of them: they are read to their end if all
their numbers have a denotation, and refused otherwise (`Sound.meets`). The entries of lists and of
objects are read by functions of their own, so `EntriesMeet` speaks of both at once.
-/

namespace ConformanceReport.Json

/-! ## Sound values -/

/-- What becomes of a part of a text: it is read to its end, or a number in it is refused. -/
inductive Fate where
  | read
  | refused
  deriving DecidableEq, Repr

/-- What becomes of two parts, one after the other: the second matters if the first is read. -/
def Fate.andThen : Fate → Fate → Fate
  | .read, later => later
  | .refused, _ => .refused

/-- What stands in front of the value of an entry whose key, if it has one, denotes a text. -/
inductive SoundLabel : Bracket → Bytes → Prop where
  | item : SoundLabel .list []
  | member {key between after : Bytes} {text : String} (isKey : TextLiteral key text)
      (blankBetween : Blank between) (blankAfter : Blank after) :
      SoundLabel .object (key ++ (between ++ ascii ':' :: after))

/-- A part of a text in which all strings denote texts and no more containers are open at once than
there is room for, and what becomes of it. Only numbers without a denotation are refused. -/
inductive Sound : Fate → Part → Nat → Bytes → Prop where
  | name {room : Nat} {name : String} (known : name ∈ ["null", "true", "false"]) :
      Sound .read .value room (utf8 name)
  | number {room : Nat} {bytes : Bytes} {literal : Literal} {number : Number}
      (isNumber : NumberForm bytes literal) (denotes : literal.denoted = .ok number) :
      Sound .read .value room bytes
  | outOfRange {room : Nat} {bytes : Bytes} {literal : Literal} {left : Nat}
      (isNumber : NumberForm bytes literal) (exceeds : literal.denoted = .error left) :
      Sound .refused .value room bytes
  | text {room : Nat} {bytes : Bytes} {text : String} (isText : TextLiteral bytes text) :
      Sound .read .value room bytes
  | empty {room : Nat} {bracket : Bracket} {inside : Bytes} (blank : Blank inside) :
      Sound .read .value (room + 1) (bracket.opening :: (inside ++ [bracket.closing]))
  | entries {fate later : Fate} {room : Nat} {bracket : Bracket} {before label value tail : Bytes}
      (blank : Blank before) (isLabel : SoundLabel bracket label)
      (isValue : Sound fate .value room value) (isTail : Sound later (.tail bracket) room tail) :
      Sound (fate.andThen later) .value (room + 1)
        (bracket.opening :: (before ++ (label ++ (value ++ tail))))
  | close {room : Nat} {bracket : Bracket} {before : Bytes} (blank : Blank before) :
      Sound .read (.tail bracket) room (before ++ [bracket.closing])
  | next {fate later : Fate} {room : Nat} {bracket : Bracket}
      {before between label value tail : Bytes} (blank : Blank before)
      (blankBetween : Blank between) (isLabel : SoundLabel bracket label)
      (isValue : Sound fate .value room value) (isTail : Sound later (.tail bracket) room tail) :
      Sound (fate.andThen later) (.tail bracket) room
        (before ++ ascii ',' :: (between ++ (label ++ (value ++ tail))))

/-- A label whose key denotes a text is one whose key has a form. -/
theorem SoundLabel.labelForm {bracket : Bracket} {before label : Bytes} (blank : Blank before)
    (isLabel : SoundLabel bracket label) : LabelForm bracket (before ++ label) := by
  cases isLabel with
  | item =>
    rw [List.append_nil]
    exact .item blank
  | member isKey blankBetween blankAfter =>
    exact .member blank isKey.textForm blankBetween blankAfter

/-- A sound part of a text is one of the grammar. -/
theorem Sound.form {fate : Fate} {part : Part} {room : Nat} {text : Bytes}
    (sound : Sound fate part room text) : Form part text := by
  induction sound with
  | name known => exact .name known
  | number isNumber => exact .number isNumber
  | outOfRange isNumber => exact .number isNumber
  | text isText => exact .text isText.textForm
  | empty blank => exact .empty blank
  | entries blank isLabel _ _ isValue isTail =>
    rw [← List.append_assoc]
    exact .entries (isLabel.labelForm blank) isValue isTail
  | close blank => exact .close blank
  | @next _ _ _ _ _ between label _ _ blank blankBetween isLabel _ _ isValue isTail =>
    rw [← List.append_assoc between]
    exact .next blank (isLabel.labelForm blankBetween) isValue isTail

/-! ## One step of the readers -/

/-- A list ends at its closing byte. -/
theorem readItems_close (readItem : Reader Cause Value) (items : List Value) {before : Bytes}
    (blank : Blank before) (rest : Bytes) :
    Yields (readItems readItem items (before ++ ascii ']' :: rest)) items.reverse rest := by
  obtain ⟨shorter, isNext⟩ := nextItem_close items.isEmpty blank rest
  rw [readItems.eq_def]
  simp only [isNext]
  exact Yields.ok_iff.mpr ⟨rfl, rfl⟩

/-- An item of a list is read, and then those that follow it. -/
theorem readItems_next (readItem : Reader Cause Value) {items : List Value} {separator : Bytes}
    {byte : UInt8} (separates : Separates items.isEmpty separator) (starts : StartsValue byte)
    (more : Bytes) :
    ∃ length_le, readItems readItem items (separator ++ byte :: more) =
      readItem (byte :: more) >>= fun item =>
        readItems readItem (item.value :: items) item.rest >>= fun all =>
          .ok ((item.andThen all).enter length_le) := by
  obtain ⟨length_le, isNext⟩ := nextItem_entry separates starts.1 (starts.2 .list) more
  refine ⟨length_le, ?_⟩
  rw [readItems.eq_def]
  simp only [isNext]
  cases readItem (byte :: more) with
  | error fault => rfl
  | ok item =>
    dsimp only
    change _ = readItems readItem (item.value :: items) item.rest >>= _
    cases readItems readItem (item.value :: items) item.rest with
    | error fault => rfl
    | ok all => rfl

/-- An object ends at its closing byte. -/
theorem readMembers_close (readItem : Reader Cause Value) (members : List (String × Value))
    {before : Bytes} (blank : Blank before) (rest : Bytes) :
    Yields (readMembers readItem members (before ++ ascii '\x7d' :: rest)) members.reverse
      rest := by
  obtain ⟨shorter, isNext⟩ := nextMember_close members.isEmpty blank rest
  rw [readMembers.eq_def]
  simp only [isNext]
  exact Yields.ok_iff.mpr ⟨rfl, rfl⟩

/-- A member of an object is read, and then those that follow it. -/
theorem readMembers_next (readItem : Reader Cause Value) {members : List (String × Value)}
    {separator : Bytes} (separates : Separates members.isEmpty separator) (more : Bytes) :
    ∃ length_le, readMembers readItem members (separator ++ ascii '"' :: more) =
      readMember readItem (ascii '"' :: more) >>= fun member =>
        readMembers readItem (member.value :: members) member.rest >>= fun all =>
          .ok ((member.andThen all).enter length_le) := by
  obtain ⟨length_le, isNext⟩ := nextMember_entry separates more
  refine ⟨length_le, ?_⟩
  rw [readMembers.eq_def]
  simp only [isNext]
  cases readMember readItem (ascii '"' :: more) with
  | error fault => rfl
  | ok member =>
    dsimp only
    change _ = readMembers readItem (member.value :: members) member.rest >>= _
    cases readMembers readItem (member.value :: members) member.rest with
    | error fault => rfl
    | ok all => rfl

/-- A list is read by its items, if there is room for it. -/
theorem readValue_list (room : Nat) {input text : Bytes}
    (found : skipBlank input = ascii '[' :: text) :
    readValue (room + 1) input =
      readItems (readValue room) [] text >>= fun items =>
        .ok ((items.map .list).behindFirst found) := by
  rw [readValue.eq_def]
  dsimp only
  split
  · next isNil =>
    rw [found] at isNil
    cases isNil
  next found' =>
  obtain ⟨rfl, rfl⟩ := List.cons.inj (found.symm.trans found')
  rfl

/-- An object is read by its members, if there is room for it. -/
theorem readValue_object (room : Nat) {input text : Bytes}
    (found : skipBlank input = ascii '\x7b' :: text) :
    readValue (room + 1) input =
      readMembers (readValue room) [] text >>= fun members =>
        .ok ((members.map .object).behindFirst found) := by
  rw [readValue.eq_def]
  dsimp only
  split
  · next isNil =>
    rw [found] at isNil
    cases isNil
  next found' =>
  obtain ⟨rfl, rfl⟩ := List.cons.inj (found.symm.trans found')
  rfl

/-! ## Results -/

/-- What a result makes of the part of a text in front of a rest. -/
def Meets {α : Type} {input : Bytes} (fate : Fate) (result : Except (Fault Cause) (Parsed α input))
    (rest : Bytes) : Prop :=
  match fate with
  | .read => ∃ value, Yields result value rest
  | .refused => Refused (· = .numberOutOfRange) result

namespace Meets

variable {α β : Type} {input inner middle rest : Bytes} {fate later : Fate}
  {first : Except (Fault Cause) (Parsed β inner)}

/-- Two parts are read one after the other, or the first refused one refuses both. -/
theorem bind {next : Parsed β inner → Except (Fault Cause) (Parsed α input)}
    (meets : Meets fate first middle)
    (follows : ∀ found shorter, Meets later (next ⟨found, middle, shorter⟩) rest) :
    Meets (fate.andThen later) (first >>= next) rest := by
  cases fate with
  | read =>
    obtain ⟨found, isFound⟩ := meets
    obtain ⟨shorter, rfl⟩ := isFound.eq_ok
    exact follows found shorter
  | refused =>
    have refused : Refused (· = Cause.numberOutOfRange) first := meets
    exact refused.bind_left next

/-- A part behind one that is read decides on both. -/
theorem bind_intro {found : β} {next : Parsed β inner → Except (Fault Cause) (Parsed α input)}
    (read : Yields first found middle)
    (follows : ∀ shorter, Meets fate (next ⟨found, middle, shorter⟩) rest) :
    Meets fate (first >>= next) rest := by
  obtain ⟨shorter, rfl⟩ := read.eq_ok
  exact follows shorter

/-- What is made of a part does not change with the value that it is taken for. -/
theorem restate {change : Parsed β inner → Parsed α input} (meets : Meets fate first rest)
    (same : ∀ parsed, (change parsed).rest = parsed.rest) :
    Meets fate (first >>= fun parsed => .ok (change parsed)) rest := by
  cases fate with
  | read =>
    obtain ⟨value, isValue⟩ := meets
    obtain ⟨shorter, rfl⟩ := isValue.eq_ok
    exact ⟨_, Yields.ok_iff.mpr ⟨rfl, same _⟩⟩
  | refused =>
    have refused : Refused (· = Cause.numberOutOfRange) first := meets
    exact refused.bind_left _

end Meets

/-! ## Parts of a text -/

/-- What becomes of a value, whatever stands before and after it. -/
def ValueMeets (fate : Fate) (room : Nat) (text : Bytes) : Prop :=
  ∀ before rest, Blank before → Ends rest →
    Meets fate (readValue room (before ++ (text ++ rest))) rest

/-- What becomes of the entries of a container up to its end, whatever follows it. The first of them
may have been read. -/
def EntriesMeet (fate : Fate) (room : Nat) : Bracket → Bool → Bytes → Prop
  | .list, first, text => ∀ items rest, items.isEmpty = first →
    Meets fate (readItems (readValue room) items (text ++ rest)) rest
  | .object, first, text => ∀ members rest, members.isEmpty = first →
    Meets fate (readMembers (readValue room) members (text ++ rest)) rest

/-- The end of a container is read. -/
theorem EntriesMeet.close (room : Nat) (bracket : Bracket) (first : Bool) {before : Bytes}
    (blank : Blank before) :
    EntriesMeet .read room bracket first (before ++ [bracket.closing]) := by
  cases bracket with
  | list =>
    intro items rest _
    rw [List.append_assoc, List.singleton_append]
    exact ⟨_, readItems_close (readValue room) items blank rest⟩
  | object =>
    intro members rest _
    rw [List.append_assoc, List.singleton_append]
    exact ⟨_, readMembers_close (readValue room) members blank rest⟩

/-- A key and a colon do not change what becomes of the value behind them. -/
theorem ValueMeets.member {fate : Fate} {room : Nat} {key between after value rest : Bytes}
    {text : String} (valueMeets : ValueMeets fate room value) (isKey : TextLiteral key text)
    (blankBetween : Blank between) (blankAfter : Blank after) (ends : Ends rest) :
    Meets fate (readMember (readValue room)
      (key ++ (between ++ ascii ':' :: (after ++ (value ++ rest))))) rest := by
  obtain ⟨body, rfl, denotes⟩ := isKey
  rw [List.cons_append, List.append_assoc, List.singleton_append]
  refine Meets.bind_intro (readKey_yields_iff.mpr ⟨body, rfl, denotes⟩) fun _ => ?_
  refine Meets.bind_intro (readColon_yields_iff.mpr ⟨between, blankBetween, rfl⟩) fun _ => ?_
  exact (valueMeets after rest blankAfter ends).restate fun _ => rfl

/-- An entry is read in front of those that follow it, unless its value is refused. -/
theorem EntriesMeet.next {fate later : Fate} {room : Nat} {bracket : Bracket} {first : Bool}
    {separator label value tail : Bytes} (separates : Separates first separator)
    (isLabel : SoundLabel bracket label) (isValue : Form .value value)
    (isTail : Form (.tail bracket) tail) (valueMeets : ValueMeets fate room value)
    (tailMeets : EntriesMeet later room bracket false tail) :
    EntriesMeet (fate.andThen later) room bracket first
      (separator ++ (label ++ (value ++ tail))) := by
  cases isLabel with
  | item =>
    intro items rest isFirst
    subst isFirst
    have meets := valueMeets [] (tail ++ rest) blank_nil (isTail.tail_ends rest)
    obtain ⟨byte, more, rfl, starts⟩ := isValue.value_head
    have shape : separator ++ ([] ++ (byte :: more ++ tail)) ++ rest =
        separator ++ byte :: (more ++ (tail ++ rest)) := by simp
    obtain ⟨_, step⟩ := readItems_next (readValue room) separates starts (more ++ (tail ++ rest))
    rw [shape, step]
    exact meets.bind fun item _ => (tailMeets (item :: items) rest rfl).restate fun _ => rfl
  | @member key between after text isKey blankBetween blankAfter =>
    intro members rest isFirst
    subst isFirst
    have meets := valueMeets.member isKey blankBetween blankAfter (isTail.tail_ends rest)
    obtain ⟨body, rfl, -⟩ := isKey
    have shape : separator ++ (ascii '"' :: (body ++ [ascii '"']) ++
        (between ++ ascii ':' :: after) ++ (value ++ tail)) ++ rest =
        separator ++ ascii '"' :: (body ++ [ascii '"'] ++
          (between ++ ascii ':' :: (after ++ (value ++ (tail ++ rest))))) := by simp
    obtain ⟨_, step⟩ := readMembers_next (readValue room) separates (body ++ [ascii '"'] ++
      (between ++ ascii ':' :: (after ++ (value ++ (tail ++ rest)))))
    rw [shape, step]
    exact meets.bind fun member _ => (tailMeets (member :: members) rest rfl).restate fun _ => rfl

/-- A container has the fate of its entries, if there is room for it. -/
theorem ValueMeets.container {fate : Fate} {room : Nat} {bracket : Bracket} {text : Bytes}
    (entriesMeet : EntriesMeet fate room bracket true text) :
    ValueMeets fate (room + 1) (bracket.opening :: text) := by
  intro before rest blank _
  have found := skipBlank_append_cons blank bracket.isBlank_opening (text ++ rest)
  rw [List.cons_append]
  cases bracket with
  | list =>
    rw [readValue_list room found]
    exact (entriesMeet [] rest rfl).restate fun _ => rfl
  | object =>
    rw [readValue_object room found]
    exact (entriesMeet [] rest rfl).restate fun _ => rfl

/-- A scalar has its fate whatever room there is. -/
theorem ValueMeets.scalar {fate : Fate} (room : Nat) {text : Bytes} (isScalar : ∃ first more,
      text = first :: more ∧ isBlank first = false ∧ Bracket.opened? first = none)
    (meets : ∀ rest, Ends rest → Meets fate (readScalar (text ++ rest)) rest) :
    ValueMeets fate room text := by
  intro before rest blank ends
  obtain ⟨first, more, rfl, significant, noContainer⟩ := isScalar
  rw [List.cons_append,
    readValue_scalar room (skipBlank_append_cons blank significant (more ++ rest)) noContainer]
  exact (meets rest ends).restate fun _ => rfl

/-- What becomes of a part of a text. -/
def PartMeets (fate : Fate) : Part → Nat → Bytes → Prop
  | .value, room, text => ValueMeets fate room text
  | .tail bracket, room, text => EntriesMeet fate room bracket false text

/-- Sound parts meet their fates. -/
theorem Sound.partMeets {fate : Fate} {part : Part} {room : Nat} {text : Bytes}
    (sound : Sound fate part room text) : PartMeets fate part room text := by
  -- The room is an index of the grammar, so the induction needs no bound of its own.
  induction sound with
  | @name room name known =>
    refine ValueMeets.scalar room ?_ fun rest _ => readScalar_name_complete known rest
    simp only [List.mem_cons, List.not_mem_nil, or_false] at known
    rcases known with rfl | rfl | rfl
    all_goals exact ⟨_, _, rfl, by decide, by decide⟩
  | number isNumber denotes =>
    obtain ⟨first, more, shape, significant, noContainer, -⟩ := isNumber.plain_head
    exact ValueMeets.scalar _ ⟨first, more, shape, significant, noContainer⟩ fun rest ends =>
      ⟨_, readScalar_number_complete isNumber denotes ends⟩
  | outOfRange isNumber exceeds =>
    obtain ⟨first, more, shape, significant, noContainer, -⟩ := isNumber.plain_head
    exact ValueMeets.scalar _ ⟨first, more, shape, significant, noContainer⟩ fun rest ends =>
      readScalar_number_refused isNumber exceeds ends
  | @text room bytes text isText =>
    refine ValueMeets.scalar room ?_ fun rest _ => ⟨_, readScalar_text_complete isText rest⟩
    obtain ⟨body, rfl, -⟩ := isText
    exact ⟨_, _, rfl, by decide, by decide⟩
  | @empty room bracket inside blank =>
    exact ValueMeets.container (.close room bracket true blank)
  | entries blank isLabel isValue isTail valueMeets tailMeets =>
    exact ValueMeets.container
      (.next (.first blank) isLabel isValue.form isTail.form valueMeets tailMeets)
  | @close room bracket before blank => exact EntriesMeet.close room bracket false blank
  | @next fate later room bracket before between label value tail blank blankBetween isLabel isValue
      isTail valueMeets tailMeets =>
    -- The comma and the blanks around it are what separates the entry from those before it.
    have entriesMeet : EntriesMeet (fate.andThen later) room bracket false
        ((before ++ ascii ',' :: between) ++ (label ++ (value ++ tail))) :=
      .next (.later blank blankBetween) isLabel isValue.form isTail.form valueMeets tailMeets
    rw [List.append_assoc, List.cons_append] at entriesMeet
    exact entriesMeet

/-- A sound value meets its fate behind insignificant bytes. -/
theorem Sound.meets {fate : Fate} {room : Nat} {before text rest : Bytes}
    (sound : Sound fate .value room text) (blank : Blank before) (ends : Ends rest) :
    Meets fate (readValue room (before ++ (text ++ rest))) rest :=
  sound.partMeets before rest blank ends

end ConformanceReport.Json
