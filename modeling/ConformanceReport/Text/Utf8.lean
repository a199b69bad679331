/-!
# UTF-8 text in byte sequences

A byte sequence is cut into pieces: encoded scalar values, and broken parts. A broken part is the
longest start of an encoded scalar that the sequence does not complete, or a single byte that
starts none. Strict decoding succeeds when no part is broken; lossy decoding shows each broken
part as one replacement character.
-/

namespace ConformanceReport

/-- A sequence of bytes, such as the content of a file or the name of one. -/
abbrev Bytes := List UInt8

/-- The byte that encodes an ASCII character. -/
def ascii (character : Char) : UInt8 :=
  character.toNat.toUInt8

/-- The UTF-8 encoding of a text. -/
def utf8 (text : String) : Bytes :=
  text.toList.flatMap String.utf8EncodeChar

/-- The encoding of the empty text is empty. -/
@[simp] theorem utf8_empty : utf8 "" = [] := by
  simp [utf8]

/-- Encoding respects concatenation. -/
@[simp] theorem utf8_append (left right : String) :
    utf8 (left ++ right) = utf8 left ++ utf8 right := by
  simp [utf8]

namespace Utf8

/-- A maximal unit of a byte sequence read as UTF-8. -/
inductive Piece where
  /-- A complete encoded scalar value. -/
  | scalar (character : Char)
  /-- Bytes that encode nothing. -/
  | broken (bytes : Bytes)
  deriving DecidableEq, Repr

/-- A byte that continues an encoded scalar. -/
def isTail (byte : UInt8) : Bool :=
  0x80 ≤ byte && byte ≤ 0xBF

/-- The bytes that may follow a lead byte of three or four. The narrowed ranges leave out
overlong forms, surrogates and values above the last scalar. -/
def allowsSecond (lead second : UInt8) : Bool :=
  if lead = 0xE0 then 0xA0 ≤ second && second ≤ 0xBF
  else if lead = 0xED then 0x80 ≤ second && second ≤ 0x9F
  else if lead = 0xF0 then 0x90 ≤ second && second ≤ 0xBF
  else if lead = 0xF4 then 0x80 ≤ second && second ≤ 0x8F
  else isTail second

/-- The six payload bits of a continuing byte. -/
def payload (byte : UInt8) : Nat :=
  byte.toNat % 64

/-- The first piece of the sequence `lead :: rest`, and the bytes after it. -/
def split (lead : UInt8) (rest : Bytes) : Piece × Bytes :=
  if lead < 0x80 then (.scalar (Char.ofNat lead.toNat), rest)
  else if lead < 0xC2 then (.broken [lead], rest)
  else if lead < 0xE0 then
    match rest with
    | [] => (.broken [lead], rest)
    | second :: afterSecond =>
      if isTail second then
        (.scalar (Char.ofNat (lead.toNat % 32 * 64 + payload second)), afterSecond)
      else (.broken [lead], rest)
  else if lead < 0xF0 then
    match rest with
    | [] => (.broken [lead], rest)
    | second :: afterSecond =>
      if allowsSecond lead second then
        match afterSecond with
        | [] => (.broken [lead, second], afterSecond)
        | third :: afterThird =>
          if isTail third then
            (.scalar (Char.ofNat
              ((lead.toNat % 16 * 64 + payload second) * 64 + payload third)), afterThird)
          else (.broken [lead, second], afterSecond)
      else (.broken [lead], rest)
  else if lead < 0xF5 then
    match rest with
    | [] => (.broken [lead], rest)
    | second :: afterSecond =>
      if allowsSecond lead second then
        match afterSecond with
        | [] => (.broken [lead, second], afterSecond)
        | third :: afterThird =>
          if isTail third then
            match afterThird with
            | [] => (.broken [lead, second, third], afterThird)
            | fourth :: afterFourth =>
              if isTail fourth then
                (.scalar (Char.ofNat
                  (((lead.toNat % 8 * 64 + payload second) * 64 + payload third) * 64
                    + payload fourth)), afterFourth)
              else (.broken [lead, second, third], afterThird)
          else (.broken [lead, second], afterSecond)
      else (.broken [lead], rest)
  else (.broken [lead], rest)

/-- A piece takes at least its lead byte. -/
theorem split_length_le (lead : UInt8) (rest : Bytes) :
    (split lead rest).2.length ≤ rest.length := by
  unfold split
  repeat' split
  all_goals simp
  all_goals omega

/-- The pieces of a byte sequence, in order. -/
def pieces : Bytes → List Piece
  | [] => []
  | lead :: rest => (split lead rest).1 :: pieces (split lead rest).2
termination_by bytes => bytes.length
decreasing_by
  have := split_length_le lead rest
  simp
  omega

namespace Piece

/-- The character of a complete piece. -/
def scalar? : Piece → Option Char
  | .scalar character => some character
  | .broken _ => none

/-- The character that shows a piece: a broken part is shown as the replacement character. -/
def shown : Piece → Char
  | .scalar character => character
  | .broken _ => '\uFFFD'

end Piece

/-- The text that a byte sequence encodes, if every piece is complete. -/
def decode? (bytes : Bytes) : Option String :=
  ((pieces bytes).mapM Piece.scalar?).map String.ofList

/-- The text that shows a byte sequence, with one replacement character for each broken part. -/
def lossy (bytes : Bytes) : String :=
  String.ofList ((pieces bytes).map Piece.shown)

/-- The number of bytes before the first broken part. -/
def validLength (bytes : Bytes) : Nat :=
  (((pieces bytes).map Piece.scalar?).takeWhile Option.isSome).foldl
    (fun length found => length + (found.elim 0 Char.utf8Size)) 0

end Utf8

end ConformanceReport
