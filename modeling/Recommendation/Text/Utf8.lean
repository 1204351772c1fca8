/-!
Texts out of bytes. Bytes that are no text can be refused, or each broken piece becomes one
replacement character. A piece is as long as it can be read as the start of a character.
-/

namespace Recommendation.Text

def isContinuation (b : UInt8) : Bool := 0x80 ≤ b && b < 0xC0

/-- The byte can stand second behind the first byte of a character of three or four bytes. -/
def isSecond (first second : UInt8) : Bool :=
  if first == 0xE0 then 0xA0 ≤ second && second < 0xC0
  else if first == 0xED then 0x80 ≤ second && second < 0xA0
  else if first == 0xF0 then 0x90 ≤ second && second < 0xC0
  else if first == 0xF4 then 0x80 ≤ second && second < 0x90
  else isContinuation second

/-- The character of the bytes at the front, none for a broken piece, and how many bytes more than
one belong to it. -/
def frontChar (first : UInt8) (rest : List UInt8) : Option Char × Nat :=
  let low (b : UInt8) : Nat := b.toNat % 64
  if first < 0x80 then (some (Char.ofNat first.toNat), 0)
  else if 0xC2 ≤ first && first < 0xE0 then
    match rest with
    | b :: _ =>
      if isContinuation b then (some (Char.ofNat (first.toNat % 32 * 64 + low b)), 1) else (none, 0)
    | [] => (none, 0)
  else if 0xE0 ≤ first && first < 0xF0 then
    match rest with
    | b :: more =>
      if isSecond first b then
        match more with
        | c :: _ =>
          if isContinuation c then
            (some (Char.ofNat ((first.toNat % 16 * 64 + low b) * 64 + low c)), 2)
          else (none, 1)
        | [] => (none, 1)
      else (none, 0)
    | [] => (none, 0)
  else if 0xF0 ≤ first && first < 0xF5 then
    match rest with
    | b :: more =>
      if isSecond first b then
        match more with
        | c :: more =>
          if isContinuation c then
            match more with
            | d :: _ =>
              if isContinuation d then
                (some (Char.ofNat (((first.toNat % 8 * 64 + low b) * 64 + low c) * 64 + low d)), 3)
              else (none, 2)
            | [] => (none, 2)
          else (none, 1)
        | [] => (none, 1)
      else (none, 0)
    | [] => (none, 0)
  else (none, 0)

/-- The characters of bytes, none for each broken piece. The first `skip` bytes are passed over. -/
def pieces (skip : Nat) : List UInt8 → List (Option Char)
  | [] => []
  | b :: rest =>
    match skip with
    | skip + 1 => pieces skip rest
    | 0 =>
      let (c, more) := frontChar b rest
      c :: pieces more rest

def ofBytes? (bytes : List UInt8) : Option String :=
  ((pieces 0 bytes).mapM id).map String.ofList

/-- The text of bytes, with a replacement character for each broken piece. -/
def ofBytesLossy (bytes : List UInt8) : String :=
  String.ofList ((pieces 0 bytes).map (·.getD '\ufffd'))

end Recommendation.Text
