namespace ScriptAudit.Text.Utf8

def isContinuation (b : UInt8) : Bool := 0x80 ≤ b && b ≤ 0xBF

def lowBits (b : UInt8) : Nat := b.toNat % 64

def isSecondOfThree (first second : UInt8) : Bool :=
  isContinuation second && (first != 0xE0 || 0xA0 ≤ second) && (first != 0xED || second ≤ 0x9F)

def isSecondOfFour (first second : UInt8) : Bool :=
  isContinuation second && (first != 0xF0 || 0x90 ≤ second) && (first != 0xF4 || second ≤ 0x8F)

-- The characters of the bytes, with nothing in the place of a bad piece.
def pieces : List UInt8 → List (Option Char)
  | [] => []
  | a :: rest =>
    if a < 0x80 then some (Char.ofNat a.toNat) :: pieces rest
    else if 0xC2 ≤ a && a ≤ 0xDF then
      match rest with
      | [] => [none]
      | b :: afterB =>
        if isContinuation b then
          some (Char.ofNat (a.toNat % 32 * 64 + lowBits b)) :: pieces afterB
        else none :: pieces (b :: afterB)
    else if 0xE0 ≤ a && a ≤ 0xEF then
      match rest with
      | [] => [none]
      | b :: afterB =>
        if isSecondOfThree a b then
          match afterB with
          | [] => [none]
          | c :: afterC =>
            if isContinuation c then
              some (Char.ofNat ((a.toNat % 16 * 64 + lowBits b) * 64 + lowBits c)) :: pieces afterC
            else none :: pieces (c :: afterC)
        else none :: pieces (b :: afterB)
    else if 0xF0 ≤ a && a ≤ 0xF4 then
      match rest with
      | [] => [none]
      | b :: afterB =>
        if isSecondOfFour a b then
          match afterB with
          | [] => [none]
          | c :: afterC =>
            if isContinuation c then
              match afterC with
              | [] => [none]
              | d :: afterD =>
                if isContinuation d then
                  let high := (a.toNat % 8 * 64 + lowBits b) * 64 + lowBits c
                  some (Char.ofNat (high * 64 + lowBits d)) :: pieces afterD
                else none :: pieces (d :: afterD)
            else none :: pieces (c :: afterC)
        else none :: pieces (b :: afterB)
    else none :: pieces rest

def decode (bytes : List UInt8) : Option (List Char) := (pieces bytes).mapM id

def decodeReplacing (bytes : List UInt8) : List Char :=
  (pieces bytes).map fun piece => piece.getD (Char.ofNat 0xFFFD)

def encode (text : String) : List UInt8 := text.toUTF8.toList

end ScriptAudit.Text.Utf8
