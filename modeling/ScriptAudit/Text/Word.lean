namespace ScriptAudit.Text

def digitsValue (digits : List Char) : Nat :=
  digits.foldl (fun value digit => value * 10 + (digit.toNat - '0'.toNat)) 0

def readDigits (digits : List Char) : Option UInt32 :=
  if digits.isEmpty || !digits.all Char.isDigit then none
  else
    let value := digitsValue digits
    if value < UInt32.size then some (UInt32.ofNat value) else none

def readWord : List Char → Option UInt32
  | '+' :: digits => readDigits digits
  | digits => readDigits digits

end ScriptAudit.Text
