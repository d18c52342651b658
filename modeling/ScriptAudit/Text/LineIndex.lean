import ScriptAudit.Text.Bytes

namespace ScriptAudit.Text

structure Position where
  line : UInt32
  column : UInt32
deriving DecidableEq, Repr

structure LineIndex where
  text : List Char
  starts : List Nat
deriving Repr

namespace LineIndex

def startsAfter : Nat → List Char → List Nat
  | _, [] => []
  | offset, c :: rest =>
    let next := offset + c.utf8Size
    if c == '\n' then next :: startsAfter next rest else startsAfter next rest

def ofText (text : List Char) : LineIndex := ⟨text, 0 :: startsAfter 0 text⟩

def lineCount (index : LineIndex) : Nat := index.starts.length

-- The line of the last start that is not past the offset.
def lineOf (index : LineIndex) (offset : Nat) : Nat :=
  (index.starts.takeWhile (· ≤ offset)).length - 1

def startOf (index : LineIndex) (line : Nat) : Nat := index.starts.getD line 0

-- Line and column of an offset. Where the bytes from the line's start to the offset are no slice
-- of the text, the column is their number.
def position (index : LineIndex) (offset : Nat) : Position :=
  let line := index.lineOf offset
  let start := index.startOf line
  let column :=
    match slice index.text start offset with
    | some before => before.length
    | none => offset - start
  ⟨UInt32.ofNat line, UInt32.ofNat column⟩

def dropReturn (line : List Char) : List Char :=
  if line.getLast? == some '\r' then line.dropLast else line

-- The text of a line without its `\n` or `\r\n`, empty for a line that is not there.
def lineText (index : LineIndex) (line : Nat) : List Char :=
  match index.starts[line]? with
  | none => []
  | some start =>
    let stop :=
      match index.starts[line + 1]? with
      | some next => next - 1
      | none => byteSize index.text
    dropReturn ((slice index.text start stop).getD [])

end LineIndex

end ScriptAudit.Text
