import Accelerator.Table
import Accelerator.Text.Blank

/-! Settings files: one `key: value` or `key = value` a line, with comments from `#` on. -/

namespace Accelerator

abbrev Entries := Table String String

namespace Entries

def isSeparator (c : Char) : Bool :=
  c = ':' || c = '='

def withoutComment (line : List Char) : List Char :=
  trim (line.takeWhile (· ≠ '#'))

def ofLine? (line : List Char) : Option (String × String) :=
  (cutAt? isSeparator (withoutComment line)).map fun kv =>
    (String.ofList (trim kv.1), String.ofList (trim kv.2))

/-- The last value of a key wins. -/
def ofText (text : List Char) : Entries :=
  Table.ofPairs ((pieces '\n' text).filterMap ofLine?)

def read (text : String) : Entries :=
  ofText text.toList

/-- No entries at all when the bytes are no text. -/
def ofBytes? (content : ByteArray) : Option Entries :=
  (String.fromUTF8? content).map read

end Entries

end Accelerator
