import A2dpSink.Text.Hex
import A2dpSink.Text.Utf8
import A2dpSink.Text.Visible

/-!
# Quoted text

Text between double quotes in which every character can be told apart: the quote and the backslash
stand behind a backslash, four controls have short names, and every character without a plain
visible form is written by its code point. Bytes that belong to no character are written as such.
-/

namespace A2dpSink.Text.Quoted

/-- How one character is written between the quotes. -/
def escape (c : Char) : List Char :=
  if c = '"' then ['\\', '"']
  else if c = '\\' then ['\\', '\\']
  else if c = '\x00' then ['\\', '0']
  else if c = '\t' then ['\\', 't']
  else if c = '\r' then ['\\', 'r']
  else if c = '\n' then ['\\', 'n']
  else if Visible.isPlain c then [c]
  else ['\\', 'u', '\x7b'] ++ Hex.digits .lower c.toNat ++ ['\x7d']

/-- How one byte outside all characters is written between the quotes. -/
def escapeStray (b : UInt8) : List Char := ['\\', 'x'] ++ Hex.fixed .upper 2 b.toNat

/-- A text in quotes. -/
def ofString (s : String) : String :=
  "\"" ++ String.ofList (s.toList.flatMap escape) ++ "\""

/-- How one piece of a byte string is written between the quotes. -/
def escapeChunk : Utf8.Chunk → List Char
  | .char c => escape c
  | .stray b => escapeStray b

/-- A byte string in quotes, read as UTF-8 as far as it is that. -/
def ofBytes (bytes : List UInt8) : String :=
  "\"" ++ String.ofList ((Utf8.chunks bytes).flatMap escapeChunk) ++ "\""

end A2dpSink.Text.Quoted
