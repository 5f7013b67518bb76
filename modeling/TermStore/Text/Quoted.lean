import TermStore.Text.Blank
import TermStore.Text.Glyphless

/-!
# Quoted texts in messages

A message shows a text in double quotes. The quote, the backslash and the usual controls have
short escapes; every other character without a glyph of its own is written by its code point.
-/

namespace TermStore.Text

/-- Is the character one that shows no glyph of its own? -/
def isGlyphless (c : Char) : Bool :=
  if 0x20 ≤ c.toNat && c.toNat < 0x7F then false else inRanges glyphlessRanges c.toNat

/-- The characters that show one character inside quotes. -/
def quoteChar (c : Char) : List Char :=
  if c = '"' then ['\\', '"']
  else if c = '\\' then ['\\', '\\']
  else if c = '\x00' then ['\\', '0']
  else if c = '\t' then ['\\', 't']
  else if c = '\n' then ['\\', 'n']
  else if c = '\r' then ['\\', 'r']
  else if isGlyphless c then
    '\\' :: 'u' :: Char.ofNat 0x7B :: (Nat.toDigits 16 c.toNat ++ [Char.ofNat 0x7D])
  else [c]

/-- The text in double quotes. -/
def quoted (text : String) : String :=
  String.ofList ('"' :: (text.toList.flatMap quoteChar ++ ['"']))

end TermStore.Text
