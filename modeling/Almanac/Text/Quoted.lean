import Almanac.Text.Case
import Almanac.Text.PrintableTable

/-!
Texts in double quotes, as they are shown in messages. A character that would not show, or would run
into the one before it, is written as a number in hexadecimal.
-/

namespace Almanac.Text

def unprintableRanges : List (Nat × Nat) := rangesOf unprintableTable

def joiningRanges : List (Nat × Nat) := rangesOf joiningTable

def writeHex (n : Nat) : List Char :=
  Nat.toDigits 16 n

def escapeChar (c : Char) : List Char :=
  if c = '\x00' then ['\\', '0']
  else if c = '\t' then ['\\', 't']
  else if c = '\r' then ['\\', 'r']
  else if c = '\n' then ['\\', 'n']
  else if c = '"' then ['\\', '"']
  else if c = '\\' then ['\\', '\\']
  else if inRanges joiningRanges c || inRanges unprintableRanges c then
    '\\' :: 'u' :: '\x7b' :: (writeHex c.toNat ++ ['\x7d'])
  else [c]

def quoted (cs : List Char) : List Char :=
  '"' :: (cs.flatMap escapeChar ++ ['"'])

end Almanac.Text
