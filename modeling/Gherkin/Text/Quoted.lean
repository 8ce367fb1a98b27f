import Gherkin.Unicode.Printing

/-!
# Quoted text

A text in double quotes, in which everything that a reader could not see or could mistake is spelled
out: quotes, backslashes, controls, unassigned characters, and characters that would attach to the
one before them.
-/

namespace Gherkin.Text

/-- How a character is written in a quoted text. -/
def quotedChar (c : Char) : Text :=
  if c = '\x00' then ['\\', '0']
  else if c = '\t' then ['\\', 't']
  else if c = '\r' then ['\\', 'r']
  else if c = '\n' then ['\\', 'n']
  else if c = '"' ∨ c = '\\' then ['\\', c]
  else if Unicode.isPrintedAsIs c then [c]
  else "\\u\x7b".toList ++ Nat.toDigits 16 c.toNat ++ ['\x7d']

def quoted (t : Text) : Text := ['"'] ++ t.flatMap quotedChar ++ ['"']

end Gherkin.Text
