import Reconcile.Pattern.Category
import Reconcile.Text.Lowercase

/-!
# Quoted text

A text in quotes, as diagnostics show it: quotes, backslashes and the common control
characters are escaped, and a character that would not show by itself is written by its number.
-/

namespace Reconcile.Text

/-- Whether a character shows by itself: it is no control, format, private or unassigned character, no
separator other than the blank, and no mark that joins the character before it. -/
def isVisible (c : Char) : Bool :=
  let hidden := ["Cc", "Cf", "Cs", "Co", "Cn", "Zl", "Zp", "Zs", "Mn", "Me"]
  c == ' ' || !hidden.contains (category c)

/-- A character inside quotes. -/
def shownChar (c : Char) : List Char :=
  if c = '"' then ['\\', '"']
  else if c = '\\' then ['\\', '\\']
  else if c = '\n' then ['\\', 'n']
  else if c = '\r' then ['\\', 'r']
  else if c = '\t' then ['\\', 't']
  else if c.toNat = 0 then ['\\', '0']
  else if isVisible c then [c]
  else "\\u\x7b".toList ++ Nat.toDigits 16 c.toNat ++ ['\x7d']

/-- A text in quotes. -/
def shown (text : String) : String := String.ofList ('"' :: text.toList.flatMap shownChar ++ ['"'])

end Reconcile.Text
