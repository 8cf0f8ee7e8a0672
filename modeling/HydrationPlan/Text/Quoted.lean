import HydrationPlan.Text.Unprintable

/-!
# Quoted text

A text is shown between double quotes. Quote, backslash and the common controls have short
escapes; a character that would not be visible on its own is written by its code point.
-/

namespace HydrationPlan.Text

/-- The code point in lower-case hexadecimal, as in `\u{301}`. -/
def codePointEscape (c : Char) : List Char :=
  '\\' :: 'u' :: '\x7b' :: (Nat.toDigits 16 c.toNat ++ ['\x7d'])

def escapeChar (c : Char) : List Char :=
  if c = '"' then ['\\', '"']
  else if c = '\\' then ['\\', '\\']
  else if c = '\n' then ['\\', 'n']
  else if c = '\r' then ['\\', 'r']
  else if c = '\t' then ['\\', 't']
  else if c = '\x00' then ['\\', '0']
  else if isExtending c || isFiller c || isUnprintable c then codePointEscape c
  else [c]

def quoted (s : String) : String :=
  String.ofList ('"' :: (s.toList.flatMap escapeChar ++ ['"']))

end HydrationPlan.Text
