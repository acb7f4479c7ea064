import BuildManifest.Text.Unseen

/-!
# Texts in messages

A text quoted so that a reader of a message can tell what is in it: double quotes around it, and
escapes for quotes, backslashes and what cannot be seen.
-/

set_option autoImplicit false

namespace BuildManifest.Text

/-- The digits of a number to base sixteen, in lower case. -/
def hexadecimal (n : Nat) : String := String.ofList (Nat.toDigits 16 n)

/-- One character of a quoted text. -/
def quotedChar (c : Char) : String :=
  if c = '"' then "\\\""
  else if c = '\\' then "\\\\"
  else if c = '\n' then "\\n"
  else if c = '\r' then "\\r"
  else if c = '\t' then "\\t"
  else if c = '\x00' then "\\0"
  else if isUnseen c then "\\u\x7b" ++ hexadecimal c.toNat ++ "\x7d"
  else String.singleton c

/-- A text in double quotes. -/
def quoted (text : String) : String :=
  "\"" ++ String.join (text.toList.map quotedChar) ++ "\""

end BuildManifest.Text
