/-!
Contract: JSON strings in printable ASCII alone.

Owns:

- `quoteAscii`. Every character outside printable ASCII is escaped, those beyond
  U+FFFF as a pair of surrogates.
-/

namespace Annotations.Text

def hexDigitOf (value : Nat) : Char :=
  "0123456789abcdef".toList.getD value '0'

/-- Four hexadecimal digits after a backslash and a `u`. -/
def escapeUnit (unit : Nat) : List Char :=
  ['\\', 'u', hexDigitOf (unit / 4096 % 16), hexDigitOf (unit / 256 % 16),
    hexDigitOf (unit / 16 % 16),
    hexDigitOf (unit % 16)]

def escapeAscii (c : Char) : List Char :=
  if c = '"' then ['\\', '"']
  else if c = '\\' then ['\\', '\\']
  else if c = '\n' then ['\\', 'n']
  else if c = '\r' then ['\\', 'r']
  else if c = '\t' then ['\\', 't']
  else if c = '\x08' then ['\\', 'b']
  else if c = '\x0c' then ['\\', 'f']
  else if 0x20 ≤ c.toNat ∧ c.toNat ≤ 0x7E then [c]
  else if c.toNat < 0x10000 then escapeUnit c.toNat
  else
    let above := c.toNat - 0x10000
    escapeUnit (0xD800 + above / 0x400) ++ escapeUnit (0xDC00 + above % 0x400)

def quoteAscii (text : String) : String :=
  String.ofList ('"' :: (text.toList.flatMap escapeAscii ++ ['"']))

end Annotations.Text
