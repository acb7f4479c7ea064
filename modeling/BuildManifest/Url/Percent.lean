import BuildManifest.Text.Numeral

/-!
# Percent-encoding

Characters that may not stand for themselves in a part of a URL are written as the bytes of their
UTF-8 form, each as a percent sign and two digits to base sixteen.

## What is here

* `fragmentSet`, `querySet`, `pathSet`, `userinfoSet`, … — the characters to encode in each part.
* `percentEncode` — a text in a part of a URL.
* `percentDecode` — the bytes of such a text.
-/

set_option autoImplicit false

namespace BuildManifest.Url

/-! ## What has to be encoded -/

/-- The control characters. -/
def controlSet (c : Char) : Bool := c.toNat < 0x20 || c.toNat = 0x7F

/-- What is encoded in a fragment. -/
def fragmentSet (c : Char) : Bool := controlSet c || " \"<>\x60".toList.contains c

/-- What is encoded in a path. -/
def pathSet (c : Char) : Bool := fragmentSet c || "#?\x7b\x7d".toList.contains c

/-- What is encoded in a user name or a password. -/
def userinfoSet (c : Char) : Bool := pathSet c || "/:;=@[\\]^|".toList.contains c

/-- What is encoded in a query. -/
def querySet (c : Char) : Bool := controlSet c || " \"#<>".toList.contains c

/-- What is encoded in a query of a special scheme. -/
def specialQuerySet (c : Char) : Bool := querySet c || c = '\''

/-! ## Encoding and decoding -/

/-- A digit to base sixteen, in upper case. -/
def upperDigit (n : Nat) : Char :=
  if n % 16 < 10 then Char.ofNat (48 + n % 16) else Char.ofNat (55 + n % 16)

/-- A byte as a percent sign and two digits. -/
def encodeByte (byte : UInt8) : List Char :=
  ['%', upperDigit (byte.toNat / 16), upperDigit byte.toNat]

/-- A character, encoded if it has to be or is not ASCII. -/
def encodeChar (encoded : Char → Bool) (c : Char) : List Char :=
  if encoded c || 0x80 ≤ c.toNat then (String.singleton c).toUTF8.toList.flatMap encodeByte else [c]

/-- A text in a part of a URL. -/
def percentEncode (encoded : Char → Bool) (text : List Char) : String :=
  String.ofList (text.flatMap (encodeChar encoded))

/-- The value of a digit to base sixteen. -/
def hexValue? (c : Char) : Option Nat := (Text.digitValue c).filter (· < 16)

/-- The bytes of a text in which percent signs before two digits start encoded bytes. -/
def percentDecode : List Char → List UInt8
  | [] => []
  | '%' :: high :: low :: rest =>
    match hexValue? high, hexValue? low with
    | some h, some l => UInt8.ofNat (16 * h + l) :: percentDecode rest
    | _, _ => 0x25 :: percentDecode (high :: low :: rest)
  | c :: rest => (String.singleton c).toUTF8.toList ++ percentDecode rest

end BuildManifest.Url
