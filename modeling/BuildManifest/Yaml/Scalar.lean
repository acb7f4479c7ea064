import BuildManifest.Decimal.Numeral
import BuildManifest.Tree.Scalar

/-!
# Plain scalars

What an unquoted YAML scalar stands for: nothing, a truth value, a number, or a text.

## What is here

* `isNull`, `bool?`, `integer?`, `float?` — the spellings of each kind.
* `readPlain` — the kind of a plain scalar; integers beyond 64 bits but within 128 are refused.
* `standsForItself` — the texts that may be written plain because they are read back as texts.
-/

set_option autoImplicit false

namespace BuildManifest.Yaml

open BuildManifest.Text

/-- What a plain scalar stands for. -/
inductive PlainReading where
  /-- A value that is not a text. -/
  | value (tree : Tree)
  /-- An integer that no number of a tree can hold. -/
  | tooWide (value : Int)
  /-- A text. -/
  | text
  deriving Repr

/-- The words for no value. -/
def isNull (text : String) : Bool := ["null", "Null", "NULL", "~"].contains text

/-- The words for the truth values. -/
def bool? (text : String) : Option Bool :=
  if ["true", "True", "TRUE"].contains text then some true
  else if ["false", "False", "FALSE"].contains text then some false
  else none

/-- Digits with a leading zero, after an optional sign: never a number. -/
def isZeroPadded (text : List Char) : Bool :=
  let digits := match text with
    | '-' :: rest => rest
    | '+' :: rest => rest
    | _ => text
  match digits with
  | '0' :: rest => isDigits rest
  | _ => false

/-- The magnitude of an unsigned numeral: with a radix mark, or decimal without padding. -/
def magnitude? : List Char → Option Nat
  | '0' :: 'x' :: digits => readDigits 16 digits
  | '0' :: 'o' :: digits => readDigits 8 digits
  | '0' :: 'b' :: digits => readDigits 2 digits
  | digits => if isZeroPadded digits then none else readDigits 10 digits

/-- An integer of any size, with an optional sign. -/
def integer? : List Char → Option Int
  | '-' :: rest => (magnitude? rest).map fun n => -(n : Int)
  | '+' :: rest => (magnitude? rest).map fun n => (n : Int)
  | text => (magnitude? text).map fun n => (n : Int)

/-- A finite decimal, or one of the words for the values that are not finite. -/
def float? (text : List Char) : Option Binary64 :=
  let word := String.ofList text
  let infinities := [".inf", ".Inf", ".INF"]
  if infinities.contains word ∨ (infinities.map ("+" ++ ·)).contains word then
    some .infinity
  else if (infinities.map ("-" ++ ·)).contains word then some Binary64.infinity.neg
  else if [".nan", ".NaN", ".NAN"].contains word then some .nan
  else
    let number := match text with
      | '-' :: rest => (Binary64.ofNumeral? rest).map Binary64.neg
      | '+' :: rest => Binary64.ofNumeral? rest
      | _ => Binary64.ofNumeral? text
    number.filter Binary64.isFinite

/-- What an integer stands for; one of more than 128 bits is not an integer. -/
def readInteger (text : String) : Option PlainReading :=
  match integer? text.toList with
  | some value =>
    if -Int.pow 2 63 ≤ value ∧ value < Int.pow 2 64 then some (.value (.number (.int value)))
    else if -Int.pow 2 127 ≤ value ∧ value < Int.pow 2 128 then some (.tooWide value)
    else none
  | none => none

/-- What a plain scalar stands for. -/
def readPlain (text : String) : PlainReading :=
  if text.isEmpty ∨ isNull text then .value .null
  else
    match bool? text, readInteger text with
    | some value, _ => .value (.bool value)
    | none, some reading => reading
    | none, none =>
      if isZeroPadded text.toList then .text
      else
        match float? text.toList with
        | some value => .value (.number (.float value))
        | none => .text

/-- Whether a text written plain is read back as that text.  Padded digits are texts, but are
quoted all the same. -/
def standsForItself (text : String) : Bool :=
  match readPlain text with
  | .text => !isZeroPadded text.toList
  | _ => false

end BuildManifest.Yaml
