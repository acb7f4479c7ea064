import BuildManifest.Decimal.Notation

/-!
# Manifest trees

The untyped value both dialects of a manifest are read into, and that merging and normalization
work on.

## What is here

* `Number`, `Tree` — scalars, sequences, mappings in insertion order, and tagged values.
* `Tree.same` — when two trees are the same mapping key.  It is coarser than equality: the order
  of a mapping and the sign of zero do not matter.
* `Mapping` — the operations on a mapping's entries: look-up, insertion in place, and removal by
  moving the last entry into the gap.
-/

set_option autoImplicit false

namespace BuildManifest

/-- A number: an integer from `-2 ^ 63` to `2 ^ 64 - 1`, or a double precision number. -/
inductive Number where
  /-- An integer. -/
  | int (value : Int)
  /-- A double precision number. -/
  | float (value : Binary64)
  deriving DecidableEq, Repr, Inhabited

/-- A value of either dialect. -/
inductive Tree where
  /-- No value. -/
  | null
  /-- A truth value. -/
  | bool (value : Bool)
  /-- A number. -/
  | number (value : Number)
  /-- A text. -/
  | string (value : String)
  /-- A list of values. -/
  | sequence (items : List Tree)
  /-- Keys and their values in order; no two keys are the `same`. -/
  | mapping (entries : List (Tree × Tree))
  /-- A value with an application-specific tag, named without its exclamation mark. -/
  | tagged (name : String) (content : Tree)
  deriving Repr, Inhabited

/-- The entries of a mapping. -/
abbrev Mapping := List (Tree × Tree)

namespace Number

/-- Numbers that are the same as keys: floats compare numerically. -/
def same : Number → Number → Bool
  | .int a, .int b => a == b
  | .float a, .float b => a.same b
  | _, _ => false

/-- The number's text in both dialects and in messages. -/
def text : Number → String
  | .int value => toString value
  | .float value =>
    if value.isNaN then ".nan"
    else if value.isInfinite then if value.isNegative then "-.inf" else ".inf"
    else plainDecimal.render value

/-- The value of an integer from zero up. -/
def natural? : Number → Option Nat
  | .int value => if 0 ≤ value then some value.toNat else none
  | .float _ => none

end Number

namespace Tree

mutual

/-- Trees that are the same as mapping keys. -/
def same : Tree → Tree → Bool
  | .null, .null => true
  | .bool a, .bool b => a == b
  | .number a, .number b => a.same b
  | .string a, .string b => a == b
  | .sequence as, .sequence bs => sameItems as bs
  | .mapping as, .mapping bs => as.length == bs.length && coveredBy as bs
  | .tagged n a, .tagged m b => n == m && same a b
  | _, _ => false

/-- Items that are the same one by one. -/
def sameItems : List Tree → List Tree → Bool
  | [], [] => true
  | a :: as, b :: bs => same a b && sameItems as bs
  | _, _ => false

/-- Every entry of the first mapping has a same entry in the second. -/
def coveredBy : List (Tree × Tree) → List (Tree × Tree) → Bool
  | [], _ => true
  | (key, value) :: rest, others =>
    others.any (fun entry => same key entry.1 && same value entry.2) && coveredBy rest others

end

/-- The name of a tag: its text without one leading exclamation mark, unless that is all. -/
def withoutBang (text : String) : String :=
  match text.toList with
  | '!' :: first :: rest => String.ofList (first :: rest)
  | _ => text

/-- The value under all its tags. -/
def untagged : Tree → Tree
  | .tagged _ content => untagged content
  | tree => tree

/-- The text of a string, tagged or not. -/
def text? (tree : Tree) : Option String :=
  match tree.untagged with
  | .string value => some value
  | _ => none

/-- The entries of a mapping, tagged or not. -/
def entries? (tree : Tree) : Option Mapping :=
  match tree.untagged with
  | .mapping entries => some entries
  | _ => none

end Tree

namespace Mapping

/-- The value of a key. -/
def find? : Mapping → Tree → Option Tree
  | [], _ => none
  | (present, value) :: rest, key => if key.same present then some value else find? rest key

/-- The value of a string key. -/
def get? (entries : Mapping) (name : String) : Option Tree := find? entries (.string name)

/-- Whether a key is present. -/
def contains (entries : Mapping) (key : Tree) : Bool := (find? entries key).isSome

/-- Give a key a value: in place when the key is present, at the end otherwise. -/
def insert : Mapping → Tree → Tree → Mapping
  | [], key, value => [(key, value)]
  | (present, old) :: rest, key, value =>
    if key.same present then (present, value) :: rest
    else (present, old) :: insert rest key value

/-- The entries of which only the last one of equal keys counts, each at its first place. -/
def ofList (entries : Mapping) : Mapping :=
  entries.foldl (fun done entry => insert done entry.1 entry.2) []

/-- Remove a key; the last entry takes its place. -/
def erase (entries : Mapping) (key : Tree) : Mapping :=
  match entries with
  | [] => []
  | (present, value) :: rest =>
    if key.same present then
      match rest.getLast? with
      | some last => last :: rest.dropLast
      | none => []
    else (present, value) :: erase rest key

/-- The keys in order. -/
def keys (entries : Mapping) : List Tree := entries.map (·.1)

/-! ## Small laws -/

@[simp] theorem find?_nil (key : Tree) : find? [] key = none := rfl

theorem find?_cons (present value : Tree) (rest : Mapping) (key : Tree) :
    find? ((present, value) :: rest) key =
      if key.same present then some value else find? rest key := rfl

/-- Inserting keeps the keys that are there and their order. -/
theorem keys_insert (entries : Mapping) (key value : Tree) :
    keys (insert entries key value) =
      if contains entries key then keys entries else keys entries ++ [key] := by
  induction entries with
  | nil => rfl
  | cons entry rest ih =>
    obtain ⟨present, old⟩ := entry
    cases h : key.same present
    · simp only [insert, h, keys, List.map_cons, Bool.false_eq_true, if_false, contains,
        find?_cons] at ih ⊢
      rw [ih]
      by_cases found : (find? rest key).isSome = true <;> simp [found]
    · simp [insert, h, keys, contains, find?_cons]

end Mapping

end BuildManifest
