import BuildManifest.Tree.KeyText
import Mathlib.Data.List.Infix

/-!
# How keys are spelt

The name that a key gives is the text it is written as.  Numbers are written with digits, signs
and a few letters, and whatever is written of a list, a mapping or a tag has one of their marks in
it.  So a name that is an ordinary word is the name of one key only.

## What is here

* `Number.numeric_text` — the characters of numbers.
* `Pen.Begins`, `begins_printNode` — **a pen takes nothing back**.
* `Word`, `scalarText?_eq_word_iff`, `keyText_eq_word_iff` — **a word is spelt as a text only**.
-/

set_option autoImplicit false

namespace BuildManifest

/-! ## Numbers -/

/-- What numbers are written with. -/
def isNumeric (c : Char) : Bool := c.isDigit || ['-', '.', 'e', 'n', 'a', 'i', 'f'].contains c

theorem isNumeric_of_mem_nat {n : Nat} {c : Char} (member : c ∈ (toString n).toList) :
    isNumeric c = true := by
  rw [Nat.toString_eq_repr, Nat.toList_repr] at member
  rw [isNumeric, Nat.isDigit_of_mem_toDigits (by decide) (by decide) member, Bool.true_or]

theorem isNumeric_of_mem_int {n : Int} {c : Char} (member : c ∈ (toString n).toList) :
    isNumeric c = true := by
  cases n with
  | ofNat n => exact isNumeric_of_mem_nat member
  | negSucc n =>
    rw [show toString (Int.negSucc n) = "-" ++ (n + 1).repr from rfl,
      String.toList_append] at member
    rcases List.mem_append.1 member with sign | digit
    · obtain rfl := List.mem_singleton.1 sign
      decide
    · exact isNumeric_of_mem_nat digit

/-- All characters of a text are numeric. -/
def Numeric (text : String) : Prop := ∀ c ∈ text.toList, isNumeric c = true

instance (text : String) : Decidable (Numeric text) := List.decidableBAll _ _

theorem Numeric.append {text more : String} (h : Numeric text) (h' : Numeric more) :
    Numeric (text ++ more) := by
  intro c member
  rw [String.toList_append] at member
  exact (List.mem_append.1 member).elim (h c) (h' c)

theorem numeric_ofList {text : List Char} (h : ∀ c ∈ text, isNumeric c = true) :
    Numeric (String.ofList text) := by
  intro c member
  rw [String.toList_ofList] at member
  exact h c member

theorem numeric_render (x : Binary64) : Numeric (plainDecimal.render x) := by
  have nat (n : Nat) : ∀ c ∈ (toString n).toList, isNumeric c = true := fun c =>
    isNumeric_of_mem_nat
  have zeros (n : Nat) : ∀ c ∈ List.replicate n '0', isNumeric c = true := fun c member => by
    rw [List.eq_of_mem_replicate member]
    decide
  have sign : Numeric (if x.isNegative then "-" else "") := by
    split <;> decide
  rw [DecimalNotation.render]
  dsimp only
  split
  · exact (sign.append (by decide)).append (by decide)
  · refine sign.append ?_
    generalize Shortest.decimal x.magnitude = d
    have digits := nat d.digits
    split
    · refine (numeric_ofList fun c member => ?_).append (by decide)
      exact (List.mem_append.1 member).elim (digits c) (zeros _ c)
    · split
      · refine numeric_ofList fun c member => ?_
        rcases List.mem_append.1 member with front | back
        · exact digits c (List.mem_of_mem_take front)
        · rcases List.mem_cons.1 back with rfl | back
          · decide
          · exact digits c (List.mem_of_mem_drop back)
      · split
        · refine Numeric.append (by decide) (numeric_ofList fun c member => ?_)
          exact (List.mem_append.1 member).elim (zeros _ c) (digits c)
        · refine ((Numeric.append ?_ (by decide)).append (by split <;> decide)).append ?_
          · split
            · next first second rest eq =>
              rw [eq] at digits
              refine numeric_ofList fun c member => ?_
              rcases List.mem_cons.1 member with rfl | later
              · exact digits _ List.mem_cons_self
              · rcases List.mem_cons.1 later with rfl | later
                · decide
                · exact digits c (List.mem_cons_of_mem _ later)
            · exact numeric_ofList digits
          · exact fun c => isNumeric_of_mem_int

/-- **What numbers are written with.** -/
theorem Number.numeric_text (number : Number) : Numeric number.text := by
  cases number with
  | int value => exact fun c => isNumeric_of_mem_int
  | float value =>
    rw [text]
    split
    · decide
    · split
      · split <;> decide
      · exact numeric_render value

/-! ## A pen takes nothing back -/

namespace Yaml

/-- What one pen has written is the beginning of what the other has written. -/
def Pen.Begins (p q : Pen) : Prop := p.written.toList <+: q.written.toList

namespace Pen

variable {p q r : Pen}

theorem begins_self (p : Pen) : p.Begins p := List.prefix_refl _

theorem Begins.trans (h : p.Begins q) (h' : q.Begins r) : p.Begins r := List.IsPrefix.trans h h'

theorem begins_put (p : Pen) (text : String) : p.Begins (p.put text) := by
  rw [Begins, put, String.toList_append]
  exact List.prefix_append _ _

theorem begins_breakLine (p : Pen) (char : Char) : p.Begins (p.breakLine char) := by
  rw [Begins, breakLine, String.toList_push]
  exact List.prefix_append _ _

theorem begins_ite {c : Prop} [Decidable c] (h : p.Begins q) (h' : p.Begins r) :
    p.Begins (if c then q else r) := by
  split
  · exact h
  · exact h'

theorem begins_indentTo (p : Pen) (indent : Nat) : p.Begins (p.indentTo indent) :=
  (begins_ite (begins_breakLine p _) (begins_self p)).trans (begins_put _ _)

theorem begins_indicator (p : Pen) (text : String) (spaced indentation : Bool) :
    p.Begins (p.indicator text spaced indentation) :=
  (begins_ite (begins_put p _) (begins_self p)).trans (begins_put _ text)

theorem begins_plain (p : Pen) (text : String) : p.Begins (p.plain text) :=
  (begins_ite (begins_put p _) (begins_self p)).trans (begins_put _ text)

theorem begins_tag (p : Pen) (name : String) : p.Begins (p.tag name) :=
  (begins_ite (begins_self p) (begins_put p _)).trans (begins_put _ _)

/-- How a pen is placed does not change what it has written. -/
theorem Begins.placed (h : p.Begins q) (column : Nat) (afterBlank indented : Bool) :
    p.Begins ⟨q.written, column, afterBlank, indented⟩ := h

theorem begins_singleChars (indent : Nat) (text : List Char) (afterBreak : Bool) (p : Pen) :
    p.Begins (singleChars indent text afterBreak p) := by
  induction text generalizing afterBreak p with
  | nil => exact begins_ite (begins_indentTo p indent) (begins_self p)
  | cons c rest ih =>
    have opened : p.Begins (if afterBreak then p.indentTo indent else p) :=
      begins_ite (begins_indentTo p indent) (begins_self p)
    have broken : p.Begins (if !afterBreak && c == '\n' then p.breakLine '\n' else p) :=
      begins_ite (begins_breakLine p _) (begins_self p)
    rw [singleChars]
    split
    · exact ((broken.trans (begins_breakLine _ c)).placed _ _ true).trans (ih _ _)
    · split
      · exact (begins_put p _).trans (ih _ _)
      · exact ((opened.trans (begins_put _ _)).placed _ _ false).trans (ih _ _)

theorem begins_literalChars (indent : Nat) (text : List Char) (afterBreak : Bool) (p : Pen) :
    p.Begins (literalChars indent text afterBreak p) := by
  induction text generalizing afterBreak p with
  | nil => exact begins_self p
  | cons c rest ih =>
    have opened : p.Begins (if afterBreak then p.indentTo indent else p) :=
      begins_ite (begins_indentTo p indent) (begins_self p)
    rw [literalChars]
    split
    · exact ((begins_breakLine p c).placed _ _ true).trans (ih _ _)
    · exact ((opened.trans (begins_put _ _)).placed _ _ false).trans (ih _ _)

theorem begins_literal (p : Pen) (indent : Nat) (text : List Char) :
    p.Begins (p.literal indent text) := by
  have hint : p.Begins (if text.head?.any fun c => c == ' ' || isBreak c then
      (p.indicator "|" true false).indicator "2" false false else p.indicator "|" true false) :=
    begins_ite ((begins_indicator p _ _ _).trans (begins_indicator _ _ _ _))
      (begins_indicator p _ _ _)
  have chomped := hint.trans (begins_indicator _ (chompingHint text) false false)
  rw [literal]
  exact ((chomped.trans (begins_breakLine _ '\n')).placed _ true true).trans
    (begins_literalChars indent text true _)

theorem begins_scalar (p : Pen) (indent : Nat) (style : Style) (text : String) :
    p.Begins (p.scalar indent style text) := by
  cases style with
  | plain => exact begins_plain p text
  | singleQuoted =>
    have inside := (begins_indicator p "'" true false).trans
      (begins_singleChars indent text.toList false _)
    exact inside.trans (begins_indicator _ "'" false false)
  | doubleQuoted =>
    have inside := (begins_indicator p "\"" true false).trans
      (begins_put _ (String.join (text.toList.map doubleChar)))
    exact inside.trans (begins_indicator _ "\"" false false)
  | literal => exact begins_literal p indent text.toList

end Pen

mutual

/-- **A pen takes nothing back** when it writes a node. -/
theorem begins_printNode (pos : Position) (p : Pen) :
    (tree : Tree) → p.Begins (printNode pos p tree)
  | .tagged name content => by
    rw [printNode]
    exact (Pen.begins_tag p name).trans (begins_printNode pos _ content)
  | .sequence items => by
    rw [printNode]
    refine Pen.begins_ite ?_ (begins_printItems _ p items)
    exact (Pen.begins_indicator p _ _ _).trans (Pen.begins_put _ _)
  | .mapping entries => by
    rw [printNode]
    refine Pen.begins_ite ?_ (begins_printEntries _ p entries)
    exact (Pen.begins_indicator p _ _ _).trans (Pen.begins_put _ _)
  | .null => by
    rw [printNode]
    exact Pen.begins_scalar _ _ _ _
  | .bool _ => by
    rw [printNode]
    exact Pen.begins_scalar _ _ _ _
  | .number _ => by
    rw [printNode]
    exact Pen.begins_scalar _ _ _ _
  | .string _ => by
    rw [printNode]
    exact Pen.begins_scalar _ _ _ _

theorem begins_printItems (indent : Nat) (p : Pen) :
    (items : List Tree) → p.Begins (printItems indent p items)
  | [] => by
    rw [printItems]
    exact Pen.begins_self p
  | item :: rest => by
    rw [printItems]
    exact (Pen.begins_indentTo p indent).trans ((Pen.begins_indicator _ _ _ _).trans
      ((begins_printNode _ _ item).trans (begins_printItems indent _ rest)))

theorem begins_printEntries (indent : Nat) (p : Pen) :
    (entries : List (Tree × Tree)) → p.Begins (printEntries indent p entries)
  | [] => by
    rw [printEntries]
    exact Pen.begins_self p
  | (key, value) :: rest => by
    rw [printEntries]
    refine (Pen.begins_indentTo p indent).trans (Pen.Begins.trans (Pen.begins_ite ?_ ?_)
      ((begins_printNode _ _ value).trans (begins_printEntries indent _ rest)))
    · exact (begins_printNode _ _ key).trans (Pen.begins_indicator _ _ _ _)
    · exact (Pen.begins_indicator _ _ _ _).trans ((begins_printNode _ _ key).trans
        ((Pen.begins_indentTo _ indent).trans (Pen.begins_indicator _ _ _ _)))

end

/-! ## Marks -/

/-- The marks of tags, lists and mappings, one of which is in whatever is written of them. -/
def marks : List Char := ['!', '[', '-', '\x7b', ':']

theorem visible_of_mem_marks {c : Char} (mark : c ∈ marks) : Text.isBlank c = false := by
  have visible : marks.all (!Text.isBlank ·) = true := by decide
  simpa using List.all_eq_true.1 visible c mark

/-- A text has a mark in it. -/
def Marked (text : String) : Prop := ∃ c ∈ marks, c ∈ text.toList

instance (text : String) : Decidable (Marked text) := List.decidableBEx _ _

/-- A mark has been written. -/
def Pen.Marked (p : Pen) : Prop := Yaml.Marked p.written

theorem Pen.Marked.begins {p q : Pen} (marked : p.Marked) (h : p.Begins q) : q.Marked := by
  obtain ⟨c, mark, member⟩ := marked
  exact ⟨c, mark, h.subset member⟩

theorem Pen.marked_put {text : String} (h : Yaml.Marked text) (p : Pen) :
    (p.put text).Marked := by
  obtain ⟨c, mark, member⟩ := h
  refine ⟨c, mark, ?_⟩
  rw [put, String.toList_append]
  exact List.mem_append_right _ member

theorem Pen.marked_indicator {text : String} (h : Yaml.Marked text) (p : Pen)
    (spaced indentation : Bool) : (p.indicator text spaced indentation).Marked :=
  marked_put h _

theorem marked_tagText (name : String) : Marked (Pen.tagText name) := by
  refine ⟨'!', List.mem_cons_self, ?_⟩
  rw [Pen.tagText]
  dsimp only
  split <;> simp

/-- **Whatever is written of a list, a mapping or a tag has a mark in it.** -/
theorem marked_printNode (pos : Position) (p : Pen) {tree : Tree}
    (collection : tree.scalarText? = none) (some_ : tree ≠ .null) :
    (printNode pos p tree).Marked := by
  cases tree with
  | null => exact absurd rfl some_
  | tagged name content =>
    rw [printNode]
    have tagged : (p.tag name).Marked := Pen.marked_put (marked_tagText name) _
    exact tagged.begins (begins_printNode pos _ content)
  | sequence items =>
    rw [printNode]
    cases items with
    | nil => exact (Pen.marked_indicator (by decide) p true false).begins (Pen.begins_put _ "]")
    | cons item rest =>
      rw [if_neg (by simp), printItems]
      exact (Pen.marked_indicator (by decide) _ true true).begins
        ((begins_printNode _ _ item).trans (begins_printItems _ _ rest))
  | mapping entries =>
    rw [printNode]
    cases entries with
    | nil => exact (Pen.marked_indicator (by decide) p true false).begins (Pen.begins_put _ "\x7d")
    | cons first rest =>
      obtain ⟨key, value⟩ := first
      rw [if_neg (by simp), printEntries]
      refine Pen.Marked.begins ?_
        ((begins_printNode _ _ value).trans (begins_printEntries _ _ rest))
      split
      · exact Pen.marked_indicator (by decide) _ _ _
      · exact Pen.marked_indicator (by decide) _ _ _
  | _ => cases collection

theorem marked_printYaml {tree : Tree} {text : String} (collection : tree.scalarText? = none)
    (some_ : tree ≠ .null) (h : printYaml tree = .ok text) : Marked text := by
  rw [printYaml] at h
  split at h
  · cases h
  · cases h
    exact (marked_printNode _ _ collection some_).begins (Pen.begins_indentTo _ 0)

end Yaml

/-! ## Words -/

/-- An ordinary word: no number, none of the words for nothing and for truth, and no text with a
mark in it. -/
structure Word (name : String) : Prop where
  /-- A number is not written so. -/
  letter : ¬Numeric name
  /-- It has no marks. -/
  unmarked : ¬Yaml.Marked name
  /-- It stands for itself. -/
  ordinary : name ∉ ["null", "true", "false"]

namespace Tree

variable {name : String}

/-- **A word is the text of itself only.** -/
theorem scalarText?_eq_word_iff (word : Word name) {value : Tree} :
    value.scalarText? = some name ↔ value = .string name := by
  constructor
  · intro h
    cases value with
    | string text => rw [Option.some.inj h]
    | number number => exact absurd (Option.some.inj h ▸ number.numeric_text) word.letter
    | bool truth =>
      have listed : boolWord truth ∈ ["null", "true", "false"] := by cases truth <;> decide
      exact absurd (Option.some.inj h ▸ listed) word.ordinary
    | _ => cases h
  · rintro rfl
    rfl

/-- **A word is the name of one key only.** -/
theorem keyText_eq_word_iff (word : Word name) {key : Tree} :
    key.keyText = name ↔ key = .string name := by
  constructor
  · intro h
    rw [keyText] at h
    split at h
    · next text scalar => exact (scalarText?_eq_word_iff word).1 (h ▸ scalar)
    · next collection =>
      exfalso
      split at h
      · next text printed =>
        by_cases null : key = .null
        · subst null
          refine word.ordinary ?_
          rw [← h, ← Except.ok.inj printed]
          decide +kernel
        · obtain ⟨c, mark, member⟩ := Yaml.marked_printYaml collection null printed
          refine word.unmarked ⟨c, mark, ?_⟩
          rw [← h, Text.trimmed, String.toList_ofList]
          exact Text.mem_trim member (Yaml.visible_of_mem_marks mark)
      · exact word.letter (h ▸ List.forall_mem_nil _)
  · rintro rfl
    rfl

end Tree

end BuildManifest
