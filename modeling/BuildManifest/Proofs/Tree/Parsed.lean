import BuildManifest.Manifest.OfTree
import BuildManifest.Proofs.Success
import BuildManifest.Proofs.Tree.Apart

/-!
# What is read from a text

Whatever a manifest is written in, it reads as a mapping, and no mapping in it repeats a key.  In
YAML this is because a repeated key is refused, in the flat dialect because an assignment replaces
what was there.

## What is here

* `Yields` — what a reader of YAML nodes gives whenever it succeeds.
* `wellKeyed_of_parseDetected` — **the result, for both dialects**; `distinct_of_parseDetected` is
  what it says of the keys that are texts.
-/

set_option autoImplicit false

namespace BuildManifest

namespace Yaml.Document

variable {α β : Type}

/-! ## YAML -/

/-- Whatever is read satisfies `P`. -/
def Yields (reading : Reading α) (P : α → Prop) : Prop :=
  ∀ before value after, reading.run before = .ok (value, after) → P value

theorem yields_pure {value : α} {P : α → Prop} (h : P value) :
    Yields (pure value : Reading α) P := by
  rintro before _ after ⟨⟩
  exact h

theorem yields_bind {first : Reading α} {f : α → Reading β} {P : β → Prop}
    (h : ∀ value, Yields (f value) P) : Yields (first >>= f) P := by
  intro before value after run
  rw [StateT.run_bind] at run
  cases reached : first.run before with
  | error error => rw [reached] at run; cases run
  | ok one =>
    rw [reached] at run
    exact h one.1 one.2 value after run

/-- What follows a first part whose yield is known. -/
theorem yields_bind_of {first : Reading α} {f : α → Reading β} {P : β → Prop} {Q : α → Prop}
    (before : Yields first Q) (h : ∀ value, Q value → Yields (f value) P) :
    Yields (first >>= f) P := by
  intro place value after run
  rw [StateT.run_bind] at run
  cases reached : first.run place with
  | error error => rw [reached] at run; cases run
  | ok one =>
    rw [reached] at run
    exact h one.1 (before place one.1 one.2 reached) one.2 value after run

/-- Nothing is read after an error. -/
theorem yields_stop {error : DocumentError} {f : α → Reading β} {P : β → Prop} :
    Yields ((throw error : Reading α) >>= f) P := by
  rintro before value after ⟨⟩

/-- What is read is well keyed. -/
abbrev YieldsKeyed (reading : Reading Tree) : Prop :=
  Yields reading fun tree => tree.wellKeyed = true

theorem yieldsKeyed_items (d : Document) {inner : Path → Bool → Reading Tree}
    (keyed : ∀ path accounted, YieldsKeyed (inner path accounted)) (path : Path) (fuel : Nat)
    (done : Array Tree) (before : ∀ item ∈ done.toList, item.wellKeyed = true) :
    Yields (d.items inner path fuel done) fun read =>
      Tree.wellKeyed (.sequence read.toList) = true := by
  induction fuel generalizing done with
  | zero => exact yields_pure (Tree.wellKeyed_sequence_iff.2 before)
  | succ fuel ih =>
    rw [items]
    refine yields_bind fun node => ?_
    split
    · exact yields_bind fun _ => yields_pure (Tree.wellKeyed_sequence_iff.2 before)
    · refine yields_bind_of (keyed _ false) fun item here => ih _ fun one member => ?_
      rw [Array.toList_push] at member
      rcases List.mem_append.1 member with old | last
      · exact before one old
      · rwa [List.mem_singleton.1 last]

/-- The entries read before the next one have no key twice, and a key that they have is refused. -/
theorem yieldsKeyed_entries (d : Document) {inner : Path → Bool → Reading Tree}
    (keyed : ∀ path accounted, YieldsKeyed (inner path accounted)) (path : Path) (mark : Mark)
    (fuel : Nat) (done : Mapping) (before : Tree.wellKeyed (.mapping done) = true) :
    Yields (d.entries inner path mark fuel done) fun read =>
      Tree.wellKeyed (.mapping read) = true := by
  induction fuel generalizing done with
  | zero => exact yields_pure before
  | succ fuel ih =>
    rw [entries]
    refine yields_bind fun node => ?_
    split
    · exact yields_bind fun _ => yields_pure before
    · refine yields_bind_of (keyed _ false) fun key keyedKey => ?_
      by_cases present : Mapping.contains done key = true
      · rw [if_pos present]
        exact yields_stop
      · rw [if_neg present]
        refine yields_bind_of (keyed _ false) fun value keyedValue => ih _ ?_
        have absent : Mapping.find? done key = none := by
          rwa [Mapping.contains, Bool.not_eq_true, Option.isSome_eq_false_iff,
            Option.isNone_iff_eq_none] at present
        rw [← Mapping.insert_of_find?_eq_none absent]
        exact Tree.wellKeyed_insert before keyedKey keyedValue

theorem keyed_tagged {tag : Option String} {tree : Tree} (keyed : tree.wellKeyed = true) :
    Tree.wellKeyed (match tag with
      | some name => .tagged name tree
      | none => tree) = true := by
  cases tag with
  | none => exact keyed
  | some name => exact keyed

theorem keyed_of_readInteger {text : String} {tree : Tree}
    (h : readInteger text = some (.value tree)) : tree.wellKeyed = true := by
  rw [readInteger] at h
  split at h
  · split at h
    · cases h
      exact rfl
    · split at h <;> cases h
  · cases h

theorem keyed_of_readPlain {text : String} {tree : Tree} (h : readPlain text = .value tree) :
    tree.wellKeyed = true := by
  rw [readPlain] at h
  split at h
  · cases h
    exact rfl
  · split at h
    · cases h
      exact rfl
    · next reading =>
      subst h
      exact keyed_of_readInteger reading
    · split at h
      · cases h
      · split at h
        · cases h
          exact rfl
        · cases h

/-- A plain scalar read by its spelling alone. -/
theorem keyed_of_spelled {text : String} {tree : Tree}
    (h : (match readPlain text with
      | .value tree => Except.ok tree
      | .tooWide value => .error (ValueFault.tooWide value)
      | .text => .ok (.string text)) = .ok tree) : tree.wellKeyed = true := by
  split at h
  · next value =>
    cases h
    exact keyed_of_readPlain value
  · cases h
  · cases h
    exact rfl

/-- What is given if there is something. -/
theorem eq_some_of_expected {value : Option Tree} {fault : ValueFault} {tree : Tree}
    (h : (match value with
      | some tree => Except.ok tree
      | none => .error fault) = .ok tree) : value = some tree := by
  cases value with
  | none => cases h
  | some one => cases h; rfl

/-- No scalar is a mapping, whatever its tag says. -/
theorem keyed_of_scalarValue {tag : Option (List UInt8)} {text : String} {plain accounted : Bool}
    {tree : Tree} (h : scalarValue tag text plain accounted = .ok tree) :
    tree.wellKeyed = true := by
  have verbatim {read : Tree} (h : (Except.ok (.string text) : Except ValueFault Tree) = .ok read) :
      read.wellKeyed = true := by
    cases h
    exact rfl
  unfold scalarValue at h
  dsimp only at h
  split at h
  · split at h
    · obtain ⟨value, _, rfl⟩ := Option.map_eq_some_iff.1 (eq_some_of_expected h)
      exact rfl
    · split at h
      · next value =>
        cases h
        exact keyed_of_readInteger value
      · cases h
      · cases h
    · obtain ⟨value, _, rfl⟩ := Option.map_eq_some_iff.1 (eq_some_of_expected h)
      exact rfl
    · have null := eq_some_of_expected h
      split at null
      · cases null
        exact rfl
      · cases null
    · split at h
      · exact keyed_of_spelled h
      · exact verbatim h
  · split at h
    · exact keyed_of_spelled h
    · exact verbatim h

theorem yieldsKeyed_content (d : Document) (inner : Option (Path → Bool → Reading Tree))
    (keyed : ∀ reader ∈ inner, ∀ path accounted, YieldsKeyed (reader path accounted)) (path : Path)
    (accounted : Bool) : YieldsKeyed (d.content inner path accounted) := by
  rw [content]
  refine yields_bind fun read => yields_bind fun _ => ?_
  obtain ⟨node, mark⟩ := read
  cases node with
  | scalar tag text plain =>
    dsimp only
    split
    · next tree value => exact yields_pure (keyed_tagged (keyed_of_scalarValue value))
    · exact yields_stop
  | sequenceStart tag =>
    cases inner with
    | none => exact yields_stop
    | some inner =>
      exact yields_bind_of (yieldsKeyed_items d (keyed inner rfl) path _ #[] fun _ member =>
        nomatch member) fun items here => yields_pure (keyed_tagged here)
  | mappingStart tag =>
    cases inner with
    | none => exact yields_stop
    | some inner =>
      exact yields_bind_of (yieldsKeyed_entries d (keyed inner rfl) path mark _ [] rfl)
        fun done here => yields_pure (keyed_tagged here)
  | _ => exact yields_pure (keyed_tagged rfl)

theorem yieldsKeyed_resolved (d : Document) (inner : Option (Path → Bool → Reading Tree))
    (keyed : ∀ reader ∈ inner, ∀ path accounted, YieldsKeyed (reader path accounted)) (path : Path)
    (accounted : Bool) : YieldsKeyed (d.resolved inner path accounted) := by
  rw [resolved]
  refine yields_bind fun node => ?_
  split
  · refine yields_bind fun _ => yields_bind fun place => ?_
    have read : YieldsKeyed (do
        let tree ← d.content inner path false
        modify fun after => { after with position := place.position : Place }
        return tree) :=
      yields_bind_of (yieldsKeyed_content d inner keyed path false) fun tree here =>
        yields_bind fun _ => yields_pure here
    split
    · exact yields_stop
    · exact yields_bind fun _ => read
  · exact yieldsKeyed_content d inner keyed path accounted

/-- **A node is read as a well keyed tree**, however deep it nests. -/
theorem yieldsKeyed_node (d : Document) (depth : Nat) (path : Path) (accounted : Bool) :
    YieldsKeyed (d.node depth path accounted) := by
  induction depth generalizing path accounted with
  | zero => exact yieldsKeyed_resolved d none (fun _ member => nomatch member) path accounted
  | succ depth ih =>
    refine yieldsKeyed_resolved d (some (d.node depth)) (fun reader member => ?_) path accounted
    cases member
    exact ih

end Yaml.Document

theorem wellKeyed_of_readYaml {text : String} {tree : Tree} (h : Yaml.readYaml text = .ok tree) :
    tree.wellKeyed = true := by
  rw [Yaml.readYaml] at h
  generalize Yaml.EventStream.ofTokens (Yaml.TokenStream.ofText text.toList) = stream at h
  dsimp only at h
  obtain ⟨⟨read, place⟩, node, h⟩ := bind_eq_ok_iff.1 h
  have same : read = tree := by
    split at h
    · cases h
    · split at h
      · exact Except.ok.inj h
      · split at h
        · exact Except.ok.inj h
        · cases h
  rw [← same]
  exact Yaml.Document.yieldsKeyed_node _ _ _ _ _ _ _ node

/-! ## The flat dialect -/

namespace Ini

variable {entries result : Mapping} {segment : Segment} {path : List Segment} {value : Tree}

/-- A step to a well keyed key. -/
def Segment.Keyed : Segment → Prop
  | .named key => key.wellKeyed = true
  | .append => True

theorem Segment.Keyed.keyIn (keyed : segment.Keyed) (entries : Mapping) :
    (segment.keyIn entries).wellKeyed = true := by
  cases segment with
  | named key => exact keyed
  | append => rfl

theorem keyed_segmentOf (text : List Char) : (segmentOf text).Keyed := by
  have atom (text : List Char) : (segmentKey text).wellKeyed = true := by
    rw [segmentKey]
    split <;> rfl
  rw [segmentOf]
  split
  · trivial
  · exact atom _

theorem keyed_of_readSegments {key : String} {text : List Char}
    (h : readSegments key text = .ok path) : ∀ segment ∈ path, segment.Keyed := by
  induction text using readSegments.induct generalizing path with
  | case1 =>
    rw [readSegments] at h
    cases h
    exact fun _ member => nomatch member
  | case2 body none_ =>
    rw [readSegments] at h
    split at h
    · cases h
    · next some_ =>
      rw [none_] at some_
      cases some_
  | case3 body bracket rest some_ ih =>
    rw [readSegments] at h
    split at h
    · cases h
    · next some' =>
      rw [some_] at some'
      cases some'
      obtain ⟨more, read, h⟩ := bind_eq_ok_iff.1 h
      cases h
      exact List.forall_mem_cons.2 ⟨keyed_segmentOf _, ih read⟩
  | case4 rest plain other =>
    rw [readSegments] at h
    · cases h
    · exact plain
    · exact other

theorem keyed_of_readKey {key : List Char} (h : readKey key = .ok path) :
    ∀ segment ∈ path, segment.Keyed := by
  rw [readKey] at h
  split at h
  · cases h
  · obtain ⟨more, read, h⟩ := bind_eq_ok_iff.1 h
    cases h
    exact List.forall_mem_cons.2 ⟨rfl, keyed_of_readSegments read⟩

theorem wellKeyed_bareValue (text : List Char) : (bareValue text).wellKeyed = true := by
  rw [bareValue]
  split
  · rfl
  · split
    · rfl
    · split <;> rfl

theorem wellKeyed_of_readValue {text : List Char} (h : readValue text = .ok value) :
    value.wellKeyed = true := by
  rw [readValue.eq_def] at h
  split at h
  · split at h
    · split at h
      · cases h
        rfl
      · cases h
    · cases h
      exact wellKeyed_bareValue _
  · cases h
    exact wellKeyed_bareValue _

/-- **A line assigns a scalar**, along keys that are scalars. -/
theorem keyed_of_readLine {line : List Char} {assignment : Assignment}
    (h : readLine line = .ok (some assignment)) :
    (∀ segment ∈ assignment.path, segment.Keyed) ∧ assignment.value.wellKeyed = true := by
  rw [readLine] at h
  split at h
  · cases h
  · split at h
    · cases h
    · split at h
      · cases h
      · obtain ⟨path, readPath, h⟩ := bind_eq_ok_iff.1 h
        obtain ⟨value, readValue, h⟩ := bind_eq_ok_iff.1 h
        cases h
        exact ⟨keyed_of_readKey readPath, wellKeyed_of_readValue readValue⟩

theorem wellKeyed_of_assign (before : Tree.wellKeyed (.mapping entries) = true)
    (keys : ∀ segment ∈ path, segment.Keyed) (keyed : value.wellKeyed = true)
    (h : assign entries path value = .ok result) :
    Tree.wellKeyed (.mapping result) = true := by
  induction path generalizing entries result with
  | nil =>
    rw [assign] at h
    cases h
    exact before
  | cons step rest ih =>
    obtain ⟨here, later⟩ := List.forall_mem_cons.1 keys
    cases rest with
    | nil =>
      rw [assign] at h
      cases h
      exact Tree.wellKeyed_insert before (here.keyIn entries) keyed
    | cons next rest =>
      rw [assign] at h
      · split at h
        · obtain ⟨inner, inside, rfl⟩ := map_eq_ok_iff.1 h
          exact Tree.wellKeyed_insert before (here.keyIn entries) (ih rfl later inside)
        · next child found =>
          obtain ⟨inner, inside, rfl⟩ := map_eq_ok_iff.1 h
          exact Tree.wellKeyed_insert before (here.keyIn entries)
            (ih (Tree.wellKeyed_of_find? before found) later inside)
        · cases h
      · exact nofun

theorem wellKeyed_of_applyLine {line : List Char}
    (before : Tree.wellKeyed (.mapping entries) = true) (h : applyLine entries line = .ok result) :
    Tree.wellKeyed (.mapping result) = true := by
  obtain ⟨assignment, read, h⟩ := bind_eq_ok_iff.1 h
  cases assignment with
  | none =>
    cases h
    exact before
  | some assignment =>
    obtain ⟨path, value⟩ := keyed_of_readLine read
    exact wellKeyed_of_assign before path value h

theorem wellKeyed_of_readLines {line : Nat} {texts : List (List Char)}
    (before : Tree.wellKeyed (.mapping entries) = true)
    (h : readLines entries line texts = .ok result) :
    Tree.wellKeyed (.mapping result) = true := by
  induction texts generalizing entries line with
  | nil =>
    cases h
    exact before
  | cons text rest ih =>
    rw [readLines] at h
    split at h
    · next applied => exact ih (wellKeyed_of_applyLine before applied) h
    · cases h

end Ini

/-! ## Both dialects -/

theorem wellKeyed_of_parseYaml {text : String} {tree : Tree} (h : parseYaml text = .ok tree) :
    ∃ entries, tree = .mapping entries ∧ tree.wellKeyed = true := by
  rw [parseYaml] at h
  split at h
  · cases h
    exact ⟨[], rfl, rfl⟩
  · split at h
    · cases h
    · cases h
      exact ⟨[], rfl, rfl⟩
    · next entries read =>
      cases h
      exact ⟨entries, rfl, wellKeyed_of_readYaml read⟩
    · cases h

theorem wellKeyed_of_parseIni {text : String} {tree : Tree} (h : parseIni text = .ok tree) :
    ∃ entries, tree = .mapping entries ∧ tree.wellKeyed = true := by
  rw [parseIni] at h
  split at h
  · cases h
  · next read =>
    cases h
    obtain ⟨entries, lines, rfl⟩ := map_eq_ok_iff.1 read
    exact ⟨entries, rfl, Ini.wellKeyed_of_readLines rfl lines⟩

/-- **A text that can be read is a mapping, and no mapping in it repeats a key.** -/
theorem wellKeyed_of_parseDetected {text : String} {tree : Tree} {dialect : Dialect}
    (h : parseDetected text = .ok (tree, dialect)) :
    ∃ entries, tree = .mapping entries ∧ tree.wellKeyed = true := by
  rw [parseDetected] at h
  split at h
  · obtain ⟨one, read, eq⟩ := map_eq_ok_iff.1 h
    cases eq
    exact wellKeyed_of_parseYaml read
  · split at h
    · obtain ⟨one, read, eq⟩ := map_eq_ok_iff.1 h
      cases eq
      exact wellKeyed_of_parseIni read
    · split at h
      · next read =>
        cases h
        exact wellKeyed_of_parseYaml read
      · split at h
        · next read =>
          cases h
          exact wellKeyed_of_parseIni read
        · cases h

/-- A text that can be read is a mapping in which no text is a key twice. -/
theorem distinct_of_parseDetected {text : String} {tree : Tree} {dialect : Dialect}
    (h : parseDetected text = .ok (tree, dialect)) :
    ∃ entries, tree = .mapping entries ∧ Mapping.Distinct entries := by
  obtain ⟨entries, rfl, keyed⟩ := wellKeyed_of_parseDetected h
  exact ⟨entries, rfl, Mapping.distinct_of_apart (Tree.wellKeyed_mapping_iff.1 keyed).1⟩

end BuildManifest
