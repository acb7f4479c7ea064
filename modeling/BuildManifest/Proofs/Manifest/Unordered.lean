import BuildManifest.Proofs.Manifest.Readable

/-!
# Attributes in any order

Attributes are read one after the other, but an entry that can be read gives none of them twice.
So each field is read from the value of its attribute, wherever that stands, and the order only
tells in the attributes that are not interpreted.

## What is here

* `Attribute.ReadsAs` — what an entry has for the value of an attribute.
* `Entry.ReadFrom`, `ofMapping_eq_ok_iff` — **what an entry is read from, in no order**.
* `Entry.Agrees`, `readsLike_of_perm` — **attributes in another order** read as the same entry, up
  to the order of those that are not interpreted.
* `readsLike_replace` — so does an attribute under another of its names, or in another form.
-/

set_option autoImplicit false

namespace BuildManifest

variable {attributes others rest entries : Mapping} {key value : Tree} {one : Attribute}
  {a b c entry next result : Entry}

/-! ## One attribute -/

namespace Attribute

/-- The entry has what the value of the attribute reads as. -/
def ReadsAs (one : Attribute) (value : Tree) (entry : Entry) : Prop :=
  match one with
  | .version => readText value = .ok entry.version
  | .kind => readText value = .ok entry.kind
  | .download => readDownload value = .ok entry.download
  | .subdir => readText value = .ok entry.subdir
  | .directoryName => readText value = .ok entry.directoryName
  | .contribDestination => readText value = .ok entry.contribDestination
  | .destination => readText value = .ok entry.destination
  | .patches => Patch.allOfTree value = .ok entry.patches
  | .workingCopy => readTruth value = .ok entry.workingCopy

/-- Two entries have the attribute in common. -/
def Common (one : Attribute) (a b : Entry) : Prop :=
  match one with
  | .version => a.version = b.version
  | .kind => a.kind = b.kind
  | .download => a.download = b.download
  | .subdir => a.subdir = b.subdir
  | .directoryName => a.directoryName = b.directoryName
  | .contribDestination => a.contribDestination = b.contribDestination
  | .destination => a.destination = b.destination
  | .patches => a.patches = b.patches
  | .workingCopy => a.workingCopy = b.workingCopy

theorem Common.trans (h : one.Common a b) (h' : one.Common b c) : one.Common a c := by
  cases one <;> exact Eq.trans h h'

theorem ReadsAs.of_common (h : one.ReadsAs value b) (common : one.Common a b) :
    one.ReadsAs value a := by
  cases one <;> exact h.trans (congrArg Except.ok (Eq.symm common))

/-- A value reads in one way. -/
theorem ReadsAs.common (h : one.ReadsAs value a) (h' : one.ReadsAs value b) : one.Common a b := by
  cases one <;> exact Except.ok.inj (Eq.trans h.symm h')

theorem ReadsAs.reads (h : one.ReadsAs value entry) : one.Reads value := by
  cases one <;> exact ⟨_, h⟩

/-- Nothing reads as what an entry without attributes has. -/
theorem readsAs_null (one : Attribute) : one.ReadsAs .null {} := by
  cases one <;> rfl

theorem readsAs_extra_iff {extra : Mapping} :
    one.ReadsAs value { entry with extra := extra } ↔ one.ReadsAs value entry := by
  cases one <;> exact Iff.rfl

end Attribute

namespace Entry

/-- An attribute that is read changes its own field only. -/
theorem readsAs_of_withAttribute (h : entry.withAttribute value one = .ok next) :
    one.ReadsAs value next ∧ ∀ other, other ≠ one → other.Common next entry := by
  cases one <;> obtain ⟨given, read, rfl⟩ := map_eq_ok_iff.1 h <;>
    refine ⟨read, fun other ne => ?_⟩ <;> cases other <;> first | rfl | exact absurd rfl ne

theorem common_of_withExtra {name : String} (h : entry.withExtra name value = .ok next)
    (one : Attribute) : one.Common next entry := by
  rw [withExtra] at h
  split at h
  · cases h
  · cases h
    cases one <;> rfl

/-- Entries that have all attributes in common are the same. -/
theorem eq_of_common (common : ∀ one : Attribute, one.Common a b) (extra : a.extra = b.extra) :
    a = b := by
  cases a
  cases b
  rw [mk.injEq]
  exact ⟨common .version, common .kind, common .download, common .subdir, common .directoryName,
    common .contribDestination, common .destination, common .patches, common .workingCopy, extra⟩

/-! ## The value of an attribute -/

/-- The value that is given for an attribute. -/
def given? (attributes : Mapping) (one : Attribute) : Option Tree :=
  (List.find? (fun pair => slot? pair = some one) attributes).map Prod.snd

theorem given?_cons (first : Tree × Tree) (rest : Mapping) (one : Attribute) :
    given? (first :: rest) one =
      if slot? first = some one then some first.2 else given? rest one := by
  rw [given?, given?, List.find?_cons]
  by_cases here : slot? first = some one
  · simp [here]
  · simp [here]

theorem given?_eq_none_iff :
    given? attributes one = none ↔ ∀ pair ∈ attributes, slot? pair ≠ some one := by
  simp [given?]

/-- No attribute is given twice. -/
def GivesOnce (attributes : Mapping) : Prop :=
  attributes.Pairwise fun a b => slot? a = none ∨ slot? a ≠ slot? b

theorem given?_of_mem (once : GivesOnce attributes) (member : (key, value) ∈ attributes)
    (slot : slot? (key, value) = some one) : given? attributes one = some value := by
  induction attributes with
  | nil => cases member
  | cons first rest ih =>
    obtain ⟨apart, once⟩ := List.pairwise_cons.1 once
    rw [given?_cons]
    rcases List.mem_cons.1 member with rfl | later
    · rw [if_pos slot]
    · rw [if_neg, ih once later]
      intro here
      rcases apart _ later with none_ | ne
      · rw [here] at none_
        cases none_
      · exact ne (here.trans slot.symm)

theorem givesOnce_of_perm (once : GivesOnce attributes) (perm : attributes.Perm others) :
    GivesOnce others := by
  refine (List.Perm.pairwise_iff (fun {a b} apart => ?_) perm).1 once
  rcases apart with none_ | ne
  · by_cases same : slot? b = none
    · exact .inl same
    · exact .inr fun eq => same (eq.trans none_)
  · exact .inr (Ne.symm ne)

theorem given?_of_perm (once : GivesOnce attributes) (perm : attributes.Perm others)
    (one : Attribute) : given? others one = given? attributes one := by
  cases found : given? attributes one with
  | none =>
    rw [given?_eq_none_iff] at found ⊢
    exact fun pair member => found pair (perm.mem_iff.2 member)
  | some value =>
    rw [given?, Option.map_eq_some_iff] at found
    obtain ⟨⟨key, value⟩, found, rfl⟩ := found
    exact given?_of_mem (givesOnce_of_perm once perm)
      (perm.mem_iff.1 (List.mem_of_find?_eq_some found)) (by simpa using List.find?_some found)

/-! ## All attributes -/

/-- **What reading makes of the attributes**, one by one. -/
theorem fields_of_readAttributes {seen : List Attribute}
    (h : readAttributes entry seen attributes = .ok result) (one : Attribute) :
    (∀ value, given? attributes one = some value → one.ReadsAs value result) ∧
      (given? attributes one = none → one.Common result entry) := by
  induction attributes generalizing entry seen with
  | nil =>
    cases h
    constructor
    · rintro _ ⟨⟩
    · intro _
      cases one <;> rfl
  | cons first rest ih =>
    obtain ⟨key, value⟩ := first
    rcases readAttributes_cons h with
      ⟨name, other, next, text, known, -, given, h⟩ | ⟨name, next, text, unknown, given, h⟩
    · have slot : slot? (key, value) = some other := by rw [slot?, text, Option.bind_some, known]
      obtain ⟨readsAs, frame⟩ := readsAs_of_withAttribute given
      obtain ⟨reads, common⟩ := ih h
      rw [given?_cons, slot]
      by_cases here : other = one
      · subst here
        rw [if_pos rfl]
        refine ⟨fun _ eq => ?_, fun eq => ?_⟩
        · cases eq
          -- It is not given again, so that its field stays.
          refine readsAs.of_common (common (given?_eq_none_iff.2 fun pair member slot => ?_))
          exact (exists_readAttributes_iff.1 ⟨result, h⟩).2.1 pair member other slot
            List.mem_cons_self
        · cases eq
      · rw [if_neg fun eq => here (Option.some.inj eq)]
        exact ⟨reads, fun none_ => (common none_).trans (frame one (Ne.symm here))⟩
    · have slot : slot? (key, value) = none := by rw [slot?, text, Option.bind_some, unknown]
      obtain ⟨reads, common⟩ := ih h
      rw [given?_cons, slot, if_neg (Option.some_ne_none one).symm]
      exact ⟨reads, fun none_ => (common none_).trans (common_of_withExtra given one)⟩

/-- **What an entry is read from**, in no order. -/
structure ReadFrom (attributes : Mapping) (entry : Entry) : Prop where
  /-- Every key is a name, and what is not interpreted has no tags. -/
  named : ∀ pair ∈ attributes, ∃ name, pair.1.text? = some name ∧
    (Attribute.ofName? name = none → pair.2.hasTag = false)
  /-- No attribute is given twice. -/
  once : GivesOnce attributes
  /-- Every field is read from the value of its attribute, or from nothing. -/
  fields : ∀ one : Attribute, one.ReadsAs ((given? attributes one).getD .null) entry
  /-- What is not interpreted is kept. -/
  extra : entry.extra = extraOf attributes
  /-- Of that, no name is given twice. -/
  apart : (extraOf attributes).Pairwise fun a b => a.1 ≠ b.1

theorem readFrom_of_ofMapping (h : ofMapping attributes = .ok entry) :
    ReadFrom attributes entry := by
  have read := readAttributes_of_ofMapping h
  obtain ⟨named, -, once⟩ := exists_readAttributes_iff.1 ⟨entry, read⟩
  have extra := extra_eq_of_readAttributes read
  rw [List.nil_append] at extra
  refine ⟨fun pair member => ?_, once, fun one => ?_, extra, ?_⟩
  · obtain ⟨name, text, reads⟩ := named pair member
    refine ⟨name, text, fun unknown => ?_⟩
    rwa [ReadsUnder, unknown] at reads
  · obtain ⟨reads, common⟩ := fields_of_readAttributes read one
    cases found : given? attributes one with
    | some value => exact reads value found
    | none => exact (Attribute.readsAs_null one).of_common (common found)
  · obtain ⟨read', read'', h⟩ := bind_eq_ok_iff.1 h
    rw [read] at read''
    cases read''
    rw [extra] at h
    split at h
    · cases h
    · next none_ => exact ((repeatedName?_eq_none_iff (plainNames_extraOf _) []).1 none_).2

/-- What an entry is read from tells all of it. -/
theorem ReadFrom.unique (h : ReadFrom attributes a) (h' : ReadFrom attributes b) : a = b :=
  eq_of_common (fun one => (h.fields one).common (h'.fields one)) (h.extra.trans h'.extra.symm)

/-- **What reading gives.** -/
theorem ofMapping_eq_ok_iff : ofMapping attributes = .ok entry ↔ ReadFrom attributes entry := by
  refine ⟨readFrom_of_ofMapping, fun from_ => ?_⟩
  have reads : ∀ pair ∈ attributes, ∃ name, pair.1.text? = some name ∧ ReadsUnder name pair.2 := by
    intro pair member
    obtain ⟨name, text, untagged⟩ := from_.named pair member
    refine ⟨name, text, ?_⟩
    rw [ReadsUnder]
    split
    · next one known =>
      have slot : slot? pair = some one := by rw [slot?, text, Option.bind_some, known]
      have field := from_.fields one
      rw [given?_of_mem from_.once member slot] at field
      exact field.reads
    · next unknown => exact untagged unknown
  obtain ⟨result, read⟩ : ∃ result, readAttributes {} [] attributes = .ok result :=
    exists_readAttributes_iff.2 ⟨reads, fun _ _ _ _ => List.not_mem_nil, from_.once⟩
  have extra := extra_eq_of_readAttributes read
  rw [List.nil_append] at extra
  have none_ : repeatedName? [] result.extra = none := by
    rw [extra, repeatedName?_eq_none_iff (plainNames_extraOf _)]
    exact ⟨fun _ _ => List.not_mem_nil, from_.apart⟩
  have ok : ofMapping attributes = .ok result := by
    refine bind_eq_ok_iff.2 ⟨result, read, ?_⟩
    rw [none_]
  rw [ok, (readFrom_of_ofMapping ok).unique from_]

/-! ## Another order -/

/-- Two entries are the same up to the order of the attributes that are not interpreted. -/
def Agrees (a b : Entry) : Prop := { a with extra := b.extra } = b ∧ a.extra.Perm b.extra

theorem Agrees.refl (entry : Entry) : entry.Agrees entry := ⟨rfl, List.Perm.refl _⟩

theorem Agrees.trans (h : a.Agrees b) (h' : b.Agrees c) : a.Agrees c := by
  refine ⟨?_, h.2.trans h'.2⟩
  rw [← h'.1, ← h.1]

/-- The attributes give the same entry as the others, up to the order of those that are not
interpreted, if they can be read. -/
def ReadsLike (attributes others : Mapping) : Prop :=
  ∀ entry, ReadFrom attributes entry → ∃ result, ReadFrom others result ∧ entry.Agrees result

theorem readsLike_refl (attributes : Mapping) : ReadsLike attributes attributes :=
  fun entry from_ => ⟨entry, from_, .refl entry⟩

theorem ReadsLike.trans {third : Mapping} (h : ReadsLike attributes others)
    (h' : ReadsLike others third) : ReadsLike attributes third := by
  intro entry from_
  obtain ⟨next, from_, agrees⟩ := h entry from_
  obtain ⟨result, from_, agrees'⟩ := h' next from_
  exact ⟨result, from_, agrees.trans agrees'⟩

/-- **Attributes may come in any order.** -/
theorem readsLike_of_perm (perm : attributes.Perm others) : ReadsLike attributes others := by
  intro entry from_
  refine ⟨{ entry with extra := extraOf others },
    ⟨fun pair member => from_.named pair (perm.mem_iff.2 member),
      givesOnce_of_perm from_.once perm, fun one => ?_, rfl, ?_⟩, rfl, ?_⟩
  · rw [Attribute.readsAs_extra_iff, given?_of_perm from_.once perm]
    exact from_.fields one
  · exact (List.Perm.pairwise_iff (fun ne => Ne.symm ne) (extraOf_perm perm)).1 from_.apart
  · rw [from_.extra]
    exact extraOf_perm perm

/-- An attribute may be given in another form, or by another of its names. -/
theorem readsLike_replace {key' value' : Tree} (slot : slot? (key, value) = some one)
    (slot' : slot? (key', value') = some one)
    (reads : ∀ entry, one.ReadsAs value entry → one.ReadsAs value' entry) :
    ReadsLike ((key, value) :: rest) ((key', value') :: rest) := by
  intro entry from_
  obtain ⟨-, named⟩ := List.forall_mem_cons.1 from_.named
  obtain ⟨apart, once⟩ := List.pairwise_cons.1 from_.once
  rw [slot] at apart
  have extra := from_.extra
  have distinct := from_.apart
  rw [extraOf_cons_of_some slot] at extra distinct
  refine ⟨entry, ⟨List.forall_mem_cons.2 ⟨?_, named⟩, List.pairwise_cons.2 ⟨?_, once⟩,
    fun other => ?_, ?_, ?_⟩, .refl entry⟩
  · obtain ⟨name, text, known⟩ := Option.bind_eq_some_iff.1 slot'
    refine ⟨name, text, fun unknown => ?_⟩
    rw [known] at unknown
    cases unknown
  · rw [slot']
    exact apart
  · have field := from_.fields other
    rw [given?_cons, slot] at field
    rw [given?_cons, slot']
    split
    · next here =>
      rw [if_pos here] at field
      cases Option.some.inj here
      exact reads entry field
    · next elsewhere =>
      rw [if_neg elsewhere] at field
      exact field
  · rw [extraOf_cons_of_some slot', extra]
  · rw [extraOf_cons_of_some slot']
    exact distinct

end Entry

end BuildManifest
