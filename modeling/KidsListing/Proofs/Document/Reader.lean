import KidsListing.Document.PlainText
import KidsListing.Proofs.Document.Characters
import KidsListing.Proofs.Document.Position
import KidsListing.Proofs.Number.Spelling

/-!
# What holds of documents that were read

What holds of every scalar that is read, and of a whole as soon as it holds of its
parts, holds of every document that is read.  The reader puts each entry among those
before it by `insert`, which keeps the keys of an object distinct whatever keys the
text repeats, and so it is done where a document is shown; so a document that was read is
well keyed.
-/

namespace KidsListing.Document

/-! ## Putting entries in -/

section Entries

variable {κ ν : Type} [DecidableEq κ]

theorem map_fst_insert_of_mem {key : κ} (value : ν)
    {entries : List (κ × ν)} (h : key ∈ entries.map Prod.fst) :
    (insert key value entries).map Prod.fst = entries.map Prod.fst := by
  induction entries with
  | nil => simp at h
  | cons entry rest ih =>
      obtain ⟨k, old⟩ := entry
      by_cases hkey : k = key
      · simp [insert, hkey]
      · have hrest : key ∈ rest.map Prod.fst := by
          simpa [Ne.symm hkey] using h
        rw [insert, if_neg hkey, List.map_cons, ih hrest, List.map_cons]

theorem insert_of_not_mem {key : κ} (value : ν) {entries : List (κ × ν)}
    (h : key ∉ entries.map Prod.fst) : insert key value entries = entries ++ [(key, value)] := by
  induction entries with
  | nil => rfl
  | cons entry rest ih =>
      obtain ⟨k, old⟩ := entry
      simp only [List.map_cons, List.mem_cons, not_or] at h
      rw [insert, if_neg (Ne.symm h.1), ih h.2]
      rfl

theorem map_fst_insert_of_not_mem {key : κ} (value : ν)
    {entries : List (κ × ν)} (h : key ∉ entries.map Prod.fst) :
    (insert key value entries).map Prod.fst = entries.map Prod.fst ++ [key] := by
  rw [insert_of_not_mem value h, List.map_append]
  rfl

theorem nodup_keys_insert (key : κ) (value : ν)
    {entries : List (κ × ν)} (h : (entries.map Prod.fst).Nodup) :
    ((insert key value entries).map Prod.fst).Nodup := by
  by_cases hkey : key ∈ entries.map Prod.fst
  · rw [map_fst_insert_of_mem value hkey]
    exact h
  · rw [map_fst_insert_of_not_mem value hkey]
    exact List.nodup_append_comm.1 (List.nodup_cons.2 ⟨hkey, h⟩)

theorem eq_or_mem_of_mem_insert {key : κ} {value : ν} {entries : List (κ × ν)} {entry : κ × ν}
    (h : entry ∈ insert key value entries) : entry = (key, value) ∨ entry ∈ entries := by
  induction entries with
  | nil => exact .inl (List.mem_singleton.1 h)
  | cons first rest ih =>
      obtain ⟨k, old⟩ := first
      rw [insert] at h
      split at h
      · rename_i hkey
        rcases List.mem_cons.1 h with rfl | hrest
        · exact .inl (by rw [hkey])
        · exact .inr (List.mem_cons_of_mem _ hrest)
      · rcases List.mem_cons.1 h with rfl | hrest
        · exact .inr List.mem_cons_self
        · exact (ih hrest).imp_right (List.mem_cons_of_mem _)

end Entries

/-! ## Reading -/

/-- Of everything that can be read this holds, by the way in which it is read. -/
structure RawReadable (P : RawDocument → Prop) : Prop where
  null : P .null
  bool : ∀ value, P (.bool value)
  int : ∀ value, Writable value → P (.int value)
  float : ∀ value, P (.float value)
  text : ∀ value : RawText, value.Unpaired → P (.text value)
  list : ∀ elements, (∀ x ∈ elements, P x) → P (.list elements)
  object : ∀ entries, (entries.map Prod.fst).Nodup → (∀ entry ∈ entries, P entry.2) →
    P (.object entries)

namespace Reader

open KidsListing.Text (isDigit maxDigits ofDigits)

/-- A numeral of no more digits than the limit is that of a writable integer. -/
theorem writable_ofDigits {digits : List Char} (h : digits.all isDigit)
    (hlength : digits.length ≤ maxDigits) : Writable (ofDigits digits) := by
  rw [Writable, Int.natAbs_natCast]
  exact Text.ofDigits_lt_of_length_le h hlength

theorem writable_neg {value : Int} (h : Writable value) : Writable (-value) := by
  rwa [Writable, Int.natAbs_neg]

/-- Whatever a reader gives, it holds of the document. -/
def Holds (P : RawDocument → Prop) (parsed : Parsed RawDocument) : Prop :=
  ∀ d rest, parsed = .ok (d, rest) → P d

/-- The entries read so far: no key twice, and of each value it holds. -/
def HoldsOfEntries (P : RawDocument → Prop) (read : List (RawText × RawDocument)) : Prop :=
  (read.map Prod.fst).Nodup ∧ ∀ entry ∈ read, P entry.2

variable {P : RawDocument → Prop}

theorem holds_error (e : ReadError) : Holds P (.error e) := nofun

theorem holds_ok {d : RawDocument} (h : P d) (rest : List Char) : Holds P (.ok (d, rest)) := by
  rintro _ _ ⟨⟩
  exact h

theorem holdsOfEntries_nil : HoldsOfEntries P [] :=
  ⟨List.nodup_nil, nofun⟩

theorem HoldsOfEntries.insert {read : List (RawText × RawDocument)} (h : HoldsOfEntries P read)
    (key : RawText) {x : RawDocument} (hx : P x) :
    HoldsOfEntries P (Document.insert key x read) := by
  refine ⟨nodup_keys_insert key x h.1, ?_⟩
  intro entry hentry
  rcases eq_or_mem_of_mem_insert hentry with rfl | hmem
  · exact hx
  · exact h.2 entry hmem

section Step

variable (hP : RawReadable P)
include hP

theorem holds_number (negative : Bool) (input : List Char) : Holds P (number negative input) := by
  simp only [number]
  split
  · exact holds_error _
  · split
    · split
      · exact holds_error _
      · rename_i hshort
        have hwritable := writable_ofDigits (whole_append input).2 (Nat.le_of_not_lt hshort)
        apply holds_ok
        apply hP.int
        split
        · exact writable_neg hwritable
        · exact hwritable
    · exact holds_ok (hP.float _) _

omit hP in
theorem holds_word (input : List Char) (spelling : String) {d : RawDocument} (h : P d) :
    Holds P (scalar.word input spelling d) := by
  rw [scalar.word]
  split
  · exact holds_ok h _
  · exact holds_error _

theorem holds_scalar (input : List Char) : Holds P (scalar input) := by
  unfold scalar
  split
  · exact holds_word _ _ hP.null
  · exact holds_word _ _ (hP.bool true)
  · exact holds_word _ _ (hP.bool false)
  · exact holds_word _ _ (hP.float _)
  · exact holds_word _ _ (hP.float _)
  · exact holds_word _ _ (hP.float _)
  · exact holds_number hP _ _
  · exact holds_number hP _ _

variable {fuel : Nat}

theorem holds_value (helements : ∀ input, Holds P (elements fuel [] input))
    (hentries : ∀ input, Holds P (entries fuel [] input)) (input : List Char) :
    Holds P (value (fuel + 1) input) := by
  rw [value]
  split
  · split
    · exact holds_error _
    · rename_i hread
      exact holds_ok (hP.text _ (unpaired_of_characters settled_nil hread)) _
  · split
    · exact holds_ok (hP.list [] (List.forall_mem_nil _)) _
    · exact helements _
  · split
    · exact holds_ok (hP.object [] List.nodup_nil (List.forall_mem_nil _)) _
    · exact hentries _
  · exact holds_scalar hP _

theorem holds_elements (hvalue : ∀ input, Holds P (value fuel input))
    (hrest : ∀ read : List RawDocument, (∀ x ∈ read, P x) →
      ∀ input, Holds P (elements fuel read input))
    {read : List RawDocument} (hread : ∀ x ∈ read, P x) (input : List Char) :
    Holds P (elements (fuel + 1) read input) := by
  rw [elements]
  split
  · exact holds_error _
  · rename_i x _ hx
    have hmore : ∀ y ∈ x :: read, P y :=
      List.forall_mem_cons.2 ⟨hvalue _ _ _ hx, hread⟩
    split
    · exact hrest _ hmore _
    · apply holds_ok
      apply hP.list
      exact fun y hy => hmore y (List.mem_reverse.1 hy)
    · exact holds_error _

theorem holds_entries (hvalue : ∀ input, Holds P (value fuel input))
    (hrest : ∀ read, HoldsOfEntries P read → ∀ input, Holds P (entries fuel read input))
    {read : List (RawText × RawDocument)} (hread : HoldsOfEntries P read) (input : List Char) :
    Holds P (entries (fuel + 1) read input) := by
  rw [entries]
  split
  · split
    · exact holds_error _
    · rename_i key _ _
      split
      · split
        · exact holds_error _
        · rename_i x _ hx
          have hmore := hread.insert key (hvalue _ _ _ hx)
          simp only
          split
          · exact hrest _ hmore _
          · exact holds_ok (hP.object _ hmore.1 hmore.2) _
          · exact holds_error _
      · exact holds_error _
  · exact holds_error _

/-- Values, elements and entries are read with the same fuel, so what holds of
them is shown together. -/
theorem holds_of_fuel (fuel : Nat) :
    (∀ input, Holds P (value fuel input)) ∧
      (∀ read : List RawDocument, (∀ x ∈ read, P x) →
        ∀ input, Holds P (elements fuel read input)) ∧
      ∀ read, HoldsOfEntries P read → ∀ input, Holds P (entries fuel read input) := by
  induction fuel with
  | zero => exact ⟨nofun, nofun, nofun⟩
  | succ fuel ih =>
      obtain ⟨hvalue, helements, hentries⟩ := ih
      refine ⟨?_, ?_, ?_⟩
      · exact holds_value hP (helements [] nofun) (hentries [] holdsOfEntries_nil)
      · intro read hread
        exact holds_elements hP hvalue helements hread
      · intro read hread
        exact holds_entries hP hvalue hentries hread

end Step

end Reader

theorem RawReadable.of_readRaw {P : RawDocument → Prop} (hP : RawReadable P) {text : List Char}
    {d : RawDocument} (h : readRaw text = .ok d) : P d := by
  rw [readRaw] at h
  split at h
  · cases h
  · rename_i x rest hx
    split at h
    · cases h
      exact (Reader.holds_of_fuel hP _).1 _ _ _ hx
    · cases h

/-- A pair of surrogates is always read as one character. -/
theorem unpaired_of_readRaw {text : List Char} {d : RawDocument} (h : readRaw text = .ok d) :
    d.Unpaired := by
  have hreadable : RawReadable RawDocument.Unpaired := {
    null := .null
    bool := .bool
    int value _ := .int value
    float := .float
    text _ hvalue := .text hvalue
    list _ helements := .list helements
    object _ _ hentries := .object hentries }
  exact hreadable.of_readRaw h

/-! ## What is shown -/

/-- Of everything that what is read can show this holds. -/
structure Readable (P : Document → Prop) : Prop where
  null : P .null
  bool : ∀ value, P (.bool value)
  int : ∀ value, Writable value → P (.int value)
  float : ∀ value, P (.float value)
  text : ∀ value, P (.text value)
  list : ∀ elements, (∀ x ∈ elements, P x) → P (.list elements)
  noEntries : P (.object [])
  insert : ∀ key value entries, P value → P (.object entries) →
    P (.object (Document.insert key value entries))

section Shown

variable (standIn : Fin 0x800 → Char)

theorem shownElements_eq_map (elements : List RawDocument) :
    RawDocument.shownElements standIn elements = elements.map (RawDocument.shown standIn) := by
  induction elements with
  | nil => rfl
  | cons x rest ih => rw [RawDocument.shownElements, ih, List.map_cons]

variable {standIn} {P : Document → Prop} (hP : Readable P)
include hP

theorem Readable.shownEntries {read : List (String × Document)} (hread : P (.object read))
    {entries : List (RawText × RawDocument)}
    (h : ∀ entry ∈ entries, P (entry.2.shown standIn)) :
    P (.object (RawDocument.shownEntries standIn read entries)) := by
  induction entries generalizing read with
  | nil => exact hread
  | cons entry rest ih =>
      obtain ⟨hvalue, hrest⟩ := List.forall_mem_cons.1 h
      exact ih (hP.insert _ _ _ hvalue hread) hrest

theorem Readable.rawReadable : RawReadable fun raw => P (raw.shown standIn) where
  null := hP.null
  bool := hP.bool
  int := hP.int
  float := hP.float
  text _ _ := hP.text _
  list elements h := by
    rw [RawDocument.shown, shownElements_eq_map]
    exact hP.list _ (List.forall_mem_map.2 h)
  object _ _ h := hP.shownEntries hP.noEntries h

/-- Whatever characters stand in for surrogates, it holds of the document that is shown. -/
theorem Readable.of_readRaw {text : List Char} {raw : RawDocument}
    (h : readRaw text = .ok raw) : P (raw.shown standIn) :=
  hP.rawReadable.of_readRaw h

theorem Readable.of_read {text : List Char} {d : Document} (h : read text = .ok d) : P d := by
  cases hraw : readRaw text with
  | error e =>
      rw [read, hraw] at h
      cases h
  | ok raw =>
      rw [read, hraw] at h
      rw [← Except.ok.inj h]
      exact hP.of_readRaw hraw

end Shown

/-! ## Keys -/

theorem wellKeyedEntries_insert (key : String) {value : Document} (hvalue : value.WellKeyed)
    {entries : List (String × Document)} (h : WellKeyedEntries entries) :
    WellKeyedEntries (insert key value entries) := by
  induction entries with
  | nil => exact ⟨hvalue, trivial⟩
  | cons entry rest ih =>
      obtain ⟨k, old⟩ := entry
      rw [insert]
      split
      · exact ⟨hvalue, h.2⟩
      · exact ⟨h.1, ih h.2⟩

theorem wellKeyed_object_nil : (object []).WellKeyed :=
  ⟨List.nodup_nil, trivial⟩

/-- An object stays well keyed when a well-keyed value is put in it. -/
theorem wellKeyed_insert (key : String) {value : Document} (hvalue : value.WellKeyed)
    {entries : List (String × Document)} (h : (object entries).WellKeyed) :
    (object (insert key value entries)).WellKeyed :=
  ⟨nodup_keys_insert key value h.1, wellKeyedEntries_insert key hvalue h.2⟩

theorem readable_wellKeyed : Readable WellKeyed where
  null := trivial
  bool _ := trivial
  int _ _ := trivial
  float _ := trivial
  text _ := trivial
  list elements h := by rwa [WellKeyed, wellKeyedElements_iff]
  noEntries := wellKeyed_object_nil
  insert key _ _ hvalue h := wellKeyed_insert key hvalue h

/-- No object of a document that was read has two entries of one key. -/
theorem wellKeyed_of_read {text : List Char} {d : Document} (h : read text = .ok d) :
    d.WellKeyed :=
  readable_wellKeyed.of_read h

end KidsListing.Document
