import KidsListing.Proofs.Document.Characters
import KidsListing.Proofs.Feed.Channels

/-!
# Writing a channel file

Ids without pairs of surrogates can be written to a channel file.  The file lists the ids
that were written and nothing else.
-/

namespace KidsListing.Channels

open KidsListing.Document.Reader (characters_quotedText elements entries escaped isSpace
  quotedText skip value)

def quotedTexts (texts : List RawText) : List Char :=
  [','].intercalate (texts.map quotedText)

/-- A channel file that lists some ids, and nothing else. -/
def written (ids : List RawText) : String :=
  String.ofList ('\x7b' :: (quotedText (.ofString "channels") ++
    ':' :: '[' :: (quotedTexts ids ++ [']', '\x7d'])))

/-! ## Texts -/

theorem quotedText_append (text : RawText) (rest : List Char) :
    quotedText text ++ rest = '"' :: (text.flatMap escaped ++ '"' :: rest) := by
  rw [quotedText, List.cons_append, List.append_assoc, List.singleton_append]

theorem skip_of_not_space {c : Char} (h : isSpace c = false) (rest : List Char) :
    skip (c :: rest) = c :: rest := by
  rw [skip, List.dropWhile_cons_of_neg (by rw [h]; exact Bool.false_ne_true)]

theorem value_quotedText (fuel : Nat) {text : RawText} (h : text.Unpaired)
    (rest : List Char) :
    value (fuel + 1) (quotedText text ++ rest) = .ok (.text text, rest) := by
  rw [quotedText_append, value, skip_of_not_space rfl]
  simp only [characters_quotedText h]

/-! ## Lists of texts -/

theorem length_le_length_quotedTexts (texts : List RawText) :
    texts.length ≤ (quotedTexts texts).length := by
  induction texts with
  | nil => exact Nat.zero_le _
  | cons text texts ih =>
      rw [quotedTexts, List.map_cons]
      cases texts with
      | nil => simp [quotedText]
      | cons next texts =>
          rw [List.map_cons, List.intercalate_cons_cons, List.length_append,
            List.length_append, ← List.map_cons]
          rw [quotedTexts] at ih
          simp only [List.length_cons, List.length_nil] at ih ⊢
          omega

/-- With fuel for each text, the texts are read one after the other. -/
theorem elements_quotedTexts (extra : Nat) (read : List RawDocument) {texts : List RawText}
    (h : texts ≠ []) (hunpaired : ∀ text ∈ texts, text.Unpaired) (rest : List Char) :
    elements (extra + texts.length + 1) read (quotedTexts texts ++ ']' :: rest) =
      .ok (.list (read.reverse ++ texts.map .text), rest) := by
  induction texts generalizing read with
  | nil => exact absurd rfl h
  | cons text texts ih =>
      obtain ⟨htext, hunpaired⟩ := List.forall_mem_cons.1 hunpaired
      have hfuel : extra + (text :: texts).length = extra + texts.length + 1 := by
        rw [List.length_cons]
        omega
      rw [hfuel, elements, quotedTexts, List.map_cons]
      cases texts with
      | nil =>
          rw [List.map_nil, List.intercalate_singleton, value_quotedText _ htext]
          change Except.ok (RawDocument.list (.text text :: read).reverse, rest) = _
          rw [List.reverse_cons]
          rfl
      | cons next texts =>
          rw [List.map_cons, List.intercalate_cons_cons, ← List.map_cons, List.append_assoc,
            List.append_assoc, value_quotedText _ htext]
          change elements (extra + (next :: texts).length + 1) (.text text :: read)
            (quotedTexts (next :: texts) ++ ']' :: rest) = _
          rw [ih _ (List.cons_ne_nil _ _) hunpaired, List.reverse_cons, List.append_assoc,
            List.singleton_append]
          rfl

/-- The quotation mark of the first text tells a list of texts from an empty one. -/
theorem value_quotedTexts (extra : Nat) {texts : List RawText}
    (h : ∀ text ∈ texts, text.Unpaired) (rest : List Char) :
    value (extra + texts.length + 2) ('[' :: (quotedTexts texts ++ ']' :: rest)) =
      .ok (.list (texts.map .text), rest) := by
  rw [value, skip_of_not_space rfl]
  cases texts with
  | nil => rfl
  | cons text texts =>
      have helements := elements_quotedTexts extra [] (List.cons_ne_nil text texts) h rest
      rw [List.reverse_nil, List.nil_append] at helements
      obtain ⟨more, hmore⟩ : ∃ more, quotedTexts (text :: texts) = '"' :: more := by
        cases texts <;> exact ⟨_, rfl⟩
      rw [hmore] at helements ⊢
      simp only [List.cons_append, skip_of_not_space (show isSpace '"' = false from rfl)]
      exact helements

/-! ## Files -/

theorem entries_quotedText {fuel : Nat} {input rest : List Char} {x : RawDocument}
    {key : RawText} (hkey : key.Unpaired) (h : value fuel input = .ok (x, '\x7d' :: rest)) :
    entries (fuel + 1) [] (quotedText key ++ ':' :: input) = .ok (.object [(key, x)], rest) := by
  rw [quotedText_append, entries, skip_of_not_space rfl]
  simp only [characters_quotedText hkey, skip_of_not_space (show isSpace ':' = false from rfl), h,
    skip_of_not_space (show isSpace '\x7d' = false from rfl), Document.insert]

section Written

variable {ids : List RawText} (h : ∀ id ∈ ids, id.Unpaired)
include h

theorem value_written (extra : Nat) :
    value (extra + ids.length + 4) (written ids).toList =
      .ok (.object [(.ofString "channels", .list (ids.map .text))], []) := by
  have hids := value_quotedTexts extra h ['\x7d']
  have hentries := entries_quotedText (RawText.unpaired_ofString "channels") hids
  rw [written, String.toList_ofList, value, skip_of_not_space rfl]
  rw [quotedText_append] at hentries ⊢
  simp only [skip_of_not_space (show isSpace '"' = false from rfl)]
  exact hentries

theorem readRaw_written :
    Document.readRaw (written ids).toList =
      .ok (.object [(.ofString "channels", .list (ids.map .text))]) := by
  have hlength : ids.length + 3 ≤ (written ids).toList.length := by
    have hids := length_le_length_quotedTexts ids
    simp only [written, String.toList_ofList, List.length_cons, List.length_append]
    omega
  obtain ⟨extra, hextra⟩ := Nat.exists_eq_add_of_le hlength
  have hfuel : (written ids).toList.length + 1 = extra + ids.length + 4 := by omega
  rw [Document.readRaw, hfuel, value_written h]
  rfl

theorem lists_written :
    (Source.file (Text.Utf8.encode (written ids))).Lists (ids.map .text) :=
  ⟨written ids, _, rfl, readRaw_written h, rfl⟩

end Written

end KidsListing.Channels
