import Gherkin.Check.OsText

/-!
# Pieces of texts of the operating system

The pieces of a text are all of its bytes in order, and those of the UTF-8 form of a text are its
characters. So bytes are the form of one text at most, which is what they are shown as.

Main statements: `OsText.text?_eq_some_iff`, `OsText.display_ofText`.
-/

namespace Gherkin.OsText

@[simp] theorem ofText_nil : ofText [] = [] := rfl

theorem within_prefix (ranges : List (UInt8 × UInt8)) (bytes : OsText) :
    within ranges bytes <+: bytes := by
  fun_induction within ranges bytes with
  | case1 low high ranges b rest _ ih => exact (List.prefix_cons_inj b).2 ih
  | case2 => exact List.nil_prefix
  | case3 => exact List.nil_prefix

/-- A piece is what its text begins with. -/
theorem exists_bytes_nextPiece_eq (b : UInt8) (rest : OsText) :
    ∃ more, (nextPiece b rest).bytes = b :: more ∧ more <+: rest := by
  rw [nextPiece]
  split
  · next c h =>
    obtain ⟨after, h⟩ := ByteArray.exists_of_utf8DecodeChar?_eq_some h
    obtain ⟨first, more, hbytes⟩ : ∃ first more, String.utf8EncodeChar c = first :: more :=
      List.exists_cons_of_ne_nil String.utf8EncodeChar_ne_nil
    have hlist : b :: rest = first :: (more ++ after.data.toList) := by
      have h := congrArg (·.data.toList) h
      simpa [ByteArray.data_append, hbytes] using h
    obtain ⟨rfl, rfl⟩ := List.cons.inj hlist
    exact ⟨more, hbytes, List.prefix_append more _⟩
  · exact ⟨_, rfl, within_prefix _ rest⟩

/-- The pieces of a text are all of its bytes. -/
theorem flatMap_bytes_pieces (bytes : OsText) : (pieces bytes).flatMap Piece.bytes = bytes := by
  fun_induction pieces bytes with
  | case1 => rfl
  | case2 b rest piece ih =>
    obtain ⟨more, hbytes, after, rfl⟩ := exists_bytes_nextPiece_eq b rest
    have hpiece : piece.bytes = b :: more := hbytes
    rw [List.flatMap_cons, ih, hpiece, List.length_cons, Nat.add_sub_cancel, List.drop_left,
      List.cons_append]

theorem nextPiece_of_utf8EncodeChar {c : Char} {b : UInt8} {more : OsText}
    (h : String.utf8EncodeChar c = b :: more) (rest : OsText) :
    nextPiece b (more ++ rest) = .char c := by
  have hdecode : ByteArray.utf8DecodeChar? (b :: (more ++ rest)).toByteArray 0 = some c := by
    rw [← List.cons_append, ← h, List.toByteArray_append]
    exact ByteArray.utf8DecodeChar?_utf8EncodeChar_append
  rw [nextPiece, hdecode]

/-- The pieces of the UTF-8 form of a text are its characters. -/
theorem pieces_ofText (t : Text) : pieces (ofText t) = t.map .char := by
  induction t with
  | nil => rw [ofText_nil, pieces, List.map_nil]
  | cons c t ih =>
    obtain ⟨b, more, hbytes⟩ : ∃ b more, String.utf8EncodeChar c = b :: more :=
      List.exists_cons_of_ne_nil String.utf8EncodeChar_ne_nil
    have hpiece : nextPiece b (more ++ ofText t) = .char c :=
      nextPiece_of_utf8EncodeChar hbytes _
    have hdrop : (more ++ ofText t).drop ((Piece.char c).bytes.length - 1) = ofText t := by
      rw [Piece.bytes, hbytes, List.length_cons, Nat.add_sub_cancel, List.drop_left]
    rw [ofText, List.flatMap_cons, hbytes, ← ofText, List.cons_append, pieces]
    simp only [hpiece, hdrop, ih, List.map_cons]

theorem mapM_char?_eq_some_iff {ps : List Piece} {t : Text} :
    ps.mapM Piece.char? = some t ↔ ps = t.map .char := by
  induction ps generalizing t with
  | nil => cases t <;> simp
  | cons p ps ih =>
    simp only [List.mapM_cons, Option.bind_eq_bind, Option.bind_eq_some_iff, ih, Option.pure_def,
      Option.some.injEq]
    cases p with
    | stray bytes => cases t <;> simp [Piece.char?]
    | char c =>
      cases t with
      | nil => simp
      | cons d t => simpa [Piece.char?] using and_comm

/-- Bytes are read as the text whose UTF-8 form they are, and not at all if they are of none. -/
theorem text?_eq_some_iff {bytes : OsText} {t : Text} :
    text? bytes = some t ↔ bytes = ofText t := by
  rw [text?, mapM_char?_eq_some_iff]
  constructor
  · intro h
    rw [← flatMap_bytes_pieces bytes, h, List.flatMap_map]
    rfl
  · rintro rfl
    exact pieces_ofText t

/-- The bytes are the UTF-8 form of a text. -/
def IsText (bytes : OsText) : Prop := ∃ t : Text, bytes = ofText t

theorem isText_iff {bytes : OsText} : IsText bytes ↔ (text? bytes).isSome := by
  simp only [IsText, Option.isSome_iff_exists, text?_eq_some_iff]

/-- The UTF-8 form of a text is shown as the text. -/
@[simp] theorem display_ofText (t : Text) : display (ofText t) = t := by
  rw [display, pieces_ofText, List.map_map]
  exact List.map_id t

end Gherkin.OsText
