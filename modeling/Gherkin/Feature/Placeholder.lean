import Gherkin.Record

/-!
# Placeholders

A text may hold placeholders such as `<name>`, whose values come from a record. A text is read as a
list of pieces, and both the names and the text with the values filled in are read off that list.

Main statement: the pieces of a text written one after the other give the text back
(`flatMap_toText_ofText`).
-/

namespace Gherkin

/-- A part of a text with placeholders. -/
inductive Piece where
  /-- A character that stands for itself. -/
  | literal (c : Char)
  /-- A placeholder. -/
  | placeholder (name : Text)
  deriving DecidableEq, Repr

namespace Piece

/-- A piece as it is written. -/
def toText : Piece → Text
  | literal c => [c]
  | placeholder name => '<' :: name ++ ['>']

/-- A piece with the value of a row filled in; a name that the row lacks stays as it is. -/
def fill (row : Record) : Piece → Text
  | literal c => [c]
  | placeholder name => (row.get? name).getD ('<' :: name ++ ['>'])

def name? : Piece → Option Text
  | literal _ => none
  | placeholder name => some name

end Piece

/-- The name and the rest of a text that follows an opening angle bracket, if it is a placeholder:
the name is what comes before the next closing bracket, is not empty, and starts with no white
space. -/
def placeholder? (t : Text) : Option (Text × Text) :=
  match t with
  | [] => none
  | c :: _ =>
    if c = '>' || Text.isSpace c then none
    else
      match t.dropWhile (· ≠ '>') with
      | [] => none
      | _ :: after => some (t.takeWhile (· ≠ '>'), after)

theorem placeholder?_eq_some {t name after : Text} (h : placeholder? t = some (name, after)) :
    t = name ++ '>' :: after := by
  unfold placeholder? at h
  split at h
  · cases h
  · next c rest =>
    split at h
    · cases h
    · split at h
      · cases h
      · next d after' hd =>
        cases h
        have hsplit := List.takeWhile_append_dropWhile (l := c :: rest) (p := (· ≠ '>'))
        rw [hd] at hsplit
        have : d = '>' := by
          have := List.head?_dropWhile_not (· ≠ '>') (c :: rest)
          rw [hd] at this
          simpa using this
        rw [this] at hsplit
        exact hsplit.symm

/-- The pieces of a text. Placeholders are found from the left and do not overlap. -/
def Piece.ofText (t : Text) : List Piece :=
  match t with
  | [] => []
  | c :: rest =>
    if c = '<' then
      match _h : placeholder? rest with
      | some (name, after) => .placeholder name :: ofText after
      | none => .literal c :: ofText rest
    else .literal c :: ofText rest
termination_by t.length
decreasing_by
  · have := congrArg List.length (placeholder?_eq_some _h)
    simp at this ⊢; omega
  · simp
  · simp

/-- A text with the values of a row for its placeholders, all filled in at once. -/
def substitute (row : Record) (t : Text) : Text := (Piece.ofText t).flatMap (Piece.fill row)

/-- The names of the placeholders of a text in order, with repetitions. -/
def placeholders (t : Text) : List Text := (Piece.ofText t).filterMap Piece.name?

theorem flatMap_toText_ofText (t : Text) : (Piece.ofText t).flatMap Piece.toText = t := by
  fun_induction Piece.ofText t with
  | case1 => rfl
  | case2 rest name after h ih => simp_all [Piece.toText, placeholder?_eq_some h]
  | case3 rest h ih => simp_all [Piece.toText]
  | case4 c rest ih => simp_all [Piece.toText]

end Gherkin
