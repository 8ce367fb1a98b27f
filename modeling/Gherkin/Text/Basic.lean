/-!
# Text as a list of characters

Every reading of a document is a recursion over its characters, so a text is the list of them.
This module fixes what counts as white space, how a text is trimmed and cut into words, and how
many bytes its UTF-8 form takes; positions in a document are measured in both characters and
bytes.

Main statements: trimming cuts a text into white space, a trimmed middle and white space
(`trimStart_append`, `trimEnd_append`), and the byte measure is additive (`byteSize_append`).
-/

namespace Gherkin

/-- A text is the list of its characters. -/
abbrev Text := List Char

instance : Coe String Text := ⟨String.toList⟩

namespace Text

/-- The characters with the Unicode property `White_Space`. -/
def isSpace (c : Char) : Bool :=
  let n := c.toNat
  (9 ≤ n && n ≤ 13) || n == 0x20 || n == 0x85 || n == 0xA0 || n == 0x1680 ||
    (0x2000 ≤ n && n ≤ 0x200A) || n == 0x2028 || n == 0x2029 || n == 0x202F || n == 0x205F ||
    n == 0x3000

/-- The white space a text begins with. -/
def leading (t : Text) : Text := t.takeWhile isSpace

def trimStart (t : Text) : Text := t.dropWhile isSpace

def trimEnd (t : Text) : Text := (t.reverse.dropWhile isSpace).reverse

def trim (t : Text) : Text := trimEnd (trimStart t)

def isBlank (t : Text) : Bool := t.all isSpace

theorem leading_append_trimStart (t : Text) : leading t ++ trimStart t = t :=
  List.takeWhile_append_dropWhile

theorem trimStart_append {s t : Text} (h : isBlank s) : trimStart (s ++ t) = trimStart t := by
  induction s with
  | nil => rfl
  | cons c s ih =>
    simp only [isBlank, List.all_cons, Bool.and_eq_true] at h
    simpa [trimStart, List.dropWhile_cons, h.1] using ih h.2

theorem trimEnd_append {s t : Text} (h : isBlank t) : trimEnd (s ++ t) = trimEnd s := by
  have h' : isBlank t.reverse := by simpa [isBlank] using h
  have := trimStart_append (t := s.reverse) h'
  simpa [trimEnd, trimStart] using congrArg List.reverse this

/-- The maximal runs of characters other than white space, in order. -/
def words (t : Text) : List Text := (t.splitOnP isSpace).filter fun w ↦ !w.isEmpty

def join (separator : Text) (parts : List Text) : Text := separator.intercalate parts

/-- The words of a text with one blank between neighbours. -/
def collapse (t : Text) : Text := join [' '] (words t)

/-- Texts written as lines, each closed by a line feed. -/
def unlines (lines : List Text) : Text := lines.flatMap (· ++ ['\n'])

/-- The pieces of a text between its line feeds; there is one more piece than line feeds. -/
def splitLines (t : Text) : List Text := t.splitOn '\n'

/-- What follows `p` in a text that starts with it. -/
def afterPrefix? : Text → Text → Option Text
  | [], t => some t
  | _ :: _, [] => none
  | p :: ps, c :: t => if p = c then afterPrefix? ps t else none

theorem afterPrefix?_eq_some_iff {p t r : Text} : afterPrefix? p t = some r ↔ t = p ++ r := by
  induction p generalizing t with
  | nil => simp [afterPrefix?, eq_comm]
  | cons c p ih =>
    cases t with
    | nil => simp [afterPrefix?]
    | cons d t =>
      by_cases h : c = d
      · simp [afterPrefix?, h, ih]
      · simp [afterPrefix?, h, Ne.symm h]

/-- A text without the given prefix, or the text itself where it does not start so. -/
def dropPrefix (p t : Text) : Text := (afterPrefix? p t).getD t

def startsWith (t p : Text) : Bool := (afterPrefix? p t).isSome

/-- Every occurrence of `old`, found from the left without overlap, replaced by `new`. -/
def replace (old new : Text) (t : Text) : Text :=
  match t with
  | [] => []
  | c :: rest =>
    match old with
    | [] => c :: rest
    | o :: os =>
      if o = c then
        match _h : afterPrefix? os rest with
        | some after => new ++ replace (o :: os) new after
        | none => c :: replace (o :: os) new rest
      else c :: replace (o :: os) new rest
termination_by t.length
decreasing_by
  · have := afterPrefix?_eq_some_iff.1 _h
    subst this
    simp only [List.length_append, List.length_cons]; omega
  · simp
  · simp

/-- The number of bytes of the UTF-8 form. -/
def byteSize : Text → Nat
  | [] => 0
  | c :: t => c.utf8Size + byteSize t

@[simp] theorem byteSize_nil : byteSize [] = 0 := rfl

@[simp] theorem byteSize_cons (c : Char) (t : Text) :
    byteSize (c :: t) = c.utf8Size + byteSize t := rfl

@[simp] theorem byteSize_append (s t : Text) : byteSize (s ++ t) = byteSize s + byteSize t := by
  induction s with
  | nil => simp
  | cons c s ih => simp only [List.cons_append, byteSize_cons, ih, Nat.add_assoc]

/-- The text from byte `n` on, where a character starts or the text ends there. -/
def dropBytes? : Nat → Text → Option Text
  | 0, t => some t
  | _ + 1, [] => none
  | n + 1, c :: t => if c.utf8Size ≤ n + 1 then dropBytes? (n + 1 - c.utf8Size) t else none

/-- The text up to byte `n`, where a character ends there. -/
def takeBytes? : Nat → Text → Option Text
  | 0, _ => some []
  | _ + 1, [] => none
  | n + 1, c :: t =>
    if c.utf8Size ≤ n + 1 then (takeBytes? (n + 1 - c.utf8Size) t).map (c :: ·) else none

/-- The text between two byte offsets that lie on character boundaries. -/
def slice? (t : Text) (start stop : Nat) : Option Text :=
  if start ≤ stop then (dropBytes? start t).bind (takeBytes? (stop - start)) else none

/-- The decimal digits of a number. -/
def ofNat (n : Nat) : Text := Nat.toDigits 10 n

def blanks (n : Nat) : Text := List.replicate n ' '

/-- The order of texts by code points, which is also the order of their UTF-8 bytes. -/
def le (a b : Text) : Bool := (compare a b).isLE

/-- The distinct texts of a list in increasing order. -/
def sorted (ts : List Text) : List Text := ts.eraseDups.mergeSort le

end Text

end Gherkin
