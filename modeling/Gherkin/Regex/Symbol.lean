import Gherkin.Regex.Expr
import Gherkin.Unicode.Property

/-!
# Symbols of patterns

A symbol is what one place of a pattern stands for: a character, a set of characters, the dot, or an
assertion about the place in the text. Symbols that are not written as themselves begin with a
backslash. The flags in force decide what a symbol means.
-/

namespace Gherkin.Regex

/-- Why a pattern is refused. -/
inductive PatternFault where
  | unopenedGroup
  | unclosedGroup
  | unclosedClass
  | lookAround
  | backReference
  | badEscape
  | badClass
  | badRange
  | badFlags
  | badGroupName
  | repeatedGroupName
  | nothingToRepeat
  | badRepetition
  | unknownProperty
  | halfCharacter
  | tooDeep
  | tooLarge
  deriving DecidableEq, Repr

/-- How the pattern is read from a place on. -/
structure Flags where
  ignoreCase : Bool := true
  multiLine : Bool := false
  dotMatchesNewline : Bool := false
  swapGreed : Bool := false
  unicode : Bool := true
  crlf : Bool := false
  verbose : Bool := false
  deriving DecidableEq, Repr

/-- The text without a comment up to the end of the line. -/
def afterComment (t : Text) : Text := (t.dropWhile (· ≠ '\n')).drop 1

theorem length_afterComment_le (t : Text) : (afterComment t).length ≤ t.length := by
  have := (List.dropWhile_suffix (l := t) (· ≠ '\n')).length_le
  simp only [afterComment, List.length_drop]; omega

/-- In verbose patterns white space and comments mean nothing. -/
def skipSpace (verbose : Bool) (t : Text) : Text :=
  match t with
  | [] => []
  | c :: rest =>
    if !verbose then t
    else if Text.isSpace c then skipSpace verbose rest
    else if c = '#' then skipSpace verbose (afterComment rest)
    else t
termination_by t.length
decreasing_by
  · simp
  · have := length_afterComment_le rest; simp; omega

/-- The text after its first character and what means nothing behind it. -/
def advance (fl : Flags) (t : Text) : Text := skipSpace fl.verbose t.tail

/-- The first character behind the head of a text that means something, as far as a look ahead
tells. In verbose patterns the look ahead passes over white space and over the sign that begins a
comment, but not over the words of the comment. -/
def peek (verbose : Bool) (t : Text) : Option Char :=
  if !verbose then t.tail.head?
  else
    let ahead := t.tail.dropWhile Text.isSpace
    let ahead := if ahead.head? = some '#' then ahead.tail.dropWhile Text.isSpace else ahead
    ahead.head? <|> t.tail.head?

/-- A set with letter case and negation applied, in this order. Where only bytes are matched, a set
may not reach beyond ASCII. -/
def finishSet (fl : Flags) (negated : Bool) (s : CharSet) : Except PatternFault CharSet :=
  let folded := if !fl.ignoreCase then s else if fl.unicode then s.foldCase else s.foldAsciiCase
  let whole := if negated then folded.compl else folded
  if fl.unicode || whole.isAscii then .ok whole else .error .halfCharacter

/-- The expression of a character under the flags: the set of the letters that count as one with
it, or the character alone if there is no other. -/
def letterExpr (fl : Flags) (c : Char) : Expr :=
  let single := CharSet.single c
  if !fl.ignoreCase then .ofSet single false
  else if fl.unicode then .ofSet single.foldCase false
  else .ofSet single.foldAsciiCase true

/-- The set behind one of the letters `d`, `s` and `w`. -/
def shorthandSet (fl : Flags) (c : Char) : CharSet :=
  let ascii (name : String) : CharSet := (CharSet.ascii? name).getD .empty
  match c, fl.unicode with
  | 'd', true => .digits
  | 's', true => .spaces
  | 'w', true => .words
  | 'd', false => ascii "digit"
  | 's', false => ascii "space"
  | _, _ => ascii "word"

/-- The set of the dot. -/
def dotSet (fl : Flags) : Except PatternFault CharSet :=
  if !fl.unicode then .error .halfCharacter
  else if fl.dotMatchesNewline then .ok .all
  else if fl.crlf then .ok (CharSet.compl ⟨[(10, 10), (13, 13)]⟩)
  else .ok (CharSet.compl ⟨[(10, 10)]⟩)

/-- What one symbol of a pattern stands for. A literal that was spelled with two hexadecimal digits
is a byte where only bytes are matched. -/
inductive Symbol where
  | literal (c : Char) (asByte : Bool)
  | set (s : CharSet)
  | dot
  | look (a : Assertion)

/-- A symbol and the text behind it. -/
abbrev Reading (α : Type) := Except PatternFault (α × Text)

/-- The character with a code point written in hexadecimal digits. -/
def hexChar? (digits : Text) : Option Char :=
  let n := Unicode.hexNumber digits
  if digits.isEmpty || !digits.all (fun c ↦ (Unicode.hexDigit? c).isSome) then none
  else if h : n.isValidChar then some (Char.ofNatAux n h)
  else none

/-- A fixed number of characters, with what means nothing between them left out. -/
def takeFixed (fl : Flags) : Nat → Text → Option (Text × Text)
  | 0, t => some ([], t)
  | _ + 1, [] => none
  | n + 1, c :: rest =>
    (takeFixed fl n (skipSpace fl.verbose rest)).map fun (cs, t) ↦ (c :: cs, t)

/-- The characters before a closing brace, with what means nothing between them left out. -/
def takeBraced (fl : Flags) (fuel : Nat) (t : Text) : Option (Text × Text) :=
  match fuel, t with
  | _, [] => none
  | 0, _ => none
  | fuel + 1, c :: rest =>
    if c = '\x7d' then some ([], rest)
    else (takeBraced fl fuel (skipSpace fl.verbose rest)).map fun (cs, t) ↦ (c :: cs, t)

/-- A character spelled by its code point; the text begins behind the letter. -/
def readHex (fl : Flags) (letter : Char) (t : Text) : Reading Symbol :=
  let t := skipSpace fl.verbose t
  let width := if letter = 'x' then 2 else if letter = 'u' then 4 else 8
  match t with
  | '\x7b' :: rest =>
    match takeBraced fl t.length (skipSpace fl.verbose rest) with
    | none => .error .badEscape
    | some (digits, after) =>
      match hexChar? digits with
      | some c => .ok (.literal c false, skipSpace fl.verbose after)
      | none => .error .badEscape
  | _ =>
    match takeFixed fl width t with
    | none => .error .badEscape
    | some (digits, after) =>
      match hexChar? digits with
      | some c => .ok (.literal c (letter = 'x'), after)
      | none => .error .badEscape

/-- A text cut at the first place where `mark` stands. -/
def cutAt? (mark : Text) : Text → Option (Text × Text)
  | [] => none
  | c :: rest =>
    match Text.afterPrefix? mark (c :: rest) with
    | some after => some ([], after)
    | none => (cutAt? mark rest).map fun (before, after) ↦ (c :: before, after)

/-- The characters that a named property stands for, and whether the name denies it. -/
def lookUpProperty (name : Text) : Option (Unicode.Ranges × Bool) :=
  match cutAt? ['!', '='] name with
  | some (key, value) => (Unicode.namedWithValue? key value).map (·, true)
  | none =>
    match cutAt? [':'] name with
    | some (key, value) => (Unicode.namedWithValue? key value).map (·, false)
    | none =>
      match cutAt? ['='] name with
      | some (key, value) => (Unicode.namedWithValue? key value).map (·, false)
      | none => (Unicode.namedAlone? name).map (·, false)

/-- A set named by a property; the text begins behind the letter. -/
def readProperty (fl : Flags) (negated : Bool) (t : Text) : Reading Symbol :=
  let t := skipSpace fl.verbose t
  let named : Except PatternFault (Text × Text) :=
    match t with
    | [] => .error .badEscape
    | '\\' :: _ => .error .badEscape
    | '\x7b' :: rest =>
      match takeBraced fl t.length (skipSpace fl.verbose rest) with
      | some r => .ok r
      | none => .error .badEscape
    | c :: rest => .ok ([c], skipSpace fl.verbose rest)
  match named with
  | .error e => .error e
  | .ok (name, after) =>
    if !fl.unicode then .error .halfCharacter
    else
      match lookUpProperty name with
      | none => .error .unknownProperty
      | some (ranges, denied) =>
        (finishSet fl (negated != denied) (.ofRanges ranges)).map (.set ·, after)

/-- The assertion in braces behind `\b`, if there is one; braces that hold no word belong to a
repetition. -/
def readWordEdge (fl : Flags) (t : Text) : Except PatternFault (Option (Assertion × Text)) :=
  let isWordPart (c : Char) : Bool := c.isAlpha || c == '-'
  match t with
  | '\x7b' :: rest =>
    match skipSpace fl.verbose rest with
    | [] => .error .badEscape
    | c :: rest' =>
      if !isWordPart c then .ok none
      else
        match takeBraced fl t.length (c :: rest') with
        | none => .error .badEscape
        | some (word, after) =>
          let ascii := !fl.unicode
          match String.ofList word with
          | "start" => .ok (some (.wordStart ascii, after))
          | "end" => .ok (some (.wordEnd ascii, after))
          | "start-half" => .ok (some (.wordStartHalf ascii, after))
          | "end-half" => .ok (some (.wordEndHalf ascii, after))
          | _ => .error .badEscape
  | _ => .ok none

/-- The characters that may stand behind a backslash to stand for themselves. -/
def isEscapable (c : Char) : Bool :=
  c.toNat < 128 && !c.isAlphanum && c != '<' && c != '>'

/-- A symbol that begins with a backslash; the text begins behind it. -/
def readEscape (fl : Flags) (t : Text) : Reading Symbol :=
  match t with
  | [] => .error .badEscape
  | c :: rest =>
    if c.isDigit then .error .backReference
    else if c ∈ ['x', 'u', 'U'] then readHex fl c rest
    else if c = 'p' || c = 'P' then readProperty fl (c = 'P') rest
    else if c ∈ ['d', 's', 'w'] then .ok (.set (shorthandSet fl c), rest)
    else if c ∈ ['D', 'S', 'W'] then
      let whole := (shorthandSet fl c.toLower).compl
      if fl.unicode then .ok (.set whole, rest) else .error .halfCharacter
    else if isEscapable c then .ok (.literal c false, rest)
    else
      match c with
      | 'a' => .ok (.literal '\x07' false, rest)
      | 'f' => .ok (.literal '\x0c' false, rest)
      | 't' => .ok (.literal '\t' false, rest)
      | 'n' => .ok (.literal '\n' false, rest)
      | 'r' => .ok (.literal '\r' false, rest)
      | 'v' => .ok (.literal '\x0b' false, rest)
      | 'A' => .ok (.look .textStart, rest)
      | 'z' => .ok (.look .textEnd, rest)
      | 'B' => .ok (.look (.notWordBoundary !fl.unicode), rest)
      | '<' => .ok (.look (.wordStart !fl.unicode), rest)
      | '>' => .ok (.look (.wordEnd !fl.unicode), rest)
      | 'b' =>
        match readWordEdge fl rest with
        | .error e => .error e
        | .ok (some (a, after)) => .ok (.look a, after)
        | .ok none => .ok (.look (.wordBoundary !fl.unicode), rest)
      | _ => .error .badEscape

end Gherkin.Regex
