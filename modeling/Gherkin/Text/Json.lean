import Gherkin.Text.Basic

/-!
# JSON documents

The values that reports are made of, and their written form: one item a line, two blanks for each
level, the members of an object in the order given.
-/

namespace Gherkin

/-- A JSON value. -/
inductive Json where
  | text (t : Text)
  | number (n : Nat)
  | boolean (b : Bool)
  | array (items : List Json)
  | object (members : List (Text × Json))
  deriving Repr

namespace Json

def hexDigit (n : Nat) : Char := (Nat.toDigits 16 (n % 16)).headD '0'

/-- How a character is written in a string. -/
def escapedChar (c : Char) : Text :=
  if c = '"' ∨ c = '\\' then ['\\', c]
  else if c = '\n' then ['\\', 'n']
  else if c = '\r' then ['\\', 'r']
  else if c = '\t' then ['\\', 't']
  else if c = '\x08' then ['\\', 'b']
  else if c = '\x0c' then ['\\', 'f']
  else if c.toNat < 0x20 then
    ['\\', 'u', '0', '0', hexDigit (c.toNat / 16), hexDigit c.toNat]
  else [c]

def quote (t : Text) : Text := ['"'] ++ t.flatMap escapedChar ++ ['"']

/-- The beginning of a line at a level. -/
def newLine (level : Nat) : Text := '\n' :: Text.blanks (2 * level)

/-- Written items between brackets, each on a line of its own. -/
def enclose (level : Nat) (opening closing : Char) (items : List Text) : Text :=
  if items.isEmpty then [opening, closing]
  else
    [opening] ++ Text.join [','] (items.map (newLine (level + 1) ++ ·)) ++ newLine level ++
      [closing]

mutual

def render (level : Nat) : Json → Text
  | text t => quote t
  | number n => Text.ofNat n
  | boolean b => if b then "true" else "false"
  | array items => enclose level '[' ']' (renderItems (level + 1) items)
  | object members => enclose level '\x7b' '\x7d' (renderMembers (level + 1) members)

def renderItems (level : Nat) : List Json → List Text
  | [] => []
  | item :: rest => render level item :: renderItems level rest

def renderMembers (level : Nat) : List (Text × Json) → List Text
  | [] => []
  | (name, value) :: rest =>
    (quote name ++ [':', ' '] ++ render level value) :: renderMembers level rest

end

def display (j : Json) : Text := j.render 0

end Json

end Gherkin
