import Gherkin.Regex.Expr
import Gherkin.Unicode.ByteRows

/-!
# How much room an expression takes

A pattern that would take too much room to search for is refused. The room is that of an automaton
over bytes, once reading forward and once reading backward: this module counts the states that the
automaton of an expression has, and the bytes they take, without building it.

Two states with the same transitions are one, as far as they are remembered. What is remembered is
kept in a limited number of places, which the numbers of the states decide, so states are numbered
as they are laid down.
-/

namespace Gherkin.Regex

open Unicode (ByteRange ByteRow)

/-- The direction in which an automaton reads. -/
inductive Direction where
  | forward
  | backward
  deriving DecidableEq, Repr

/-- The room taken so far: the number of states, and what their lists of transitions take. -/
structure Footprint where
  states : Nat
  lists : Nat
  deriving DecidableEq, Repr

namespace Footprint

def bytes (f : Footprint) : Nat := 32 * f.states + f.lists

/-- The room that a pattern may take. -/
def limit : Nat := 10485760

def isFull (f : Footprint) : Bool := limit < f.bytes

/-- A number of states without lists. -/
def add (f : Footprint) (count : Nat) : Footprint := { f with states := f.states + count }

/-- A state with a number of transitions, each on a range of bytes. -/
def addRanges (f : Footprint) (count : Nat) : Footprint := ⟨f.states + 1, f.lists + 8 * count⟩

/-- Entries in the lists of states that go on in several ways. -/
def link (f : Footprint) (count : Nat) : Footprint := { f with lists := f.lists + 4 * count }

end Footprint

/-- The transitions of a state: a range of bytes with the number of the state behind it. -/
abbrev Transitions := List (ByteRange × Nat)

/-- States that are remembered, each in its place with its number, and the room taken. -/
structure Memory (α : Type) where
  places : Array (Option (α × Nat))
  room : Footprint

namespace Memory

variable {α : Type}

/-- A number of places in which nothing is remembered. -/
def blank (places : Nat) (room : Footprint) : Memory α := ⟨Array.replicate places none, room⟩

/-- The place of a state that is given by a row of numbers. -/
def place (m : Memory α) (ns : List UInt64) : Nat :=
  let mixed := ns.foldl (fun h n ↦ (h ^^^ n) * 1099511628211) 14695981039346656037
  mixed.toNat % m.places.size

/-- The number of a state that is remembered in a place, or of one more state which is remembered
there from now on. -/
def remember [BEq α] (m : Memory α) (place : Nat) (state : α) (lay : Footprint → Footprint) :
    Nat × Memory α :=
  match m.places.getD place none with
  | some (known, number) => if known == state then (number, m) else new m
  | none => new m
where
  /-- Lays the state down and remembers it. -/
  new (m : Memory α) : Nat × Memory α :=
    (m.room.states, ⟨m.places.set! place (some (state, m.room.states)), lay m.room⟩)

end Memory

/-- The states that read rows of byte ranges and go on at `target`: those behind the first bytes,
from left to right, and then the state that reads the first bytes. The number bounds the length of
the rows. -/
def layRows (target : Nat) (length : Nat) (rows : List ByteRow) (m : Memory Transitions) :
    Nat × Memory Transitions :=
  match length with
  | 0 => (target, m)
  | length + 1 =>
    let step : Transitions × Memory Transitions → List ByteRow → Transitions × Memory Transitions :=
      fun (ts, m) rows ↦
        match rows with
        | (r :: _) :: _ =>
          let tails := rows.map List.tail
          let (next, m) :=
            if tails.all List.isEmpty then (target, m) else layRows target length tails m
          ((r, next) :: ts, m)
        | _ => (ts, m)
    let (ts, m) := (rows.splitBy fun a b ↦ a.head? == b.head?).foldl step ([], m)
    let ts := ts.reverse
    let numbers := ts.flatMap fun ((a, b), next) ↦ [a.toUInt64, b.toUInt64, next.toUInt64]
    m.remember (m.place numbers) ts (·.addRanges ts.length)

/-- The states that read rows of byte ranges from their ends, each row by itself except that rows
which end alike share their last states. -/
def layRowsBackward (rows : List ByteRow) (room : Footprint) : Footprint :=
  let target := room.states + 1
  let row (m : Memory (Nat × ByteRange)) (ranges : ByteRow) : Memory (Nat × ByteRange) :=
    let (_, m) := ranges.foldl (fun (next, m) (a, b) ↦
      let place := m.place [next.toUInt64, a.toUInt64, b.toUInt64]
      m.remember place (next, (a, b)) (·.add 1)) (target, m)
    { m with room := m.room.link 1 }
  (rows.foldl row (.blank 1000 (room.add 2))).room

def laySet (d : Direction) (s : CharSet) (room : Footprint) : Footprint :=
  if s.isAscii then (room.add 1).addRanges s.ranges.length
  else
    let rows := s.ranges.flatMap fun (first, last) ↦ Unicode.byteRows first last
    match d with
    | .forward => (layRows room.states 4 rows (.blank 10000 (room.add 1))).2.room
    | .backward => layRowsBackward rows room

/-- The bytes of a text in the direction of reading. -/
def literalBytes (d : Direction) (t : Text) : List UInt8 :=
  let bytes := t.flatMap String.utf8EncodeChar
  match d with
  | .forward => bytes
  | .backward => bytes.reverse

/-- What is left of literals in order, cut where one of them ends. A literal that ends where another
has ended before, with nothing between them, makes no cut. -/
def cutAtEnds (rests : List (List UInt8)) : List (List (List UInt8)) :=
  match rests with
  | [] :: rests => [] :: (rests.dropWhile List.isEmpty).splitOnP List.isEmpty
  | _ => rests.splitOnP List.isEmpty

/-- The states of a tree of literals, in which literals that begin alike share their first states.
Where a literal ends, those before it are tried before it and those behind it after it. The number
bounds the length of the literals. -/
def layLiterals (length : Nat) (rests : List (List UInt8)) (room : Footprint) : Footprint :=
  match length with
  | 0 => room
  | length + 1 =>
    let chunks := cutAtEnds rests
    let branch (room : Footprint) (chunk : List (List UInt8)) : Footprint :=
      let heads := (chunk.filterMap List.head?).eraseDups
      let room := heads.foldl (fun room b ↦
        let tails := (chunk.filter fun r ↦ r.head? == some b).map List.tail
        if tails.all List.isEmpty then room else layLiterals length tails room) room
      match heads.length with
      | 0 => room
      | 1 => (room.add 1).link 1
      | n => (room.addRanges n).link 1
    ((chunks.foldl branch room).add 1).link (chunks.length - 1)

/-- The texts of literals, if all expressions are literals. -/
def literals? (es : List Expr) : Option (List Text) :=
  es.mapM fun
    | .literal t => some t
    | _ => none

/-- The room of a part, and whether the part ends in a state that goes on in several ways. Such a
state takes one entry more for what follows. -/
abbrev Laid := Footprint × Bool

/-- The room with the entry that a part needs for what follows it. -/
def Laid.follow (l : Laid) : Footprint := if l.2 then l.1.link 1 else l.1

/-- A part that is laid down a number of times more, each time behind what is there. -/
def layTimes (lay : Footprint → Laid) : Nat → Laid → Laid
  | 0, l => l
  | n + 1, l => if l.1.isFull then l else layTimes lay n (lay (Laid.follow l))

/-- A part that is laid down a number of times. No time at all takes a state as well. -/
def layExactly (lay : Footprint → Laid) (n : Nat) (room : Footprint) : Laid :=
  match n with
  | 0 => (room.add 1, false)
  | n + 1 => layTimes lay n (lay room)

/-- The states of a repetition, given those of what is repeated and whether that is known not to
match the empty text. -/
def layRepetition (lay : Footprint → Laid) (nonempty : Bool) (least : Nat) (most : Option Nat)
    (room : Footprint) : Laid :=
  match least, most with
  | 0, some 1 => (((Laid.follow (lay (room.add 1))).add 1).link 2, false)
  | 0, none =>
    if nonempty then ((Laid.follow (lay (room.add 1))).link 1, true)
    else (((Laid.follow (lay room)).add 3).link 4, false)
  | 1, none => (((Laid.follow (lay room)).add 1).link 1, true)
  | n + 1, none =>
    let l := layTimes lay 1 (layExactly lay n room)
    (((Laid.follow l).add 1).link 1, true)
  | n, some m =>
    let start := layExactly lay n room
    if n = m then start
    else
      let optional (room : Footprint) : Laid :=
        let l := lay (room.add 1)
        (l.1.link 2, l.2)
      (Laid.follow (layTimes optional (m - n) (start.1.add 1, start.2)), false)

/-- Where a branch of an alternation stands. -/
inductive BranchPlace where
  | first
  | second
  | later
  deriving DecidableEq, Repr

/-- The entry of a branch in its alternation. The two states between which the branches stand are
laid down behind the second branch. -/
def BranchPlace.close (p : BranchPlace) (l : Laid) : Laid :=
  match p with
  | first => l
  | second => (((Laid.follow l).link 1).add 2, false)
  | later => ((Laid.follow l).link 1, false)

namespace Expr

/-- The states of an expression, or of what is left of an alternation from a branch on. Nothing more
is laid down when the room is used up. -/
def lay (d : Direction) (p : BranchPlace) (e : Expr) (room : Footprint) : Laid :=
  if room.isFull then (room, false)
  else
    match e with
    | empty | look _ => p.close (room.add 1, false)
    | literal t => p.close (room.add (literalBytes d t).length, false)
    | set s _ => p.close (laySet d s room, false)
    | group _ _ e =>
      p.close <|
        match d with
        | .forward => ((Laid.follow (e.lay d .first (room.add 1))).add 1, false)
        | .backward => e.lay d .first room
    | append e₁ e₂ =>
      p.close <|
        match d with
        | .forward => e₂.lay d .first (Laid.follow (e₁.lay d .first room))
        | .backward => e₁.lay d .first (Laid.follow (e₂.lay d .first room))
    | either e₁ e₂ =>
      let branch := (Laid.follow (e₁.lay d .first room)).link 1
      match p with
      | .first =>
        match literals? (either e₁ e₂).branches with
        | some ts =>
          let all := ts.map (literalBytes d)
          let longest := all.foldl (fun n bytes ↦ max n bytes.length) 0
          (layLiterals longest all (room.add 1), false)
        | none => e₂.lay d .second branch
      | .second => e₂.lay d .later (branch.add 2)
      | .later => e₂.lay d .later branch
    | repeated least most _ e =>
      p.close (layRepetition (e.lay d .first) (e.minLength.any (0 < ·)) least most room)

/-- The room of the automaton of an expression. It begins with a loop over any bytes unless a match
can begin in one place only, and ends with the state that accepts; reading forward, it remembers
where the match begins and ends. -/
def footprint (d : Direction) (e : Expr) : Footprint :=
  let isBound : Bool :=
    match d with
    | .forward => e.beginsWith .textStart
    | .backward => e.endsWith .textEnd
  let room : Footprint := if isBound then ⟨1, 0⟩ else ((Footprint.mk 2 0).addRanges 1).link 2
  match d with
  | .forward => (Laid.follow (e.lay d .first (room.add 1))).add 2
  | .backward => (Laid.follow (e.lay d .first room)).add 1

/-- Whether an expression is a long list of words, for which no automaton is needed. -/
def isWordList (e : Expr) : Bool := 3000 ≤ e.branches.length && (literals? e.branches).isSome

/-- Whether an expression takes no more room than it may. -/
def fits (e : Expr) : Bool :=
  e.isWordList || !(e.footprint .forward).isFull && !(e.footprint .backward).isFull

end Expr

end Gherkin.Regex
