import Gherkin.Text.Basic

/-!
# Language tags and locales

A language tag such as `en-GB` names a language, and may add a script, a region and variants. The
messages of the library exist in a few locales. Negotiation goes through a list of tags and gives
the locales that serve them, best first; English comes last where no tag asked for it, so that there
is always a locale.
-/

namespace Gherkin

/-- A language tag. The language is in lower case and empty where the tag leaves it open. -/
structure LanguageTag where
  language : Text
  script : Option Text
  region : Option Text
  variants : List Text
  deriving DecidableEq, Repr

namespace LanguageTag

def subtags (t : Text) : List Text := t.splitOnP fun c ↦ c = '-' || c = '_'

def isLanguage (t : Text) : Bool :=
  t.all Char.isAlpha && (t.length = 2 || t.length = 3 || 5 ≤ t.length && t.length ≤ 8)

def isScript (t : Text) : Bool := t.all Char.isAlpha && t.length = 4

def isRegion (t : Text) : Bool :=
  t.all Char.isAlpha && t.length = 2 || t.all Char.isDigit && t.length = 3

/-- A variant has five to eight letters and digits, or four characters of which the first is a digit
or the others are letters and digits. -/
def isVariant (t : Text) : Bool :=
  t.all (fun c ↦ 0 < c.toNat && c.toNat < 128) &&
    match t with
    | [a, b, c, d] => a.isDigit || [b, c, d].all Char.isAlphanum
    | _ => t.all Char.isAlphanum && 5 ≤ t.length && t.length ≤ 8

/-- The first subtag if it is of a kind, and the subtags after it. -/
def optional (kind : Text → Bool) : List Text → Option Text × List Text
  | [] => (none, [])
  | t :: rest => if kind t then (some t, rest) else (none, t :: rest)

/-- The tag that a text spells, whatever the case of its letters; the language `und` is left open. A
text with other subtags than these, or with these in another order, is no tag. -/
def ofText? (t : Text) : Option LanguageTag :=
  match subtags t with
  | [] => none
  | language :: rest =>
    let (script, rest) := optional isScript rest
    let (region, variants) := optional isRegion rest
    if isLanguage language && variants.all isVariant then
      let language := language.map Char.toLower
      some ⟨if language = "und".toList then [] else language, script, region, variants⟩
    else none

end LanguageTag

/-- A language in which the messages exist. -/
inductive Locale where
  | english
  | french
  deriving DecidableEq, Repr

namespace Locale

def all : List Locale := [english, french]

def code : Locale → Text
  | english => "en-US"
  | french => "fr"

def language : Locale → Text
  | english => "en"
  | french => "fr"

/-- A locale serves every tag of its language: another script, region or variant is better than
another language. -/
def serves (l : Locale) (tag : LanguageTag) : Bool := tag.language = l.language

/-- The locales that serve a list of tags, in the order of the tags, each once; English is added
where it is missing. -/
def negotiate (tags : List LanguageTag) : List Locale :=
  let served := (tags.filterMap fun tag ↦ all.find? (·.serves tag)).eraseDups
  if english ∈ served then served else served ++ [english]

theorem english_mem_negotiate (tags : List LanguageTag) : english ∈ negotiate tags := by
  unfold negotiate
  dsimp only
  split <;> simp_all

end Locale

end Gherkin
