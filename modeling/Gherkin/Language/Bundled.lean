import Gherkin.Language.Basic

/-!
# The bundled languages

The vocabularies that come with the library and the codes under which they are found. Brazilian
Portuguese has a name of its own and the keywords of Portuguese.

Main statement: a language that is found carries the normalised code that was asked for
(`code_of_find?`).
-/

namespace Gherkin

namespace Vocabulary

def german : Vocabulary where
  feature := ["Funktionalität", "Funktion"]
  background := ["Grundlage", "Hintergrund", "Voraussetzungen", "Vorbedingungen"]
  scenario := ["Beispiel", "Szenario"]
  scenarioOutline := ["Szenariogrundriss", "Szenarien"]
  examples := ["Beispiele"]
  context := ["* ", "Angenommen ", "Gegeben sei ", "Gegeben seien "]
  action := ["* ", "Wenn "]
  outcome := ["* ", "Dann "]
  and := ["* ", "Und "]
  but := ["* ", "Aber "]

def english : Vocabulary where
  feature := ["Feature", "Business Need", "Ability"]
  background := ["Background"]
  scenario := ["Example", "Scenario"]
  scenarioOutline := ["Scenario Outline", "Scenario Template"]
  examples := ["Examples", "Scenarios"]
  context := ["* ", "Given "]
  action := ["* ", "When "]
  outcome := ["* ", "Then "]
  and := ["* ", "And "]
  but := ["* ", "But "]

def spanish : Vocabulary where
  feature := ["Característica", "Necesidad del negocio", "Requisito"]
  background := ["Antecedentes"]
  scenario := ["Ejemplo", "Escenario"]
  scenarioOutline := ["Esquema del escenario"]
  examples := ["Ejemplos"]
  context := ["* ", "Dado ", "Dada ", "Dados ", "Dadas "]
  action := ["* ", "Cuando "]
  outcome := ["* ", "Entonces "]
  and := ["* ", "Y ", "E "]
  but := ["* ", "Pero "]

def french : Vocabulary where
  feature := ["Fonctionnalité"]
  background := ["Contexte"]
  scenario := ["Exemple", "Scénario"]
  scenarioOutline := ["Plan du scénario", "Plan du Scénario"]
  examples := ["Exemples"]
  context := ["* ", "Soit ", "Sachant que ", "Sachant qu'", "Sachant ", "Etant donné que ",
            "Etant donné qu'", "Etant donné ", "Etant donnée ", "Etant donnés ",
            "Etant données ", "Étant donné que ", "Étant donné qu'", "Étant donné ",
            "Étant donnée ", "Étant donnés ", "Étant données "]
  action := ["* ", "Quand ", "Lorsque ", "Lorsqu'"]
  outcome := ["* ", "Alors ", "Donc "]
  and := ["* ", "Et que ", "Et qu'", "Et "]
  but := ["* ", "Mais que ", "Mais qu'", "Mais "]

def japanese : Vocabulary where
  feature := ["フィーチャ", "機能"]
  background := ["背景"]
  scenario := ["シナリオ"]
  scenarioOutline := ["シナリオアウトライン", "シナリオテンプレート", "テンプレ", "シナリオテンプレ"]
  examples := ["例", "サンプル"]
  context := ["* ", "前提"]
  action := ["* ", "もし"]
  outcome := ["* ", "ならば"]
  and := ["* ", "且つ", "かつ"]
  but := ["* ", "然し", "しかし", "但し", "ただし"]

def portuguese : Vocabulary where
  feature := ["Funcionalidade", "Característica", "Caracteristica"]
  background := ["Contexto", "Cenário de Fundo", "Cenario de Fundo", "Fundo"]
  scenario := ["Exemplo", "Cenário", "Cenario"]
  scenarioOutline := ["Esquema do Cenário", "Esquema do Cenario", "Delineação do Cenário",
                      "Delineacao do Cenario"]
  examples := ["Exemplos", "Cenários", "Cenarios"]
  context := ["* ", "Dado ", "Dada ", "Dados ", "Dadas "]
  action := ["* ", "Quando "]
  outcome := ["* ", "Então ", "Entao "]
  and := ["* ", "E "]
  but := ["* ", "Mas "]

def russian : Vocabulary where
  feature := ["Функция", "Функциональность", "Функционал", "Свойство", "Фича"]
  background := ["Предыстория", "Контекст"]
  scenario := ["Пример", "Сценарий"]
  scenarioOutline := ["Структура сценария", "Шаблон сценария"]
  examples := ["Примеры"]
  context := ["* ", "Допустим ", "Дано ", "Пусть "]
  action := ["* ", "Когда ", "Если "]
  outcome := ["* ", "То ", "Затем ", "Тогда "]
  and := ["* ", "И ", "К тому же ", "Также "]
  but := ["* ", "Но ", "А ", "Иначе "]

end Vocabulary

namespace Language

/-- The code of English, in which a document is written that names no language. -/
def defaultCode : Text := "en".toList

/-- A bundled language: its code, its names and its vocabulary. -/
structure Bundle where
  code : String
  name : String
  native : String
  vocabulary : Vocabulary

/-- The bundled languages in the order of their codes. -/
def bundles : List Bundle :=
  [⟨"de", "German", "Deutsch", .german⟩,
   ⟨"en", "English", "English", .english⟩,
   ⟨"es", "Spanish", "español", .spanish⟩,
   ⟨"fr", "French", "français", .french⟩,
   ⟨"ja", "Japanese", "日本語", .japanese⟩,
   ⟨"pt", "Portuguese", "português", .portuguese⟩,
   ⟨"pt-br", "Brazilian Portuguese", "português do Brasil", .portuguese⟩,
   ⟨"ru", "Russian", "русский", .russian⟩]

def codes : List String := bundles.map (·.code)

/-- The form in which codes are compared: trimmed, with hyphens for underscores and the letters of
the English alphabet in lower case. -/
def normalizeCode (code : Text) : Text :=
  (Text.trim code).map fun c ↦ if c = '_' then '-' else c.toLower

/-- The bundled language with the given code. -/
def find? (code : Text) : Option Language :=
  (bundles.find? fun b ↦ b.code.toList = normalizeCode code).map fun b ↦
    b.vocabulary.toLanguage b.code.toList b.name b.native

theorem code_of_find? {code : Text} {l : Language} (h : find? code = some l) :
    l.code = normalizeCode code := by
  obtain ⟨b, hb, rfl⟩ := Option.map_eq_some_iff.1 h
  simpa [Vocabulary.toLanguage] using List.find?_some hb

end Language

end Gherkin
