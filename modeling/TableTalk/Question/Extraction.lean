import TableTalk.Question.Cue
import TableTalk.Question.Region
import TableTalk.Question.Product
import TableTalk.Intent.Checking
import TableTalk.Catalog
import TableTalk.Log

/-!
# TableTalk.Question.Extraction

The intent of a question over a catalog. The three parts of an intent are found independently of
each other, and a question without any cue asks for a selection of all rows. What can fail is not
the question but the catalog: a product that is no text, or a table whose name is none or cannot be
written.
-/

namespace TableTalk.Question

/-- The product that a question names, by the products of a catalog of which these can be found. -/
def productAmong (question : String) (products : List Value) (names : List String) :
    Option String :=
  if names.isEmpty && !products.isEmpty then none else product? names question

def filters (question : String) (catalog : Catalog) : Except Error FilterSet := do
  let names ← catalog.productNames
  return { region := regions? question, product := productAmong question catalog.products names }

-- The table is checked before its name turns out to have no written form.
def intent (question : String) (catalog : Catalog) : Except Error QueryIntent := do
  let filters ← filters question catalog
  let intent ← (QueryIntent.ofChecked (QueryIntent.checkTable (some catalog.tableName))
    (.ok (classify question)) (.ok filters)).mapError (.invalid QueryIntent.subject)
  match catalog.tableName with
  | .torn codes => throw (.tornText codes)
  | _ => return intent

/-- The intent of a question, with a record of it. -/
def extract (question : String) (catalog : Catalog) : Traced QueryIntent := do
  let intent ← intent question catalog
  Traced.log Log.info "copilot.copilot.extractor" ("Extractor -> " ++ intent.json)
  return intent

end TableTalk.Question
