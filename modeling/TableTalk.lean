import TableTalk.Session
import TableTalk.Catalog.Reading
import TableTalk.Yaml.Reader
import TableTalk.Main
import TableTalk.Proofs.Keywords
import TableTalk.Proofs.Grammar
import TableTalk.Proofs.Description
import TableTalk.Proofs.Statements
import TableTalk.Proofs.Elapsed
import TableTalk.Proofs.Sales
import TableTalk.Proofs.Answers
import TableTalk.Proofs.Letters
import TableTalk.Proofs.Regions
import TableTalk.Proofs.Products
import TableTalk.Proofs.Cues
import TableTalk.Proofs.Phrasing
import TableTalk.Proofs.Literals
import TableTalk.Proofs.Quoting
import TableTalk.Proofs.Rendering
import TableTalk.Proofs.Bodies
import TableTalk.Proofs.Access
import TableTalk.Proofs.RegionNames
import TableTalk.Proofs.Vocabulary
import TableTalk.Proofs.Outcomes
import TableTalk.Proofs.Seeding
import TableTalk.Proofs.Turns
import TableTalk.Proofs.Snapshots
import TableTalk.Proofs.YamlNodes
import TableTalk.Proofs.CatalogFiles
import TableTalk.Proofs.DatasetAnswers
import TableTalk.Proofs.Endpoints
import TableTalk.Proofs.RegionLists
import TableTalk.Proofs.RegionScan
import TableTalk.Proofs.RegionOrder
import TableTalk.Proofs.ProductSearch
import TableTalk.Proofs.Openings
import TableTalk.Proofs.Independence
import TableTalk.Proofs.Precedence
import TableTalk.Proofs.Executions
import TableTalk.Proofs.Projections
import TableTalk.Proofs.Recurrence
import TableTalk.Proofs.Draws
import TableTalk.Proofs.JsonText
import TableTalk.Proofs.IntentText
import TableTalk.Proofs.Faults
import TableTalk.Proofs.CatalogValues
import TableTalk.Proofs.NormalForms
import TableTalk.Proofs.JsonFronts
import TableTalk.Proofs.QuestionFiles
import TableTalk.Proofs.Verdicts
import TableTalk.Proofs.ReportLines
