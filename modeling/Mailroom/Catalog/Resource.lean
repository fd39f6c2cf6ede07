import Mailroom.Catalog.Operations

/-!
# Records and their five operations

Five kinds of records are created, listed, fetched, updated and deleted in the same way, and the
names of these operations follow from the name of the record.
-/

namespace Mailroom

/-- The kinds of records with the five common operations. -/
inductive Resource where
  | list
  | subscriber
  | campaign
  | template
  | media
deriving DecidableEq

/-- The names of the five common operations. -/
structure CommonNames where
  create : String
  list : String
  getById : String
  update : String
  delete : String

/-- The five names, one after the other. -/
def CommonNames.toList (n : CommonNames) : List String :=
  [n.create, n.list, n.getById, n.update, n.delete]

namespace Resource

/-- All kinds of records. -/
def all : List Resource :=
  [.list, .subscriber, .campaign, .template, .media]

/-- The name of one record. -/
def name (r : Resource) : String :=
  match r with
  | list => "List"
  | subscriber => "Subscriber"
  | campaign => "Campaign"
  | template => "Template"
  | media => "Media"

/-- The name of several records. -/
def plural (r : Resource) : String :=
  match r with
  | list => "Lists"
  | subscriber => "Subscribers"
  | campaign => "Campaigns"
  | template => "Templates"
  | media => "Media"

/-- The names of a record's operations. -/
def operationNames (r : Resource) : CommonNames where
  create := s!"create{r.name}"
  list := s!"get{r.plural}"
  getById := s!"get{r.name}ById"
  update := s!"update{r.name}ById"
  delete := s!"delete{r.name}ById"

/-- The first of a record's operations that a table lacks. -/
def missing? (r : Resource) (table : OperationTable) : Option ApiError :=
  (r.operationNames.toList.find? fun name => (table.get? name).isNone).map .missingOperation

end Resource

/-- The name of the program. -/
def appName : String := "lmk"

/-- The version of the program. -/
def version : String := "0.1.0"

end Mailroom
