import ObjectCatalog.Repository.Basic

/-!
# Searches

Two searches list objects page by page: by a part of the name, and by metadata. Both ask the
database for the number of matches and for the ids of a page, and then load each object of the page
as any lookup would, through the cache.

A part of a name is taken literally: the characters that mean something in a pattern are escaped.
A search for the empty part lists everything.
-/

namespace ObjectCatalog

/-- The number of objects on a page unless the caller says otherwise. -/
def defaultLimit : Int64 := 50

/-- Which page of a name search to answer, and in what order. -/
structure SearchOptions where
  offset : Int64 := 0
  limit : Int64 := defaultLimit
  field : SortField := .id
  direction : SortDirection := .descending
  deriving DecidableEq

/-- Which page of a metadata search to answer. It is in the order of ids. -/
structure MetadataSearchOptions where
  offset : Int64 := 0
  limit : Int64 := defaultLimit
  direction : SortDirection := .descending
  deriving DecidableEq

/-- A page of a search, with the number of matches on all pages. -/
structure SearchResult where
  total : Nat
  page : List NamedObject
  deriving DecidableEq

namespace Repository

/-- Loads the objects with the given ids. One that is gone is left out. -/
def loadAll (r : Repository) : List Int64 → Action (List NamedObject)
  | [] => pure []
  | id :: rest => do
    -- Between the listing and this lookup the row may have gone.
    let object ← r.loadById id
    let others ← loadAll r rest
    pure (object.toList ++ others)

/-- The pattern of names that contain a text; the empty text asks for no pattern. -/
def namePattern (query : String) : Option String :=
  let trimmed := Text.trim query
  if trimmed = "" then none else some (Like.containing trimmed)

/-- Lists the objects whose name contains a text, without regard to the case of ASCII letters. -/
def search (r : Repository) (query : String) (options : SearchOptions) : Action SearchResult := do
  let pattern := namePattern query
  let total ← Backend.send (.countObjects r.table pattern)
  let ids ← Backend.send (.listObjects r.table pattern options.field options.direction
    (max options.limit 0) (max options.offset 0))
  let page ← r.loadAll ids
  pure ⟨total, page⟩

def metaSearch (r : Repository) (predicate : Predicate) (options : MetadataSearchOptions) :
    Action SearchResult := do
  if predicate.isEmpty then throw (.invalidArgument .emptySearch)
  else do
    match Plan.ofPredicate r.metaTable predicate with
    | .error fault => throw (.invalidArgument fault)
    | .ok plan => do
      let total ← Backend.send (.countMatches r.table plan)
      let ids ← Backend.send (.listMatches r.table plan options.direction
        (max options.limit 0) (max options.offset 0))
      let page ← r.loadAll ids
      pure ⟨total, page⟩

end Repository

end ObjectCatalog
