import ObjectCatalog.Repository.Search

/-!
# Requests

A program that uses a repository holds objects in variables, its handles, and makes requests: calls
of the repository, and edits of the objects it holds. Several handles may hold the same object and
know different things about it, because a handle learns of a change only through its own requests.

A handle also remembers its origin, the object as the repository handed it out.

`Request.run` carries out a request on a desk, the handles of a program together with the backend
its repository acts on. Every run of such a program is a sequence of these steps.
-/

namespace ObjectCatalog

/-- What an object was when a repository handed it out. -/
structure Origin where
  id : Int64
  name : String
  entries : Nat
  deriving DecidableEq

structure Handle where
  object : NamedObject
  origin : Origin
  deriving DecidableEq

/-- The handle of an object that was just handed out. -/
def Handle.ofObject (object : NamedObject) : Handle :=
  ⟨object, ⟨object.id, object.name, object.metadata.size⟩⟩

/-- What a program asks for. Handles are named. -/
inductive Request where
  | install
  | installMetadata
  | create (name handle : String)
  | load (key : String) (handle : Option String)
  | loadById (id : Int64) (handle : Option String)
  | loadByName (name : String) (handle : Option String)
  | update (handle : String)
  | delete (handle : String)
  | search (query : String) (options : SearchOptions)
  | metaSearch (predicate : Predicate) (options : MetadataSearchOptions)
  | setName (handle name : String)
  | setMeta (handle key value : String)
  | removeMeta (handle key : String)
  | getMeta (handle key : String)
  | show (handle : String)
  | delta (handle : String)
  /-- Reads the metadata of the object again. -/
  | applyMetadata (handle : String)
  /-- Saves the metadata of the object and nothing else. -/
  | saveMetadata (handle : String)
  /-- Deletes the stored metadata of the object and nothing else. -/
  | dropMetadata (handle : String)
  deriving DecidableEq

inductive Reply where
  | done
  | object (handle : Handle)
  | noObject
  | page (total : Nat) (objects : List Handle)
  | value (value : Option String)
  | delta (delta : MetadataDelta)
  | noHandle (name : String)
  deriving DecidableEq

structure Desk where
  backend : Backend
  handles : Std.ExtTreeMap String Handle

namespace Desk

/-- Puts an object that was handed out into a handle. -/
def keep (desk : Desk) (name : String) (object : NamedObject) : Desk :=
  { desk with handles := desk.handles.insert name (.ofObject object) }

/-- Puts an object that was handed out into a handle, if one is named. -/
def keepIn (desk : Desk) (name : Option String) (object : NamedObject) : Desk :=
  match name with
  | some name => desk.keep name object
  | none => desk

def change (desk : Desk) (name : String) (handle : Handle) (object : NamedObject) : Desk :=
  { desk with handles := desk.handles.insert name { handle with object := object } }

/-- Carries out an action and answers by its value. -/
def act {α : Type} (desk : Desk) (action : Action α) (reply : α → Reply × (Desk → Desk)) :
    Except Error Reply × Desk :=
  let (result, backend) := action desk.backend
  let desk := { desk with backend := backend }
  match result with
  | .error error => (.error error, desk)
  | .ok value =>
    let (reply, finish) := reply value
    (.ok reply, finish desk)

/-- Carries out a lookup; the object found is kept in a handle, if one is named. -/
def lookUp (desk : Desk) (name : Option String) (action : Action (Option NamedObject)) :
    Except Error Reply × Desk :=
  desk.act action fun found =>
    match found with
    | some object => (.object (.ofObject object), fun desk => desk.keepIn name object)
    | none => (.noObject, id)

def list (desk : Desk) (action : Action SearchResult) : Except Error Reply × Desk :=
  desk.act action fun result => (.page result.total (result.page.map .ofObject), id)

def withHandle (desk : Desk) (name : String)
    (body : Handle → Except Error Reply × Desk) : Except Error Reply × Desk :=
  match desk.handles[name]? with
  | some handle => body handle
  | none => (.ok (.noHandle name), desk)

/-- Works on the object in a handle, which keeps whatever the object became. -/
def edit (desk : Desk) (name : String) (editing : Editing Unit) : Except Error Reply × Desk :=
  desk.withHandle name fun handle =>
    let (result, object, backend) := editing.on handle.object desk.backend
    let handle := { handle with object := object }
    let desk : Desk := ⟨backend, desk.handles.insert name handle⟩
    (result.map fun _ => .object handle, desk)

end Desk

def Request.run (r : Repository) (desk : Desk) : Request → Except Error Reply × Desk
  | .install => desk.act r.install fun _ => (.done, id)
  | .installMetadata => desk.act r.metadataStore.install fun _ => (.done, id)
  | .create name handle =>
    desk.act (r.create name) fun object =>
      (.object (.ofObject object), fun desk => desk.keep handle object)
  | .load key handle => desk.lookUp handle (r.load key)
  | .loadById id handle => desk.lookUp handle (r.loadById id)
  | .loadByName name handle => desk.lookUp handle (r.loadByName name)
  | .update handle => desk.edit handle r.update
  | .delete handle =>
    desk.withHandle handle fun h => desk.act (r.delete h.object) fun _ => (.done, id)
  | .search query options => desk.list (r.search query options)
  | .metaSearch predicate options => desk.list (r.metaSearch predicate options)
  | .setName handle name =>
    desk.withHandle handle fun h => (.ok .done, desk.change handle h (h.object.setName name))
  | .setMeta handle key value =>
    desk.withHandle handle fun h => (.ok .done, desk.change handle h (h.object.setMeta key value))
  | .removeMeta handle key =>
    desk.withHandle handle fun h =>
      (.ok (.value (h.object.getMeta key)), desk.change handle h (h.object.removeMeta key))
  | .getMeta handle key =>
    desk.withHandle handle fun h => (.ok (.value (h.object.getMeta key)), desk)
  | .show handle => desk.withHandle handle fun h => (.ok (.object h), desk)
  | .delta handle => desk.withHandle handle fun h => (.ok (.delta h.object.metadataDelta), desk)
  | .applyMetadata handle =>
    desk.withHandle handle fun h =>
      desk.act (r.metadataStore.apply h.object) fun object =>
        (.object { h with object := object }, fun desk => desk.change handle h object)
  | .saveMetadata handle => desk.edit handle r.metadataStore.save
  | .dropMetadata handle =>
    desk.withHandle handle fun h =>
      desk.act (r.metadataStore.remove h.object.id) fun _ => (.done, id)

end ObjectCatalog
