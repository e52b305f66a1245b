import Refbook.Document.Filter

namespace Refbook
namespace Document

/-!
# Collections of documents

A store holds named collections of JSON documents, each document an object
with a string `_id` that is unique in its collection.  Documents keep the
order they were inserted in; replacing one keeps its place.

Finding documents evaluates a filter on each; a *lookup* first embeds, under
`$lookup.<name>`, the document of another collection whose `_id` is the
value of a key, as a join would, so that the filter can test its fields.
The documents found are returned as stored, without the embedded ones.
-/

/-- Embed the document of `source` whose `_id` is the value of `key`, at
`$lookup.<name>`. -/
structure Lookup where
  source : String
  key : String
  name : String
  deriving Repr, Inhabited

/-- Named collections of documents. -/
structure Store where
  collections : List (String × List Json) := []
  deriving Repr, Inhabited

/-- Operations on the store; a failure keeps what was done before it. -/
abbrev StoreM := ExceptT Error (StateM Store)

/-- The `_id` of a document. -/
def idOf (document : Json) : Option String :=
  document.get? "_id" >>= Json.str?

/-- The filter `{"_id": id}`. -/
def byId (id : String) : Json :=
  .object [("_id", .string id)]

namespace Store

def collection? (s : Store) (name : String) : Option (List Json) :=
  s.collections.lookup name

def contains (s : Store) (name : String) : Bool :=
  (s.collection? name).isSome

/-- Create a collection unless it exists. -/
def create (s : Store) (name : String) : Store :=
  if s.contains name then s else { collections := s.collections ++ [(name, [])] }

def drop (s : Store) (name : String) : Store :=
  { collections := s.collections.filter fun (n, _) => n != name }

/-- Put back a changed collection. -/
def put (s : Store) (name : String) (documents : List Json) : Store :=
  { collections := s.collections.map fun (n, docs) => if n == name then (n, documents) else (n, docs) }

end Store

/-- The documents of a collection, or the refusal to name a missing one. -/
def documents (name : String) : StoreM (List Json) := do
  match (← get).collection? name with
  | some docs => pure docs
  | none => throw (.persistence ("collection '" ++ name ++ "' does not exist"))

/-- Undo everything an operation did when it fails. -/
def atomically {α : Type} (act : StoreM α) : StoreM α := do
  let saved ← get
  tryCatch act fun e => do
    set saved
    throw e

/-- Insert a document; its `_id` must be new to the collection. -/
def insertOne (name : String) (document : Json) : StoreM Unit := do
  let docs ← documents name
  match idOf document with
  | none => throw (.persistence "document has no _id")
  | some id =>
    if docs.any (fun d => idOf d == some id) then
      throw (.persistence ("duplicate _id '" ++ id ++ "' in '" ++ name ++ "'"))
    modify fun s => s.put name (docs ++ [document])

/-- A document with the documents its lookups join embedded. -/
def embed (s : Store) (document : Json) (lookups : List Lookup) : Json :=
  lookups.foldl (fun doc lookup =>
    let joined : Json :=
      match doc.get? lookup.key >>= Json.str? with
      | some id =>
        (((s.collection? lookup.source).getD []).find? fun d => idOf d == some id).getD .null
      | none => .null
    match doc with
    | .object fields =>
      match fields.lookup "$lookup" with
      | none => .object (Fields.set fields "$lookup" (.object [(lookup.name, joined)]))
      | some (.object embedded) =>
        .object (Fields.set fields "$lookup" (.object (Fields.set embedded lookup.name joined)))
      | some _ => doc
    | _ => doc) document

/-- The documents of a collection that satisfy a filter, in order. -/
def find (name : String) (filter : Json) (lookups : List Lookup := []) : StoreM (List Json) := do
  let docs ← documents name
  let s ← get
  docs.filterM fun doc =>
    match satisfies (embed s doc lookups) filter with
    | .ok b => pure b
    | .error e => throw e

/-- The place of the first document that satisfies a filter. -/
def firstMatch (docs : List Json) (filter : Json) : Except Error (Option Nat) :=
  let rec go (i : Nat) : List Json -> Except Error (Option Nat)
    | [] => .ok none
    | doc :: rest => do
      if ← satisfies doc filter then pure (some i) else go (i + 1) rest
  go 0 docs

/-- Replace the first document that satisfies a filter; how many were
replaced. -/
def replaceOne (name : String) (filter : Json) (document : Json) : StoreM Nat := do
  let docs ← documents name
  match ← liftExcept (firstMatch docs filter) with
  | some i =>
    modify fun s => s.put name (docs.set i document)
    pure 1
  | none => pure 0

/-- Remove the first document that satisfies a filter; how many were
removed. -/
def deleteOne (name : String) (filter : Json) : StoreM Nat := do
  let docs ← documents name
  match firstMatch docs filter with
  | .error e => throw e
  | .ok (some i) =>
    modify fun s => s.put name (docs.eraseIdx i)
    pure 1
  | .ok none => pure 0

/-- Rename a top-level key in every document. -/
def renameKey (name source target : String) : StoreM Unit := do
  let docs ← documents name
  modify fun s => s.put name (docs.map fun
    | .object fields =>
      match fields.lookup source with
      | some value => .object (Fields.set (Fields.swapRemove fields source) target value)
      | none => .object fields
    | doc => doc)

/-- Remove a top-level key from every document. -/
def unsetKey (name key : String) : StoreM Unit := do
  let docs ← documents name
  modify fun s => s.put name (docs.map fun
    | .object fields => .object (Fields.swapRemove fields key)
    | doc => doc)

end Document
end Refbook
