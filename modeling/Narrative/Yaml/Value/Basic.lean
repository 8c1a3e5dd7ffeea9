/-
Module: Narrative.Yaml.Value.Basic
Purpose: The values of documents: scalars, lists, mappings and sets.
Main exports: Value, Collection, Document, putEntry
-/
import Narrative.Yaml.Scalar.Basic

namespace Narrative.Yaml

/-- A value of a document: a scalar, or the collection with a number. -/
inductive Value where
  | scalar (value : Scalar)
  | collection (number : Nat)
deriving Repr, DecidableEq

instance : Inhabited Value := ⟨.scalar .null⟩

/-- What is in a collection. The keys of mappings and the members of sets are scalars. -/
inductive Collection where
  | list (items : List Value)
  | pairs (items : List (Value × Value))
  | mapping (entries : List (Scalar × Value))
  | set (members : List Scalar)
deriving Repr, DecidableEq

/-- A document: its value and the collections in it, by their numbers. A collection may belong to
several others, and it may be within itself. -/
structure Document where
  root : Value
  collections : Array Collection
deriving Repr

/-- Puts an entry into a mapping. A key that is there already keeps its place and its form. -/
def putEntry (key : Scalar) (value : Value) : List (Scalar × Value) → List (Scalar × Value)
  | [] => [(key, value)]
  | entry :: entries =>
    if entry.1.same key then (entry.1, value) :: entries else entry :: putEntry key value entries

namespace Document

/-- The collection with a number. -/
def collection (document : Document) (number : Nat) : Collection :=
  document.collections[number]?.getD (.list [])

/-- A bound on how deeply the collections lie in one another, if none is within itself. -/
def depth (document : Document) : Nat := document.collections.size + 1

/-- The items of a value that is a mapping. -/
def mapping? (document : Document) : Value → Option (List (Scalar × Value))
  | .scalar _ => none
  | .collection number =>
    match document.collection number with
    | .mapping entries => some entries
    | _ => none

/-- The name of the type of a value. -/
def typeName (document : Document) : Value → String
  | .scalar value => value.typeName
  | .collection number =>
    match document.collection number with
    | .list _ | .pairs _ => "list"
    | .mapping _ => "dict"
    | .set _ => "set"

end Document

end Narrative.Yaml
