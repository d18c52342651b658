namespace ScriptAudit

-- Floats and dates have no use here and keep no content.
inductive TomlValue where
  | string (text : String)
  | integer (value : Int)
  | float
  | boolean (value : Bool)
  | dateTime
  | array (elements : List TomlValue)
  | table (fields : List (String × TomlValue))
deriving Repr

namespace Toml

inductive Origin where
  -- A header of its own.
  | declared
  -- A key with dots.
  | dotted
  -- A header that only runs through it.
  | implied
deriving DecidableEq, Repr

inductive Item where
  | value (content : TomlValue)
  | table (origin : Origin) (items : List (String × Item))
  | tables (elements : List (List (String × Item)))
deriving Repr

abbrev Items := List (String × Item)

def alter (key : String) (change : Option Item → Option Item) : Items → Option Items
  | [] => (change none).map fun item => [(key, item)]
  | entry :: rest =>
    if entry.1 == key then (change (some entry.2)).map fun item => (key, item) :: rest
    else (alter key change rest).map (entry :: ·)

def alterLast (change : Items → Option Items) : List Items → Option (List Items)
  | [] => none
  | [last] => (change last).map ([·])
  | first :: rest => (alterLast change rest).map (first :: ·)

def descend (change : Items → Option Items) : List String → Items → Option Items
  | [], items => change items
  | key :: path, items =>
    alter key (fun
      | none => (descend change path []).map (.table .implied)
      | some (.table origin inner) => (descend change path inner).map (.table origin)
      | some (.tables elements) => (alterLast (descend change path) elements).map .tables
      | some (.value _) => none) items

-- Adds a value under a key. Only a table of the given origin takes it.
def addHere (here wanted : Origin) (key : String) (content : TomlValue) (items : Items) : Option Items :=
  if here == wanted then
    alter key (fun
      | none => some (.value content)
      | some _ => none) items
  else none

-- Adds a value under a key with dots. No part of the key may run through a table with a header of its own, and
-- the last table must itself come from a key with dots.
def addDotted (key : String) (content : TomlValue) : List String → Origin → Items → Option Items
  | [], here, items => addHere here .dotted key content items
  | part :: path, _, items =>
    alter part (fun
      | none => (addDotted key content path .dotted []).map (.table .dotted)
      | some (.table .declared _) => none
      | some (.table origin inner) => (addDotted key content path origin inner).map (.table origin)
      | some (.tables elements) =>
        (alterLast (addDotted key content path .declared) elements).map .tables
      | some (.value _) => none) items

def addPair (path : List String) (key : String) (content : TomlValue) (items : Items) : Option Items :=
  match path with
  | [] => addHere .declared .declared key content items
  | path => addDotted key content path .declared items

-- Opens a table by its header. One that so far was only run through becomes the header's own.
def openTable (key : String) (items : Items) : Option Items :=
  alter key (fun
    | none => some (.table .declared [])
    | some (.table .implied inner) => some (.table .declared inner)
    | some _ => none) items

def openElement (key : String) (items : Items) : Option Items :=
  alter key (fun
    | none => some (.tables [[]])
    | some (.tables elements) => some (.tables (elements ++ [[]]))
    | some _ => none) items

mutual

def Item.freeze : Item → TomlValue
  | .value content => content
  | .table _ items => .table (freezeItems items)
  | .tables elements => .array (freezeTables elements)

def freezeItems : List (String × Item) → List (String × TomlValue)
  | [] => []
  | (key, item) :: rest => (key, item.freeze) :: freezeItems rest

def freezeTables : List (List (String × Item)) → List TomlValue
  | [] => []
  | items :: rest => .table (freezeItems items) :: freezeTables rest

end

end Toml

end ScriptAudit
