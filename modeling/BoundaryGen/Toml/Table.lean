-- The tables of a TOML document while it is read. A table knows how it came to
-- be, as that decides who may still add to it. What breaks these rules gives
-- nothing.

namespace BoundaryGen.Toml

/-! ## Items -/

/-- How a table came to be. -/
inductive TableForm where
  /-- By its own header, or as the document itself. -/
  | header
  /-- By the header of a table below it. -/
  | implied
  /-- By a key with dots. -/
  | dotted
  deriving DecidableEq, Repr

/-- What stands under a key. -/
inductive Item where
  | text (value : String)
  | flag (value : Bool)
  /-- A number, a date or a time. -/
  | other
  | array (items : List Item)
  /-- A table between braces. Nothing is added to it. -/
  | inline (entries : List (String × Item))
  | table (form : TableForm) (entries : List (String × Item))
  /-- Tables of one header, in their order. -/
  | tables (items : List (List (String × Item)))
  deriving Inhabited

/-- The entries of a table. -/
abbrev Entries := List (String × Item)

/-- The item under a key. -/
def Entries.item? (entries : Entries) (key : String) : Option Item := entries.lookup key

/-- The entries with an item under a key. -/
def Entries.put (key : String) (item : Item) : Entries → Entries
  | [] => [(key, item)]
  | (k, i) :: rest => if k = key then (k, item) :: rest else (k, i) :: Entries.put key item rest

/-! ## Changing tables -/

/-- Changes the table at a path of headers. Tables that are missing on the way are implied; of
several tables of one header the last is meant. -/
def atHeader (change : Entries → Option Entries) : List String → Entries → Option Entries
  | [], entries => change entries
  | key :: path, entries =>
    match entries.item? key with
    | none => (fun inner => entries.put key (.table .implied inner)) <$> atHeader change path []
    | some (.table form inner) =>
      (fun inner => entries.put key (.table form inner)) <$> atHeader change path inner
    | some (.tables items) =>
      match items.reverse with
      | [] => none
      | last :: before =>
        (fun last => entries.put key (.tables (before.reverse ++ [last])))
          <$> atHeader change path last
    | some _ => none

/-- Adds an item under a new key of a table. -/
def addNew (key : String) (item : Item) (entries : Entries) : Option Entries :=
  if (entries.item? key).isSome then none else some (entries ++ [(key, item)])

/-- Adds an item under a key with dots. The table that takes it is the one the key starts in, or
one that keys with dots have made; tables of a header may only lie on the way to it. -/
def addDotted (item : Item) : List String → Entries → Option Entries
  | [], _ => none
  | [key], entries => addNew key item entries
  | key :: path, entries =>
    match entries.item? key, path with
    | none, path => (fun inner => entries.put key (.table .dotted inner)) <$> addDotted item path []
    | some (.table .dotted inner), path =>
      (fun inner => entries.put key (.table .dotted inner)) <$> addDotted item path inner
    | some (.table .implied inner), path@(_ :: _ :: _) =>
      (fun inner => entries.put key (.table .implied inner)) <$> addDotted item path inner
    | some (.tables items), path@(_ :: _ :: _) =>
      match items.reverse with
      | [] => none
      | last :: before =>
        (fun last => entries.put key (.tables (before.reverse ++ [last])))
          <$> addDotted item path last
    | _, _ => none

/-- Starts the table of a header. It is new, or so far only implied. -/
def startTable (path : List String) (root : Entries) : Option Entries :=
  match path.getLast? with
  | none => none
  | some key =>
    atHeader (fun entries =>
      match entries.item? key with
      | none => some (entries ++ [(key, .table .header [])])
      | some (.table .implied inner) => some (entries.put key (.table .header inner))
      | some _ => none) path.dropLast root

/-- Starts one more table of a header between double brackets. -/
def startTableInList (path : List String) (root : Entries) : Option Entries :=
  match path.getLast? with
  | none => none
  | some key =>
    atHeader (fun entries =>
      match entries.item? key with
      | none => some (entries ++ [(key, .tables [[]])])
      | some (.tables items) => some (entries.put key (.tables (items ++ [[]])))
      | some _ => none) path.dropLast root

end BoundaryGen.Toml
