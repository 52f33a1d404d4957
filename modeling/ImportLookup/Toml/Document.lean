import ImportLookup.Toml.Syntax

/-!
# TOML documents

What the statements of a text define together. A header or a dotted key also defines the tables on
the way to it; such a table is only implied, and may be defined in its own right once. Any other
second definition is an error, except that a plain array gives way to a later value.
-/

namespace ImportLookup

namespace Toml

/-- What a name stands for in a document. -/
inductive Item where
  | leaf (value : Value)
  | table (entries : List (Bytes × Item))
  | tables (elements : List (List (Bytes × Item)))
  /-- In a table on one line, what the document holds at the same path. -/
  | shared

/-- The names of a table with what they stand for. -/
abbrev Table := List (Bytes × Item)

namespace Table

/-- The table with a name made to stand for an item. -/
def set (name : Bytes) (item : Item) : Table → Table
  | [] => [(name, item)]
  | (n, old) :: rest => if n = name then (name, item) :: rest else (n, old) :: set name item rest

/-- Changes the table at the end of a path; of an array of tables, the last is entered. -/
def modifyAt? (change : Table → Option Table) : Key → Table → Option Table
  | [], t => change t
  | name :: path, t =>
    match t.lookup name with
    | some (.table inner) =>
      (modifyAt? change path inner).map fun inner => t.set name (.table inner)
    | some (.tables elements) =>
      match elements.getLast? with
      | some last =>
        (modifyAt? change path last).map
          fun last => t.set name (.tables (elements.dropLast ++ [last]))
      | none => none
    | _ => none

/-- The table at the end of a path. -/
def at? : Key → Table → Option Table
  | [], t => some t
  | name :: path, t =>
    match t.lookup name with
    | some (.table inner) => at? path inner
    | some (.tables elements) => elements.getLast?.bind (at? path)
    | _ => none

/-- Puts an item at the end of a path, through tables only, and makes those that are missing. -/
def place? (item : Item) : Key → Table → Option Table
  | [], _ => none
  | [name], t => some (t.set name item)
  | name :: path, t =>
    match t.lookup name with
    | none => (place? item path []).map fun inner => t.set name (.table inner)
    | some (.table inner) => (place? item path inner).map fun inner => t.set name (.table inner)
    | some _ => none

/-- The item at the end of a path. -/
def item? (path : Key) (t : Table) : Option Item :=
  match path.getLast? with
  | some name => (at? path.dropLast t).bind fun inner => inner.lookup name
  | none => none

/-- Whether the way along a path leads through what the document holds itself. -/
def isShared : Key → Table → Bool
  | [], _ => false
  | [_], _ => false
  | name :: path, t =>
    match t.lookup name with
    | some .shared => true
    | some (.table inner) => isShared path inner
    | _ => false

end Table

mutual

/-- An item at a path with what it shares with the document copied from there. -/
def Item.ownedAt (root : Table) (path : Key) : Item → Item
  | .table entries => .table (ownedEntriesAt root path entries)
  | .shared => (root.item? path).getD (.table [])
  | item => item

/-- The entries of a table at a path with what they share with the document copied from there. -/
def ownedEntriesAt (root : Table) (path : Key) : List (Bytes × Item) → List (Bytes × Item)
  | [] => []
  | (name, item) :: rest =>
    (name, item.ownedAt root (path ++ [name])) :: ownedEntriesAt root path rest

end

/-- A document part way through: its tables, the paths that are only implied, and the paths of plain
arrays. -/
structure Draft where
  root : Table
  implied : List Key
  arrays : List Key

namespace Draft

/-- A path that is implied from now on. -/
def imply (d : Draft) (path : Key) : Draft := { d with implied := path :: d.implied }

/-- A path that is no longer implied. -/
def settle (d : Draft) (path : Key) : Draft := { d with implied := d.implied.filter (· != path) }

/-- Notes whether a path holds a plain array; an empty name does not count as part of a path. -/
def note (d : Draft) (context : Key) (name : Bytes) (isArray : Bool) : Draft :=
  let path := if name.isEmpty then context else context ++ [name]
  let path := if path.isEmpty then [[]] else path
  let others := d.arrays.filter (· != path)
  { d with arrays := if isArray then path :: others else others }

/-- Makes a name in the table at `context` stand for an item, whatever it stood for. -/
def put? (d : Draft) (context : Key) (name : Bytes) (item : Item) : Option Draft :=
  let item := item.ownedAt d.root (context ++ [name])
  (Table.modifyAt? (fun t => some (t.set name item)) context d.root).map fun root => { d with root }

/-- Gives a name in the table at `context` an item. What is implied keeps its own item, and a plain
array gives way. -/
def define? (d : Draft) (context : Key) (name : Bytes) (item : Item) : Option Draft := do
  let table ← Table.at? context d.root
  let path := context ++ [name]
  match table.lookup name with
  | none => d.put? context name item
  | some _ =>
    if d.arrays.elem path then (d.put? context name item).map (settle · path)
    else if d.implied.elem path then some (d.settle path)
    else none

/-- Makes the tables on the way along a path, as far as they are missing. -/
def makeWay? (d : Draft) (done : Key) : Key → Option Draft
  | [] => some d
  | name :: path => do
    let table ← Table.at? done d.root
    let here := done ++ [name]
    let d ← match table.lookup name with
      | none =>
        (Table.modifyAt? (fun t => some (t.set name (.table []))) done d.root).map fun root =>
          imply { d with root } here
      | some (.leaf _) => none
      | some _ => some d
    makeWay? d here path

/-- Opens the table at a path, or one more element of the array of tables there. -/
def openTable? (d : Draft) (key : Key) (isElement : Bool) : Option Draft := do
  let name ← key.getLast?
  let above := key.dropLast
  let d ← d.makeWay? [] above
  if isElement then
    let table ← Table.at? above d.root
    let elements ← match table.lookup name with
      | none => some []
      | some (.tables elements) => some elements
      | some _ => none
    let root ← Table.modifyAt?
        (fun t => some (t.set name (.tables (elements ++ [[]])))) above d.root
    return { d with root }
  else d.define? above name (.table [])

/-- Opens the tables that a dotted key implies below `context`, one name after the other. -/
def openImplied? (d : Draft) (context : Key) : Key → Option (Draft × Key)
  | [] => some (d, context)
  | name :: names => do
    let here := context ++ [name]
    let d ← (d.imply here).openTable? here false
    openImplied? d here names

/-- Gives a name in the table at `context` the item that its value is, and tells how a table on one
line keeps it: the table that an array gave way to is from then on the document's own. -/
def assign? (d : Draft) (context : Key) (name : Bytes) (value : Value)
    (item : Item) : Option (Draft × Item) := do
  let wasArray := d.arrays.elem (context ++ [name])
  let d ← d.define? context name item
  match value with
  | .array _ => return (d.note context name true, item)
  | .table _ => return (d.note context name false, if wasArray then .shared else item)
  | _ => return (d.note context name false, item)

/-- Puts an item into a table on one line that stands at `context`. In it no array gives way to a
table, but a part that it shares with the document is the document's. -/
def keep? (d : Draft) (context key : Key) (table : Table)
    (item : Item) : Option (Draft × Table) := do
  if table.isShared key then
    let name ← key.getLast?
    let d ← d.put? (context ++ key.dropLast) name item
    return (d, table)
  else
    let table ← table.place? item key
    return (d, table)

mutual

/-- What a value defines below the name it is given to, and the item that it is. -/
def value? (d : Draft) (context : Key) (name : Bytes) (inArray : Bool) : Value →
    Option (Draft × Item)
  | .table pairs => do
    let here := context ++ [name]
    let d ← (d.imply here).openTable? here inArray
    let (d, table) ← entries? d here [] pairs
    return (d, .table table)
  | .array values => do
    let d ← items? (d.note context name true) context name values
    return (d, .leaf (.array values))
  | value => some (d, .leaf value)

/-- What the values of an array define. -/
def items? (d : Draft) (context : Key) (name : Bytes) : List Value → Option Draft
  | [] => some d
  | value :: values => do
    let (d, _) ← value? d context name true value
    items? d context name values

/-- What the entries of a table on one line define, and the table itself. -/
def entries? (d : Draft) (context : Key) (table : Table) : List (Key × Value) →
    Option (Draft × Table)
  | [] => some (d, table)
  | (key, value) :: pairs => do
    let name ← key.getLast?
    let (d, here) ← d.openImplied? context key.dropLast
    let (d, item) ← value? d here name false value
    let (d, item) ← d.assign? here name value item
    let (d, table) ← d.keep? context key table item
    entries? d context table pairs

end

/-- What a statement adds, and the table that the next entries belong to. -/
def statement? (d : Draft) (context : Key) : Statement → Option (Draft × Key)
  | .table key => do
    let d ← d.openTable? key false
    return (d.note key [] false, key)
  | .arrayTable key => do
    let d ← d.openTable? key true
    return (d.note key [] false, key)
  | .entry key value => do
    let name ← key.getLast?
    let (d, here) ← d.openImplied? context key.dropLast
    let (d, item) ← d.value? here name false value
    let (d, _) ← d.assign? here name value item
    return (d, context)

end Draft

/-- The table that the statements define. -/
def document? (statements : List Statement) : Option Table := do
  let (d, _) ← statements.foldlM (fun (state : Draft × Key) s => state.1.statement? state.2 s)
      (⟨[], [], []⟩, [])
  return d.root

/-- The table that a text defines. -/
def read? (text : Bytes) : Option Table := do
  let statements ← parse? text
  document? statements

end Toml

end ImportLookup
