import ProseTree.Language.Setting

/-!
# TOML tables

Tables under construction. A table may be made by its own header, by the header of a table below it,
or by a dotted key, and only some of these may meet: a header defines a table once, a dotted key
goes only through tables that dotted keys made, and a value is closed. A header of an array adds a
table to it, and the last table of an array is the one that further headers mean.
-/

namespace ProseTree.Toml

open ProseTree.Language (Setting)

/-- What a key holds while a document is read. The tables of an array are listed last one first. -/
inductive Entry where
  | value (setting : Setting)
  | table (isImplicit isDotted : Bool) (entries : List (Text × Entry))
  | tables (elements : List (List (Text × Entry)))

/-- The keys of a table and what they hold. -/
abbrev Entries := List (Text × Entry)

namespace Entries

/-- What a key holds. -/
def get? (entries : Entries) (key : Text) : Option Entry :=
  (entries.find? fun entry => entry.1 == key).map (·.2)

/-- The entries with another entry under a key that is there. -/
def replace (entries : Entries) (key : Text) (entry : Entry) : Entries :=
  entries.map fun old => if old.1 == key then (key, entry) else old

/-- The entries after a change of the table that a path leads to. Missing tables are made on the
way. The change is told whether a dotted key made its table. -/
def changeAt (isDottedPath : Bool) (change : Bool → Entries → Option Entries) :
    Bool → List Text → Entries → Option Entries
  | isDotted, [], entries => change isDotted entries
  | _, key :: path, entries =>
    match get? entries key with
    | none => do
      let inner ← changeAt isDottedPath change isDottedPath path []
      some (entries ++ [(key, .table true isDottedPath inner)])
    | some (.table isImplicit isDotted inner) =>
      if isDottedPath && !isImplicit then none
      else do
        let changed ← changeAt isDottedPath change isDotted path inner
        some (replace entries key (.table isImplicit isDotted changed))
    | some (.tables (last :: earlier)) => do
      let changed ← changeAt isDottedPath change false path last
      some (replace entries key (.tables (changed :: earlier)))
    | some (.tables []) | some (.value _) => none

/-- The last key of a non-empty path and the keys before it. -/
def splitPath? (keys : List Text) : Option (List Text × Text) :=
  keys.getLast?.map (keys.dropLast, ·)

/-- The entries of a table with a value under a dotted key. -/
def assign? (keys : List Text) (setting : Setting) (entries : Entries) : Option Entries := do
  let (path, key) ← splitPath? keys
  changeAt true (fun isDotted inner =>
    if isDotted == path.isEmpty || (get? inner key).isSome then none
    else some (inner ++ [(key, .value setting)])) false path entries

/-- The entries after a header of a table. -/
def openTable? (keys : List Text) (entries : Entries) : Option Entries := do
  let (path, key) ← splitPath? keys
  changeAt false (fun _ inner =>
    match get? inner key with
    | none => some (inner ++ [(key, .table false false [])])
    | some (.table true false below) => some (replace inner key (.table false false below))
    | _ => none) false path entries

/-- The entries after a header of an array of tables. -/
def openArray? (keys : List Text) (entries : Entries) : Option Entries := do
  let (path, key) ← splitPath? keys
  changeAt false (fun _ inner =>
    match get? inner key with
    | none => some (inner ++ [(key, .tables [[]])])
    | some (.tables elements) => some (replace inner key (.tables ([] :: elements)))
    | _ => none) false path entries

/-- The entries after an assignment in the table that the last header opened. -/
def assignBelow? (header keys : List Text) (setting : Setting) (entries : Entries) :
    Option Entries :=
  changeAt false (fun _ inner => assign? keys setting inner) false header entries

end Entries

mutual

/-- The setting that an entry is. -/
def Entry.toSetting : Entry → Setting
  | .value setting => setting
  | .table _ _ entries => .table (entriesToSettings entries)
  | .tables elements => .list (elementsToSettings elements).reverse

/-- The settings of the keys of a table. -/
def entriesToSettings : List (Text × Entry) → List (Text × Setting)
  | [] => []
  | (key, entry) :: entries => (key, entry.toSetting) :: entriesToSettings entries

/-- The settings of the tables of an array, in the order in which they are kept. -/
def elementsToSettings : List (List (Text × Entry)) → List Setting
  | [] => []
  | element :: elements => .table (entriesToSettings element) :: elementsToSettings elements

end

end ProseTree.Toml
