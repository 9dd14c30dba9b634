import RouteTemplate.Toml.Value

/-!
Adding to the tables of a document. No key is written twice, and a table that is complete is not
added to: one in braces by nothing, one with a header by no dotted key.
-/

namespace RouteTemplate.Toml

abbrev Key := List Char

namespace Entries

/-- Puts a value in the place of the one of the same key, or after all others. -/
def set (key : Key) (value : Value) : Entries → Entries
  | [] => [(key, value)]
  | e :: entries => if e.1 = key then (key, value) :: entries else e :: set key value entries

/-- Changes the table at the end of a path, which is told how that table came about. Tables that are
missing on the way are made; of a list of tables the last one is meant. -/
def update (dotted : Bool) (f : TableKind → Entries → Option Entries) (kind : TableKind) :
    (path : List Key) → Entries → Option Entries
  | [], entries => f kind entries
  | key :: path, entries =>
    match entries.lookup key with
    | none => do
      let kind : TableKind := if dotted then .dotted else .implied
      return entries.set key (.table kind (← update dotted f kind path []))
    | some (.table kind inside) =>
      if kind = .inline || (dotted && kind = .header) then none
      else do return entries.set key (.table kind (← update dotted f kind path inside))
    | some (.tables items) =>
      match items.getLast? with
      | some last => do
        return entries.set key (.tables (items.dropLast ++ [← update dotted f .header path last]))
      | none => none
    | some _ => none

/-- Writes an entry into a table that a dotted key leads to. -/
def insert (entries : Entries) (kind : TableKind) (path : List Key) (key : Key) (value : Value) :
    Option Entries :=
  update true
    (fun kind entries =>
      if (!path.isEmpty && kind ≠ .dotted) || (entries.lookup key).isSome then none
      else some (entries.set key value))
    kind path entries

/-- What stands already in the table that a header is about to write, if the header may stand. -/
def opened? (entries : Entries) : (path : List Key) → Option Entries
  | [] => none
  | [key] =>
    match entries.lookup key with
    | none => some []
    | some (.table .implied inside) => some inside
    | some _ => none
  | key :: path =>
    match entries.lookup key with
    | none => some []
    | some (.table kind inside) => if kind = .inline then none else opened? inside path
    | some (.tables items) => items.getLast?.bind (opened? · path)
    | some _ => none

/-- Puts the table of a header into its place. -/
def close? (entries : Entries) (path : List Key) (table : Entries) : Option Entries :=
  match path.getLast? with
  | none => none
  | some key =>
    update false (fun _ entries => some (entries.set key (.table .header table))) .header
      path.dropLast entries

/-- Adds the table of a header in double brackets to the list at its place. -/
def push? (entries : Entries) (path : List Key) (table : Entries) : Option Entries :=
  match path.getLast? with
  | none => none
  | some key =>
    update false
      (fun _ entries =>
        match entries.lookup key with
        | none => some (entries.set key (.tables [table]))
        | some (.tables items) => some (entries.set key (.tables (items ++ [table])))
        | some _ => none)
      .header path.dropLast entries

end Entries

end RouteTemplate.Toml
