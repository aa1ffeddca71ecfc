/-!
# TOML values

A value of a TOML document. Tables remember how they came to be, which decides what may still be added to them while
a document is read.
-/

namespace Telemetry

namespace Toml

/-- How a table came to be. -/
inductive Origin
  /-- Written between braces; nothing can be added. -/
  | inline
  /-- Named on the way to the table of a header. -/
  | implied
  /-- Named by a header of its own. -/
  | header
  /-- Named by a key with dots. -/
  | dotted
deriving DecidableEq, Repr

end Toml

inductive Toml
  | bool (value : Bool)
  | string (value : String)
  /-- An integer or a float; nothing here looks at its value. -/
  | number
  | dateTime
  /-- An array; one of tables is `open` to further headers. -/
  | array (isOpen : Bool) (items : List Toml)
  | table (origin : Toml.Origin) (entries : List (String × Toml))

namespace Toml

abbrev Entries := List (String × Toml)

/-- Sets the value of a key, which is appended if it is new. -/
def put (key : String) (value : Toml) (entries : Entries) : Entries :=
  if (entries.lookup key).isSome then entries.map fun (k, v) => if k = key then (k, value) else (k, v)
  else entries ++ [(key, value)]

mutual

/-- The value `upper` laid over `lower`: tables are merged key by key, everything else is replaced. -/
def merge (lower upper : Toml) : Toml :=
  match upper with
  | table origin entries =>
    match lower with
    | table _ lowerEntries => table origin (mergeEntries lowerEntries entries)
    | _ => table origin entries
  | other => other

def mergeEntries (lower upper : Entries) : Entries :=
  match upper with
  | [] => lower
  | (key, value) :: rest =>
    let merged := match lower.lookup key with
      | some old => merge old value
      | none => value
    mergeEntries (put key merged lower) rest

end

end Toml

end Telemetry
