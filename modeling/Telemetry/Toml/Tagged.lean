import Telemetry.Toml.Basic

/-!
# Tagged values

Two keys are reserved within the values of a document. A table with the value key stands for what it has under that
key, and the rest of it is dropped. A table with the tag key is refused, because nothing in a document is a tag. The
keys of the root are not reserved: the root is no value.
-/

namespace Telemetry.Toml

/-- The key of what a table stands for. -/
def valueKey : String := "___figment_value_value"

/-- The key of a tag. -/
def tagKey : String := "___figment_value_id"

/-- What a table stands for. -/
def ofTagged? (origin : Origin) (entries : Entries) : Option Toml :=
  if (entries.lookup tagKey).isSome then none else some ((entries.lookup valueKey).getD (table origin entries))

mutual

/-- What a value and all within it stand for. -/
def untagged? : Toml → Option Toml
  | array isOpen items => (untaggedItems? items).map (array isOpen)
  | table origin entries => (untaggedEntries? entries).bind (ofTagged? origin)
  | value => some value

def untaggedItems? : List Toml → Option (List Toml)
  | [] => some []
  | item :: items => do return (← untagged? item) :: (← untaggedItems? items)

def untaggedEntries? : List (String × Toml) → Option Entries
  | [] => some []
  | (key, value) :: entries => do return (key, ← untagged? value) :: (← untaggedEntries? entries)

end

/-- A root whose values stand for themselves. -/
def untaggedRoot? : Toml → Option Toml
  | table origin entries => (untaggedEntries? entries).map (table origin)
  | root => untagged? root

end Telemetry.Toml
