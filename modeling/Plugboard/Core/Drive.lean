import Plugboard.Code

/-!
The drive plugin: a panel over the files of a drive, and a settings page that lists every setting of
its schema with secrets masked.
-/
namespace Plugboard.Drive

def viewModes : List String := ["list", "grid"]

def maxPageSize : Nat := 100

/-- The number a page size stands for. -/
def readPageSize (s : String) : Except Text.WholeError Nat :=
  Text.readWhole Text.max32 (Text.trim s)

def checkPageSize : Validator := fun v =>
  let objection := "must be between 1 and " ++ toString maxPageSize
  match readPageSize v with
  | .ok n => if 1 ≤ n && n ≤ maxPageSize then none else some objection
  | .error _ => some objection

def schema : Schema := Schema.ofList [
  ("root_folder", ⟨.string, "Root folder", false, some "root", none⟩),
  ("view_mode", ⟨.select viewModes, "View mode", false, some "list", none⟩),
  ("page_size", ⟨.number, "Files per page", false, some "25", some checkPageSize⟩),
  ("show_hidden", ⟨.boolean, "Show hidden files", false, some "false", none⟩),
  ("api_key", .plain .secret "API key")]

/-- The settings with the defaults below them. -/
def effective (c : Context) : Settings := schema.defaults.overlay c.settings

/-- A setting, empty when there is none. -/
def setting (s : Settings) (k : String) : String := (s.get? k).getD ""

/-- The text of the panel, or what is wrong with the settings. -/
def panelText (c : Context) : Except String String :=
  let get := setting (effective c)
  match readPageSize (get "page_size") with
  | .error e => .error ("invalid page_size '" ++ get "page_size" ++ "': " ++ e.message)
  | .ok size =>
    if !viewModes.contains (get "view_mode") then
      .error ("unknown view_mode '" ++ get "view_mode" ++ "'")
    else
      let hidden := if get "show_hidden" == "true" then ", hidden files shown" else ""
      let linked := if (get "api_key").isEmpty then "not linked" else "linked"
      .ok ("Drive (" ++ linked ++ ")\nFolder: " ++ get "root_folder" ++ "\n" ++
        get "view_mode" ++ " view, " ++ toString size ++ " files per page" ++ hidden)

/-- How the settings page shows a value. -/
def shown (f : Field) (value : String) : String :=
  if value.isEmpty then "(unset)"
  else if f.type = .secret then "********"
  else value

def settingsText (c : Context) : Except String String :=
  .ok ("\n".intercalate ("Drive settings" :: schema.fields.map fun p =>
    "  " ++ p.2.label ++ ": " ++ shown p.2 (setting (effective c) p.1)))

def definition : Definition Code :=
  { Definition.plain "drive" "Drive" with
    description := "Browse and open files from your connected drive"
    author := "Panelhost Developers"
    tags := ["files", "storage", "documents"]
    core := true
    category := .integration
    panel := some (.ofText panelText)
    settings := some (.ofText settingsText)
    routes := [⟨"/drive", "Drive"⟩, ⟨"/drive/settings", "Drive settings"⟩]
    schema := some schema
    init := some fun _ => .later .skip
    sidebar := ⟨true, some "hard-drive", some "My Drive", some 20⟩ }

end Plugboard.Drive
