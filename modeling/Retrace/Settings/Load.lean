import Retrace.Settings.Variables
import Retrace.Template
import Retrace.Text.Lines
import Retrace.Yaml.Builder

/-!
# Loading settings

This is `load_config`. Settings come from variables, from a file, and from what is given outright;
of two the later counts more, entry by entry. A file is a template that variables fill, and then
YAML.

* `Settings.gather`: from variables and given sections;
* `Settings.fillSlots`: a text with variables in its slots (`substitute_env_vars`);
* `Settings.load`: from variables and a file.
-/

namespace Retrace

/-- A file of settings: its path, and its text if there is such a file. -/
structure SettingsFile where
  path : Path
  text : Option Text

/-- Why there are no settings. -/
inductive SettingsFault
  /-- There is no file. -/
  | noFile (path : Path)
  /-- A slot of the file is named for no variable. -/
  | noVariable (name : Text)
  /-- The file is no YAML. -/
  | notYaml (fault : Yaml.Fault)
  /-- The file says something that is no table. -/
  | noTable (path : Path)
  /-- A section of the file has a key that is no text. -/
  | sectionKey
  /-- A variable for a section does not hold a value. -/
  | badVariable (sectionName : String)
  /-- Values are not good. -/
  | invalid (complaints : List Complaint)

/-- The wording of a fault; complaints are worded one by one. -/
def SettingsFault.message : SettingsFault → String
  | .noFile path => "Configuration file not found: " ++ String.ofList path.toText
  | .noVariable name => "Environment variable " ++ String.ofList name ++ " not found"
  | .notYaml _ => ""
  | .noTable path => "Configuration root must be a mapping: " ++ String.ofList path.toText
  | .sectionKey => "keywords must be strings"
  | .badVariable sectionName => badVariableMessage sectionName
  | .invalid _ => ""

namespace Settings

/-- The settings of a table of sections. -/
def ofSections (entries : Entries) : Except SettingsFault Settings :=
  match ofEntries entries with
  | .ok settings => .ok settings
  | .error complaints => .error (.invalid complaints)

/-- The settings of variables and of sections that are given outright. -/
def gather (env : Variables) (given : Entries) : Except SettingsFault Settings :=
  match sectionsOfVariables env with
  | .error sectionName => .error (.badVariable sectionName)
  | .ok entries => ofSections (Datum.overlaidEntries entries given)

/-- Whether a key is a text. -/
def isTextKey : Datum → Bool
  | .str _ => true
  | _ => false

/-- A text with its slots filled from variables. -/
def fillSlots (env : Variables) (t : Text) : Except SettingsFault Text :=
  (Template.render env.get? t).mapError .noVariable

/-- The sections of the text of a file. A text that says nothing, or nothing that counts as present,
has none. -/
def sectionsOfText (env : Variables) (path : Path) (t : Text) :
    Except SettingsFault Entries :=
  match fillSlots env t.unifyLineEnds with
  | .error fault => .error fault
  | .ok filled =>
    match Datum.ofText filled with
    | .error fault => .error (.notYaml fault)
    | .ok datum =>
      if !datum.isPresent then .ok []
      else
        match datum with
        | .table entries =>
          if entries.all (isTextKey ·.1) then .ok entries else .error .sectionKey
        | _ => .error (.noTable path)

/-- The settings of variables and of a file, if one is named. What variables say on a section must
be readable here too, and else the whole is not good. -/
def load (env : Variables) (file : Option SettingsFile) : Except SettingsFault Settings :=
  match file with
  | none => gather env []
  | some ⟨path, none⟩ => .error (.noFile path)
  | some ⟨path, some t⟩ => do
    let entries ← sectionsOfText env path t
    match gather env entries with
    | .error (.badVariable sectionName) => .error (.invalid [⟨[], .badVariable sectionName⟩])
    | outcome => outcome

end Settings

end Retrace
