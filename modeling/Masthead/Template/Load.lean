import Masthead.Diagnostic
import Masthead.File.Path
import Masthead.Template.Parser

/-!
# Loading a template

A project has one template.  Looking it up ends in a template to check headers against, in a
diagnostic to report instead, or in nothing: an empty template file turns checking off.
-/

namespace Masthead

/-- What looking up a project's template ends in. -/
inductive Lookup
  | template (template : Template)
  | problem (diagnostic : Diagnostic)
  | disabled
  deriving DecidableEq

/-- The outcome of looking up a template, and the file it comes from, if any. -/
structure TemplateLoad where
  lookup : Lookup
  path : Option Path
  deriving DecidableEq

namespace TemplateLoad

/-- The load of a project whose headers are not checked. -/
def unset : TemplateLoad := ⟨.disabled, none⟩

def ofDiagnostic (diagnostic : Diagnostic) : TemplateLoad := ⟨.problem diagnostic, none⟩

def template? (load : TemplateLoad) : Option Template :=
  match load.lookup with
  | .template template => some template
  | _ => none

def diagnostic? (load : TemplateLoad) : Option Diagnostic :=
  match load.lookup with
  | .problem diagnostic => some diagnostic
  | _ => none

/-- Whether a load turns checking off. -/
def isDisabled (load : TemplateLoad) : Bool := load.lookup == .disabled

def misconfigured (message : String) : TemplateLoad :=
  ofDiagnostic (.saying .misconfiguredTemplate 0 0 message)

def missing (suffix : String) : TemplateLoad :=
  ofDiagnostic (.create .missingTemplate 0 0 (some suffix) [])

def ambiguous (suffix : String) : TemplateLoad :=
  misconfigured
    ("More than one header *" ++ suffix ++
      " file has been added to this project. Remove all but one of them.")

/-- The load of a project whose template file does not exist. -/
def absent (path : Path) : TemplateLoad := misconfigured (path.toString ++ " does not exist.")

def parseMessage (path : Path) (error : ParseError) : String :=
  "Error in " ++ path.toString ++ ": " ++ error.message

/-- Where a template comes from when no file is named. -/
def unnamed : Path := ⟨.here, ["<template>"]⟩

/-- The load of a template source that comes from a path. -/
def ofText (source : Text) (path : Path) : TemplateLoad :=
  if source.isEmpty then ⟨.disabled, some path⟩
  else
    match Template.parse source with
    | .ok template => ⟨.template template, some path⟩
    | .error error =>
        ⟨.problem (.saying .misconfiguredTemplate 0 0 (parseMessage path error)), some path⟩

end TemplateLoad

end Masthead
