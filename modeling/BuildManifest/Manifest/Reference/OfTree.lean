import BuildManifest.Manifest.Download.OfTree

/-!
# Reading references

A reference is a path or a mapping that names a file of a checkout.  Several of them are a list, a
mapping whose keys do not matter, or a single path.
-/

set_option autoImplicit false

namespace BuildManifest.Reference

/-- Read a reference to a file of a checkout. -/
def ofMapping (entries : Mapping) : Except ReferenceFault Reference :=
  match (Mapping.get? entries "makefile").bind Tree.scalarText? with
  | none => .error .noMakefile
  | some makefile =>
    match Mapping.get? entries "download" with
    | none => .error (.noDownload makefile)
    | some tree =>
      match Download.ofTree tree with
      | .error fault => .error (.download fault)
      | .ok download =>
        if download.url.isNone then .error (.noUrl makefile)
        else .ok (.checkout makefile download)

/-- Read a reference. -/
def ofTree : Tree → Except ReferenceFault Reference
  | .string path => .ok (.plain path)
  | .mapping entries => ofMapping entries
  | other => .error (.notReference other.keyText)

/-- Read references in order. -/
def readAll : List Tree → Except ReferenceFault (List Reference)
  | [] => .ok []
  | tree :: rest => do
    let reference ← ofTree tree
    let others ← readAll rest
    return reference :: others

/-- Read the references of a manifest. -/
def listOfTree : Tree → Except ReferenceFault (List Reference)
  | .null => .ok []
  | .string path => .ok [.plain path]
  | .sequence items => readAll items
  | .mapping entries => readAll (entries.map Prod.snd)
  | other => .error (.notList other.keyText)

end BuildManifest.Reference
