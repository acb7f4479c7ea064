import BuildManifest.Manifest.Fault
import BuildManifest.Manifest.Fields
import BuildManifest.Tree.KeyText

/-!
# Reading downloads and patches

A download is a bare address, a record of its fields, or the values of the fields in order.  A
patch is a bare address or a record.  Neither may hold a tag anywhere.

## What is here

* `Download.ofTree`, `Patch.ofTree` — the readers.
* `Patch.allOfTree` — the patches of an entry: one address, a list or a labelled mapping.
-/

set_option autoImplicit false

namespace BuildManifest

namespace Download

/-- The fields of a download in order. -/
def fieldNames : List String := ["type", "url", "branch", "tag", "revision"]

/-- A download from the entries of a record. -/
def ofRecord? (entries : Mapping) : Option Download :=
  if Fields.areRecord fieldNames entries then do
    let field := Fields.value fieldNames entries
    let kind ← (field "type").optionalString?
    let url ← (field "url").optionalScalar?
    let branch ← (field "branch").optionalScalar?
    let tag ← (field "tag").optionalScalar?
    let revision ← (field "revision").optionalScalar?
    return ⟨kind.map DownloadKind.ofText, url, branch, tag, revision⟩
  else none

/-- A download from a tree without tags. -/
def ofUntagged? : Tree → Option Download
  | .string url => some (ofUrl url)
  | .mapping entries => ofRecord? entries
  | .sequence items =>
    if items.length ≤ fieldNames.length then ofRecord? (Tree.indexedFrom 0 items) else none
  | _ => none

/-- Read a download. -/
def ofTree (tree : Tree) : Except AttributeFault Download :=
  if tree.hasTag then .error .tagged
  else
    match ofUntagged? tree with
    | some download => .ok download
    | none => .error .notDownload

end Download

namespace Patch

/-- The fields of a patch in order. -/
def fieldNames : List String := ["url", "md5"]

/-- A patch from a tree without tags. -/
def ofUntagged? : Tree → Option Patch
  | .string url => some (.bare url)
  | .mapping entries =>
    if Fields.areRecord fieldNames entries then
      match Fields.value fieldNames entries "url" with
      | .string url =>
        (Fields.value fieldNames entries "md5").optionalString?.map (.detailed url)
      | _ => none
    else none
  | _ => none

/-- Read a patch. -/
def ofTree (tree : Tree) : Except AttributeFault Patch :=
  if tree.hasTag then .error .tagged
  else
    match ofUntagged? tree with
    | some patch => .ok patch
    | none => .error .notPatch

/-- Read patches under the texts of their keys; of equal labels the last one counts. -/
def readLabelled (done : Labelled Patch) : Mapping → Except AttributeFault (Labelled Patch)
  | [] => .ok done
  | (key, value) :: rest =>
    match ofTree value with
    | .ok patch => readLabelled (done.insert key.keyText patch) rest
    | .error fault => .error fault

/-- Read the patches of an entry; a single address has the label `0`. -/
def allOfTree (tree : Tree) : Except AttributeFault (Labelled Patch) :=
  match tree.indexed with
  | .null => .ok .empty
  | .mapping entries => readLabelled .empty entries
  | .string url => .ok (Labelled.empty.insert "0" (.bare url))
  | _ => .error .notPatches

end Patch

end BuildManifest
