import DoraSpec.Core.ModuleTree

/-!
# Where the paths of a module lead

The file of a module is resolved and compared with the resolved base directory. The paths of its
nodes are only joined to the directory of the file, which is in the base directory, so that the
comparison always succeeds and says nothing about `..` components and links.
-/

namespace DoraSpec.Core.Expand
open Base Base.PathText Message List Option Outcome

/-- Module files of an item. -/
def Item.files : Item → List Path
  | .plain _ => []
  | .module _ canonical _ items => canonical :: items.flatMap fun item => item.files

/-- Module files that were read. -/
def Project.files (p : Project) : List Path := p.items.flatMap Item.files

/-- Once `..` components and links are resolved, the segments lead from the directory into the root
directory. -/
def LeadsInto (fs : FileSystem) (root dir : Path) (ss : List String) : Prop :=
  root <+: fs.settle FileTree.maxLinks dir ss

/-- The segment leads out of the root directory: it is `..` in that directory itself, or a link to a
place outside. -/
def Leaves (fs : FileSystem) (root cur : Path) (s : String) : Prop :=
  (s = ".." ∧ cur = root ∧ root ≠ []) ∨
    ∃ target, fs.linkAt cur s = some target ∧
      ¬ root <+: fs.settle (FileTree.maxLinks - 1) (if isAbsolute target then [] else cur)
        (segments target)

/-- After a segment that leads out of the root directory, a later one leads back into it. -/
def Returns (fs : FileSystem) (root dir : Path) (ss : List String) : Prop :=
  ∀ front s back, ss = front ++ s :: back → LeadsInto fs root dir front →
    Leaves fs root (fs.settle FileTree.maxLinks dir front) s →
      ∃ front', front' <+: back ∧ LeadsInto fs root dir (front ++ s :: front')

variable {fs : FileSystem}

section Project

variable {fs : FileSystem} {descriptor : Descriptor} {baseDir : String} {root : Path}
  {project : Project} (h : loadProject fs descriptor baseDir = .ok project)
  (hroot : fs.canonicalize (segments baseDir) = some root)
include h hroot

end Project

/-! ## Node paths -/

end DoraSpec.Core.Expand
