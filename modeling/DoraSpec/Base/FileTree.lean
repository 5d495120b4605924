import Mathlib.Data.List.DropRight
import Mathlib.Data.List.Infix
import Mathlib.Data.String.Basic

/-!
# Directory trees and paths

A path text is cut at its slashes. Resolving it walks from a directory through `..` components and
symbolic links, of which a bounded number is followed, to a path from the root. Removing the front
of a path only compares components.
-/

namespace DoraSpec.Base

/-! ## Path texts -/

variable {ss : List String}

namespace PathText

/-- Parts of a path text between its slashes. -/
def segments (path : String) : List String := (path.toList.splitOn '/').map String.ofList

/-- Path text of the segments. -/
def join (segments : List String) : String :=
  String.ofList (['/'].intercalate (segments.map String.toList))

/-- Absolute paths start with a slash. -/
def isAbsolute (path : String) : Bool := path.toList.head? = some '/'

private theorem slash_not_mem_of_mem_splitOn {cs s : List Char} (h : s ∈ cs.splitOn '/') :
    '/' ∉ s := by
  induction cs generalizing s with
  | nil => simp_all
  | cons c cs ih =>
    rw [List.splitOn_cons_eq_if_modifyHead] at h
    split at h
    · rcases List.mem_cons.mp h with rfl | h
      · simp
      · exact ih h
    · next hc =>
      cases hcut : cs.splitOn '/' with
      | nil => simp [hcut] at h
      | cons s' ss =>
        rw [hcut] at ih h
        rcases List.mem_cons.mp h with rfl | h
        · have hc' : '/' ≠ c := fun e => hc (by simp [← e])
          simp [hc', ih List.mem_cons_self]
        · exact ih (List.mem_cons_of_mem _ h)

/-- Segments hold no slash. -/
theorem slash_not_mem_of_mem_segments {path s : String} (h : s ∈ segments path) :
    '/' ∉ s.toList := by
  obtain ⟨cs, hcs, rfl⟩ := List.mem_map.mp h
  simpa using slash_not_mem_of_mem_splitOn hcs

/-- Joined segments are cut where they were joined. -/
theorem segments_join (hne : ss ≠ []) (h : ∀ s ∈ ss, '/' ∉ s.toList) :
    segments (join ss) = ss := by
  rw [segments, join, String.toList_ofList,
    List.splitOn_intercalate '/' (by simpa using h) (by simpa)]
  simp

/-- Segment that stands for the directory before it. -/
def isNoop (s : String) : Bool := s = "" || s = "."

/-- Segments without those at the end that stand for the directory before them. -/
def trimEnd (ss : List String) : List String := ss.rdropWhile isNoop

/-- Segments after the given components; `Path::strip_prefix`. -/
def stripPrefix : List String → List String → Option (List String)
  | [], ss => some (trimEnd (ss.dropWhile isNoop))
  | b :: base, ss =>
    match ss.dropWhile isNoop with
    | [] => none
    | s :: rest => if s = b then stripPrefix base rest else none

/-- Names of directories and files. -/
structure IsName (s : String) : Prop where
  not_noop : isNoop s = false
  not_parent : s ≠ ".."
  not_slash : '/' ∉ s.toList

end PathText

/-! ## Trees -/

open PathText List

/-- Names from the root. -/
abbrev Path := List String

/-- What a path from the root leads to. -/
inductive Entry (α : Type) where
  | dir
  | file (content : α)
  | link (target : String)

/-- Directory tree. -/
structure FileTree (α : Type) where
  entry : Path → Option (Entry α)
  root : entry [] = some .dir

namespace FileTree

/-- Tree of the given files and the directories they are in. -/
def ofFiles {α : Type} (files : List (Path × α)) : FileTree α where
  entry p :=
    if p = [] then some .dir
    else match files.lookup p with
      | some content => some (.file content)
      | none => if files.any (p.isPrefixOf ·.1) then some .dir else none
  root := rfl

/-- The files of such a tree are the given ones. -/
theorem mem_of_entry_ofFiles {α : Type} {files : List (Path × α)} {p : Path} {content : α}
    (h : (ofFiles files).entry p = some (.file content)) : (p, content) ∈ files := by
  simp only [ofFiles] at h
  split at h
  · cases h
  · split at h
    · next hlookup =>
      cases h
      obtain ⟨front, back, rfl, -⟩ := lookup_eq_some_iff.mp hlookup
      exact mem_append_right _ mem_cons_self
    · split at h <;> cases h

variable {α : Type} (t : FileTree α)

/-- Walk along segments; `follow` goes on after a symbolic link. -/
def walkWith (follow : Path → List String → Option Path) : Path → List String → Option Path
  | cur, [] => some cur
  | cur, s :: rest =>
    match t.entry cur with
    | some .dir =>
      if isNoop s then walkWith follow cur rest
      else if s = ".." then walkWith follow cur.dropLast rest
      else match t.entry (cur ++ [s]) with
        | none => none
        | some (.link target) =>
          follow (if isAbsolute target then [] else cur) (segments target ++ rest)
        | some _ => walkWith follow (cur ++ [s]) rest
    | _ => none

/-- Walk along segments, following at most the given number of links. -/
def walk : Nat → Path → List String → Option Path
  | 0 => t.walkWith fun _ _ => none
  | links + 1 => t.walkWith (walk links)

/-- Links that are followed in one path. -/
def maxLinks : Nat := 40

/-- Path from the root without links; `Path::canonicalize` of an absolute path. -/
def canonicalize (path : List String) : Option Path := t.walk maxLinks [] path

/-- Target of the link that a segment names. -/
def linkAt (cur : Path) (s : String) : Option String :=
  if isNoop s || s = ".." then none
  else match t.entry (cur ++ [s]) with
    | some (.link target) => some target
    | _ => none

/-- Path after a segment that names no link. -/
def advance (cur : Path) (s : String) : Path :=
  if isNoop s then cur else if s = ".." then cur.dropLast else cur ++ [s]

/-- Where segments lead to, also if there is nothing there yet: links are followed, to the given depth,
and everything else is taken for a directory or a new name. -/
def settle : Nat → Path → List String → Path
  | 0, cur, ss => ss.foldl advance cur
  | links + 1, cur, ss => ss.foldl (fun cur s =>
      match t.linkAt cur s with
      | some target => settle links (if isAbsolute target then [] else cur) (segments target)
      | none => advance cur s) cur

/-- Paths from the root through directories to something that is no link. -/
inductive Real : Path → Prop
  | root : Real []
  | child {p : Path} {s : String} {e : Entry α} : Real p → t.entry p = some .dir → IsName s →
      t.entry (p ++ [s]) = some e → (∀ target, e ≠ .link target) → Real (p ++ [s])

variable {t} {follow : Path → List String → Option Path} {links : Nat} {p : Path} {cur : Path}

/-- The parent of a real path is real. -/
theorem Real.dropLast (h : t.Real p) : t.Real p.dropLast := by
  cases h with
  | root => exact .root
  | child hp => rwa [dropLast_concat]

/-- The step of a real path at one of its names. -/
theorem Real.at_name {s : String} {rest : Path} (h : t.Real (p ++ s :: rest)) :
    t.entry p = some .dir ∧ IsName s ∧ ∃ e, t.entry (p ++ [s]) = some e ∧ ∀ target, e ≠ .link target := by
  induction rest using reverseRecOn with
  | nil =>
    generalize hq : p ++ [s] = q at h
    cases h with
    | root => simp at hq
    | child hp hdir hs he hl =>
      obtain ⟨rfl, hs'⟩ := append_inj' hq rfl
      obtain rfl := singleton_inj.mp hs'
      exact ⟨hdir, hs, _, he, hl⟩
  | append_singleton rest r ih =>
    have h' := h.dropLast
    rw [← cons_append, ← append_assoc, dropLast_concat] at h'
    exact ih h'

/-- Real paths consist of names. -/
theorem Real.isName (h : t.Real p) : ∀ s ∈ p, IsName s := by
  intro s hs
  obtain ⟨front, back, rfl⟩ := append_of_mem hs
  exact h.at_name.2.1

private theorem walkWith_cons {s : String} {rest : List String} {q : Path} :
    t.walkWith follow cur (s :: rest) = some q ↔ t.entry cur = some .dir ∧
      ((∃ target, t.linkAt cur s = some target ∧
        follow (if isAbsolute target then [] else cur) (segments target ++ rest) = some q) ∨
      t.linkAt cur s = none ∧ (isNoop s ∨ s = ".." ∨ (t.entry (cur ++ [s])).isSome) ∧
        t.walkWith follow (advance cur s) rest = some q) := by
  rw [walkWith]
  cases t.entry cur with
  | none => simp
  | some e =>
    cases e with
    | file | link => simp
    | dir =>
      by_cases hnoop : isNoop s = true
      · simp [linkAt, advance, hnoop]
      · by_cases hparent : s = ".."
        · subst hparent
          simp [linkAt, advance, isNoop]
        · cases he : t.entry (cur ++ [s]) with
          | none => simp [linkAt, hnoop, hparent, he]
          | some e => cases e <;> simp [linkAt, advance, hnoop, hparent, he]

private theorem Real.advance {s : String} (hcur : t.Real cur) (hdir : t.entry cur = some .dir)
    (hslash : '/' ∉ s.toList) (hlink : t.linkAt cur s = none)
    (hs : isNoop s ∨ s = ".." ∨ (t.entry (cur ++ [s])).isSome) : t.Real (advance cur s) := by
  unfold FileTree.advance
  split
  · exact hcur
  · next hnoop =>
    split
    · exact hcur.dropLast
    · next hparent =>
      obtain ⟨e, he⟩ := Option.isSome_iff_exists.mp ((hs.resolve_left hnoop).resolve_left hparent)
      refine .child hcur hdir ⟨by simpa using hnoop, hparent, hslash⟩ he ?_
      rintro target rfl
      simp [linkAt, hnoop, hparent, he] at hlink

private theorem walkWith_real
    (hfollow : ∀ cur ss q, t.Real cur → (∀ s ∈ ss, '/' ∉ s.toList) → follow cur ss = some q → t.Real q)
    {q : Path} (hcur : t.Real cur) (hss : ∀ s ∈ ss, '/' ∉ s.toList)
    (h : t.walkWith follow cur ss = some q) : t.Real q := by
  induction ss generalizing cur with
  | nil =>
    obtain rfl := Option.some.inj h
    exact hcur
  | cons s rest ih =>
    obtain ⟨hslash, hrest⟩ := forall_mem_cons.mp hss
    obtain ⟨hdir, ⟨target, -, h⟩ | ⟨hlink, hs, h⟩⟩ := walkWith_cons.mp h
    · refine hfollow _ _ _ ?_ (fun r hr => ?_) h
      · split
        · exact .root
        · exact hcur
      · rcases mem_append.mp hr with hr | hr
        · exact slash_not_mem_of_mem_segments hr
        · exact hrest r hr
    · exact ih (hcur.advance hdir hslash hlink hs) hrest h

private theorem walk_real {q : Path} (hcur : t.Real cur) (hss : ∀ s ∈ ss, '/' ∉ s.toList)
    (h : t.walk links cur ss = some q) : t.Real q := by
  induction links generalizing cur ss q with
  | zero => exact walkWith_real (fun _ _ _ _ _ h => by cases h) hcur hss h
  | succ links ih => exact walkWith_real (fun _ _ _ hc hs h => ih hc hs h) hcur hss h

/-- A path text in a directory is resolved to a real path. -/
theorem canonicalize_real {q : Path} {path : String} (hss : ∀ s ∈ ss, '/' ∉ s.toList)
    (h : t.canonicalize (ss ++ segments path) = some q) : t.Real q := by
  refine walk_real .root (fun s hs => ?_) h
  rcases mem_append.mp hs with hs | hs
  · exact hss s hs
  · exact slash_not_mem_of_mem_segments hs

private theorem walkWith_of_real {p rest : Path} (h : t.Real (p ++ rest)) (ss : List String) :
    t.walkWith follow p (rest ++ ss) = t.walkWith follow (p ++ rest) ss := by
  induction rest generalizing p with
  | nil => simp
  | cons s rest ih =>
    obtain ⟨hdir, hs, e, he, hl⟩ := h.at_name
    have hnext := ih (p := p ++ [s]) (by simpa using h)
    rw [append_cons p s rest, ← hnext, cons_append]
    cases e with
    | link target => exact absurd rfl (hl target)
    | dir | file => simp [walkWith, hdir, he, hs.not_noop, hs.not_parent]

private theorem walk_of_real {p rest : Path} (h : t.Real (p ++ rest)) (ss : List String) :
    t.walk links p (rest ++ ss) = t.walk links (p ++ rest) ss := by
  cases links with
  | zero | succ => exact walkWith_of_real h ss

/-- A real path is resolved to itself. -/
theorem canonicalize_of_real (h : t.Real p) : t.canonicalize ("" :: p) = some p := by
  have hwalk : t.canonicalize ("" :: p) = t.walk maxLinks [] (p ++ []) := by
    simp [canonicalize, maxLinks, walk, walkWith, t.root, isNoop]
  rw [hwalk, walk_of_real (p := []) h []]
  simp [maxLinks, walk, walkWith]

end FileTree

end DoraSpec.Base
