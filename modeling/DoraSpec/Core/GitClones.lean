import Mathlib.Data.Finset.Basic
import Mathlib.Data.List.Pairwise
import DoraSpec.Base.FileTree
import DoraSpec.Message.Id

/-!
# Clone directories of git nodes

Source `libraries/core/src/build/git.rs:12-151`, `binaries/daemon/src/lib.rs:2128-2200` and
`binaries/cli/src/command/build/local.rs:47-78`. Every commit of a repository has a directory of its
own. Before a build starts, each node gets a plan for its directory, which may rename the directory
of the commit that was built before. That commit is kept only if a node of the same build asks for
it; the table of directories in use by running dataflows is read, but nothing is ever put into it.
-/

namespace DoraSpec.Core.Git
open Base Message

/-! ## The git manager -/

/-- Parsed address of a repository, with names as the `url` crate leaves them. -/
structure Url where
  host : Option String
  pathSegments : Option (List String)
  host_isName : ∀ h ∈ host, PathText.IsName h
  segments_isName : ∀ ss ∈ pathSegments, ∀ s ∈ ss, s = "" ∨ PathText.IsName s

/-- Hash of a commit; `build/git.rs:33` of the command line tool. -/
structure CommitHash where
  val : String
  isName : PathText.IsName val
  deriving DecidableEq

/-- Repository and commit of a node; `common.rs:370-373`. -/
structure GitSource where
  repo : String
  commitHash : CommitHash
  deriving DecidableEq

/-- Commit of a node in the build before; `build/mod.rs:154-158`. -/
structure PrevGitSource where
  gitSource : GitSource
  stillNeededForThisBuild : Bool

/-- How a clone directory is prepared; `git.rs:255-277`. -/
inductive ReuseOptions where
  | newClone (targetDir : Path) (repo : String) (commitHash : CommitHash)
  | reuse (dir : Path)
  | copyAndFetch (source targetDir : Path) (commitHash : CommitHash)
  | renameAndFetch (source targetDir : Path) (commitHash : CommitHash)
  deriving DecidableEq

/-- Tables of the git manager; `git.rs:12-27`. -/
structure GitManager where
  clonesInUse : Path → List String := fun _ => []
  plannedCloneDirs : Nat → Finset Path := fun _ => ∅

/-- `clone_dir_path`, `git.rs:138-147`. Empty segments add nothing to a path. -/
def cloneDirPath (baseDir : Path) (url : Url) (commit : CommitHash) : Except String Path := do
  let some host := url.host | .error "git URL has no hostname"
  let some segments := url.pathSegments | .error "no path in git URL"
  return baseDir ++ host :: segments.filter (· ≠ "") ++ [commit.val]

namespace GitManager
variable (m : GitManager)

/-- `git.rs:114-119`. -/
def inUse (dir : Path) : Bool := m.clonesInUse dir ≠ []

/-- A directory that exists, or that the build will create, is taken to be ready; `git.rs:121-127`. -/
def cloneDirReady (present : Path → Bool) (session : Nat) (dir : Path) : Bool :=
  dir ∈ m.plannedCloneDirs session || present dir

/-- `register_ready_clone_dir`, `git.rs:129-135`. -/
def registerReadyCloneDir (session : Nat) (dir : Path) : GitManager :=
  { m with plannedCloneDirs :=
      Function.update m.plannedCloneDirs session (insert dir (m.plannedCloneDirs session)) }

/-- `git.rs:149-151`. -/
def clearPlannedBuilds (session : Nat) : GitManager :=
  { m with plannedCloneDirs := Function.update m.plannedCloneDirs session ∅ }

end GitManager

section Choose
variable (parse : String → Option Url)

/-- Directory of the commit of a node, and that of its commit in the build before if it is one of
the same repository; `git.rs:38-44, 65`. -/
def cloneDirs (source : GitSource) (prev : Option PrevGitSource) (targetDir : Path) :
    Except String (Path × Option Path) := do
  let some url := parse source.repo | .error "failed to parse git repository URL"
  let dir ← cloneDirPath targetDir url source.commitHash
  match prev.filter (·.gitSource.repo = source.repo) with
  | none => return (dir, none)
  | some prev => return (dir, some (← cloneDirPath targetDir url prev.gitSource.commitHash))

/-- `choose_clone_dir`, `git.rs:30-112`. Whether a directory is there is asked through `present`. -/
def GitManager.chooseCloneDir (m : GitManager) (present : Path → Bool) (session : Nat)
    (source : GitSource) (prev : Option PrevGitSource) (targetDir : Path) :
    Except String (ReuseOptions × GitManager) := do
  let (dir, prevDir) ← cloneDirs parse source prev targetDir
  if m.inUse dir then
    .error <| "the build directory is still in use by the following dataflows, please stop them " ++
      "before rebuilding: " ++ ", ".intercalate (m.clonesInUse dir)
  else
    let reuse : ReuseOptions :=
      if m.cloneDirReady present session dir then .reuse dir
      else match prevDir with
        | none => .newClone dir source.repo source.commitHash
        | some prevDir =>
          if present prevDir then
            if (prev.any (·.stillNeededForThisBuild)) || m.inUse prevDir then
              .copyAndFetch prevDir dir source.commitHash
            else .renameAndFetch prevDir dir source.commitHash
          else .newClone dir source.repo source.commitHash
    return (reuse, m.registerReadyCloneDir session dir)

/-! ## The plans of a build -/

/-- Node of a build with the directory for its clones and what is on the disk when its plan is
made. -/
structure BuildNode where
  id : NodeId
  targetDir : Path
  present : Path → Bool

/-- Commits of the nodes, now and in the build before. -/
structure Sources where
  gitSources : List (NodeId × GitSource)
  prevGitSources : List (NodeId × GitSource)

/-- The commit of the node before, and whether some node asks for it; `lib.rs:2158-2162` of the
daemon. -/
def Sources.prevGit (sources : Sources) (id : NodeId) : Option PrevGitSource :=
  (sources.prevGitSources.lookup id).map fun prev =>
    { gitSource := prev, stillNeededForThisBuild := sources.gitSources.any (·.2 = prev) }

/-- The loop over the nodes of a build; `lib.rs:2151-2200` of the daemon. -/
def planNodes (sources : Sources) (session : Nat) :
    GitManager → List BuildNode → Except String (List ReuseOptions)
  | _, [] => .ok []
  | m, node :: nodes =>
    match sources.gitSources.lookup node.id with
    | none => planNodes sources session m nodes
    | some source => do
      let (plan, m) ← m.chooseCloneDir parse node.present session source (sources.prevGit node.id)
        node.targetDir
      return plan :: (← planNodes sources session m nodes)

/-- Plans of a build, for which the directories of earlier builds are forgotten; `build_dataflow`,
`lib.rs:2128-2221` of the daemon. -/
def planBuild (sources : Sources) (session : Nat) (m : GitManager) (nodes : List BuildNode) :
    Except String (List ReuseOptions) :=
  planNodes parse sources session (m.clearPlannedBuilds session) nodes

end Choose

/-! ## Compatible plans -/

namespace ReuseOptions

/-- Directory that the plan renames away. -/
def renamedDir : ReuseOptions → Option Path
  | .renameAndFetch source .. => some source
  | _ => none

/-- Directories that the plan copies from, renames, reuses or creates. -/
def dirs : ReuseOptions → List Path
  | .newClone target .. => [target]
  | .reuse dir => [dir]
  | .copyAndFetch source target _ => [source, target]
  | .renameAndFetch source target _ => [source, target]

end ReuseOptions

/-- A plan does not rename a directory that another one needs. -/
def Spares (plan other : ReuseOptions) : Prop := ∀ dir ∈ plan.renamedDir, dir ∉ other.dirs

/-- No directory is renamed away that another plan or a running dataflow needs. -/
structure Compatible (running : Path → Prop) (plans : List ReuseOptions) : Prop where
  apart : plans.Pairwise fun plan other => Spares plan other ∧ Spares other plan
  unused : ∀ plan ∈ plans, ∀ dir ∈ plan.renamedDir, ¬ running dir

/-- What the plan of a node depends on. -/
structure Request where
  /-- Directory of the commit. -/
  dir : Path
  /-- It is neither there nor that of an earlier node. -/
  fresh : Bool
  /-- Directory of the commit before, if it is there. -/
  prevDir : Option Path
  /-- A node asks for the commit before, or the table of the git manager lists its directory. -/
  kept : Bool

variable {source : GitSource}

namespace Request

/-- The node has its directory to itself and takes it from one that nobody asks for. -/
def Moves (r : Request) (dir : Path) : Prop :=
  r.fresh = true ∧ r.prevDir = some dir ∧ r.kept = false

/-- The directory is not that of the node and not one that the node starts from. -/
def Leaves (r : Request) (dir : Path) : Prop := r.dir ≠ dir ∧ (r.fresh = true → r.prevDir ≠ some dir)

/-- The plan of the request. -/
def plan (r : Request) (source : GitSource) : ReuseOptions :=
  if r.fresh then
    match r.prevDir with
    | none => .newClone r.dir source.repo source.commitHash
    | some prevDir =>
      if r.kept then .copyAndFetch prevDir r.dir source.commitHash
      else .renameAndFetch prevDir r.dir source.commitHash
  else .reuse r.dir

private theorem mem_renamedDir_plan {r : Request} {dir : Path} :
    dir ∈ (r.plan source).renamedDir ↔ r.Moves dir := by
  cases hf : r.fresh <;> cases hp : r.prevDir <;> cases hk : r.kept <;>
    simp [plan, Moves, ReuseOptions.renamedDir, hf, hp, hk]

private theorem not_mem_dirs_plan {r : Request} {dir : Path} :
    dir ∉ (r.plan source).dirs ↔ r.Leaves dir := by
  cases hf : r.fresh <;> cases hp : r.prevDir <;> cases hk : r.kept <;>
    simp [plan, Leaves, ReuseOptions.dirs, hf, hp, hk, eq_comm, and_comm]

end Request

section Requests
variable (parse : String → Option Url) (sources : Sources) (inUse : Path → Bool)

/-- The request of a node, with the directories of the nodes before it. -/
def requestOf (earlier : Finset Path) (node : BuildNode) (source : GitSource) :
    Except String Request := do
  let prev := sources.prevGit node.id
  let (dir, prevDir) ← cloneDirs parse source prev node.targetDir
  return {
    dir
    fresh := !(dir ∈ earlier || node.present dir)
    prevDir := prevDir.filter node.present
    kept := prev.any (·.stillNeededForThisBuild) || prevDir.any inUse }

/-- The requests of the nodes of a build that have a git source. -/
def requests : Finset Path → List BuildNode → Except String (List Request)
  | _, [] => .ok []
  | earlier, node :: nodes =>
    match sources.gitSources.lookup node.id with
    | none => requests earlier nodes
    | some source => do
      let r ← requestOf parse sources inUse earlier node source
      return r :: (← requests (insert r.dir earlier) nodes)

/-- A directory that a node takes is not that of another node, not one from which another node
starts, and not in use. -/
structure Undisputed (running : Path → Prop) (rs : List Request) : Prop where
  apart : rs.Pairwise fun r other =>
    (∀ dir, r.Moves dir → other.Leaves dir) ∧ ∀ dir, other.Moves dir → r.Leaves dir
  unused : ∀ r ∈ rs, ∀ dir, r.Moves dir → ¬ running dir

variable {parse sources inUse}

private theorem spares_plan {r other : Request} {source source' : GitSource} :
    Spares (r.plan source) (other.plan source') ↔ ∀ dir, r.Moves dir → other.Leaves dir := by
  simp only [Spares, Request.mem_renamedDir_plan, Request.not_mem_dirs_plan]

private theorem compatible_plans {running : Path → Prop} {rs : List (Request × GitSource)} :
    Compatible running (rs.map fun r => r.1.plan r.2) ↔ Undisputed running (rs.map Prod.fst) := by
  constructor
  all_goals
    rintro ⟨hapart, hunused⟩
    refine ⟨?_, ?_⟩
    · rw [List.pairwise_map] at hapart ⊢
      simpa only [spares_plan] using hapart
    · rw [List.forall_mem_map] at hunused ⊢
      simpa only [Request.mem_renamedDir_plan] using hunused

private theorem chooseCloneDir_eq_ok {m m' : GitManager} {session : Nat} {node : BuildNode}
    {plan : ReuseOptions}
    (h : m.chooseCloneDir parse node.present session source (sources.prevGit node.id)
      node.targetDir = .ok (plan, m')) :
    ∃ r, requestOf parse sources m.inUse (m.plannedCloneDirs session) node source = .ok r ∧
      plan = r.plan source ∧ m' = m.registerReadyCloneDir session r.dir := by
  rw [GitManager.chooseCloneDir] at h
  rw [requestOf]
  cases hdirs : cloneDirs parse source (sources.prevGit node.id) node.targetDir with
  | error e => simp [hdirs, bind, Except.bind] at h
  | ok dirs =>
    obtain ⟨dir, prevDir⟩ := dirs
    simp only [hdirs, bind, Except.bind, pure, Except.pure] at h ⊢
    split at h
    · simp at h
    · obtain ⟨rfl, rfl⟩ := Prod.mk.inj (Except.ok.inj h)
      refine ⟨_, rfl, ?_, rfl⟩
      have hfresh : (!(decide (dir ∈ m.plannedCloneDirs session) || node.present dir)) =
          !m.cloneDirReady node.present session dir := rfl
      simp only [Request.plan, hfresh]
      cases hready : m.cloneDirReady node.present session dir with
      | true => rfl
      | false =>
        cases prevDir with
        | none => rfl
        | some prevDir => cases hp : node.present prevDir <;> simp [Option.filter_some, hp]

private theorem planNodes_eq_ok {m : GitManager} {session : Nat} {nodes : List BuildNode}
    {plans : List ReuseOptions} (h : planNodes parse sources session m nodes = .ok plans) :
    ∃ rs : List (Request × GitSource),
      requests parse sources m.inUse (m.plannedCloneDirs session) nodes =
        .ok (rs.map Prod.fst) ∧ plans = rs.map fun r => r.1.plan r.2 := by
  induction nodes generalizing m plans with
  | nil => exact ⟨[], rfl, by simpa [planNodes] using h.symm⟩
  | cons node nodes ih =>
    rw [planNodes] at h
    rw [requests]
    cases hs : sources.gitSources.lookup node.id with
    | none =>
      simp only [hs] at h
      exact ih h
    | some source =>
      simp only [hs] at h
      obtain ⟨⟨plan, m'⟩, hchoose, h⟩ := except_bind_eq_ok.mp h
      obtain ⟨plans, hplans, h⟩ := except_bind_eq_ok.mp h
      obtain ⟨r, hr, rfl, rfl⟩ := chooseCloneDir_eq_ok hchoose
      obtain ⟨rs, hrs, rfl⟩ := ih hplans
      refine ⟨(r, source) :: rs, ?_, ?_⟩
      · have hplanned : (m.registerReadyCloneDir session r.dir).plannedCloneDirs session =
            insert r.dir (m.plannedCloneDirs session) := by
          simp [GitManager.registerReadyCloneDir]
        rw [hplanned] at hrs
        change (do
          let r ← requestOf parse sources m.inUse (m.plannedCloneDirs session) node source
          return r :: (← requests parse sources m.inUse (insert r.dir _) nodes)) = _
        rw [hr]
        change (do
          let rest ← requests parse sources m.inUse (insert r.dir _) nodes
          return r :: rest) = _
        change requests parse sources m.inUse _ _ = _ at hrs
        rw [hrs]
        rfl
      · exact (Except.ok.inj h).symm

/-- The plans of a build are compatible if and only if nobody else needs the directories that the
nodes take. -/
theorem planBuild_compatible_iff (parse : String → Option Url) (sources : Sources) (session : Nat)
    (m : GitManager) (nodes : List BuildNode) (running : Path → Prop) {plans : List ReuseOptions}
    (h : planBuild parse sources session m nodes = .ok plans) :
    Compatible running plans ↔
      ∃ rs, requests parse sources m.inUse ∅ nodes = .ok rs ∧ Undisputed running rs := by
  obtain ⟨rs, hrs, rfl⟩ := planNodes_eq_ok h
  have hplanned : (m.clearPlannedBuilds session).plannedCloneDirs session = ∅ := by
    simp [GitManager.clearPlannedBuilds]
  rw [hplanned] at hrs
  change requests parse sources m.inUse _ _ = _ at hrs
  simp [hrs, compatible_plans]

end Requests

/-! ## Samples -/

/-- The repository of the samples. -/
def sampleUrl : Url where
  host := some "localhost"
  pathSegments := some ["robot"]
  host_isName := by
    rintro _ ⟨⟩
    exact ⟨by decide, by decide, by decide⟩
  segments_isName := by
    rintro _ ⟨⟩ s hs
    obtain rfl := List.mem_singleton.mp hs
    exact .inr ⟨by decide, by decide, by decide⟩

/-- The address of the repository. -/
def sampleRepo : String := "https://localhost/robot"

/-- Hashes of three commits. -/
def commitA : CommitHash := ⟨"a1", ⟨by decide, by decide, by decide⟩⟩
@[inherit_doc commitA] def commitB : CommitHash := ⟨"b2", ⟨by decide, by decide, by decide⟩⟩
@[inherit_doc commitA] def commitC : CommitHash := ⟨"c3", ⟨by decide, by decide, by decide⟩⟩

/-- Two nodes that were built from one commit. -/
def twoNodes (left right : CommitHash) : Sources where
  gitSources := [(⟨"left"⟩, ⟨sampleRepo, left⟩), (⟨"right"⟩, ⟨sampleRepo, right⟩)]
  prevGitSources := [(⟨"left"⟩, ⟨sampleRepo, commitA⟩), (⟨"right"⟩, ⟨sampleRepo, commitA⟩)]

/-- Directory of a commit. -/
def sampleDir (commit : CommitHash) : Path := ["git", "localhost", "robot", commit.val]

/-- The directory of the commit before is there. -/
def twoBuildNodes : List BuildNode :=
  [⟨"left"⟩, ⟨"right"⟩].map fun id => ⟨id, ["git"], fun dir => dir = sampleDir commitA⟩

private theorem requests_twoBuildNodes :
    requests (fun _ => some sampleUrl) (twoNodes commitB commitB) (GitManager.inUse {}) ∅
      twoBuildNodes = .ok [⟨sampleDir commitB, true, some (sampleDir commitA), false⟩,
        ⟨sampleDir commitB, false, some (sampleDir commitA), false⟩] := rfl

/-- Nodes that go on to one commit take the directory only once. -/
theorem sameCommit_compatible :
    ∃ plans, planBuild (fun _ => some sampleUrl) (twoNodes commitB commitB) 0 {} twoBuildNodes =
      .ok plans ∧ Compatible (fun _ => False) plans := by
  refine ⟨_, rfl, (planBuild_compatible_iff (fun _ => some sampleUrl) (twoNodes commitB commitB) 0 {}
    twoBuildNodes _ rfl).mpr ⟨_, requests_twoBuildNodes, ?_, ?_⟩⟩
  · simp [Request.Moves, Request.Leaves, sampleDir, commitA, commitB]
  · simp

private theorem plans_twoCommits :
    planBuild (fun _ => some sampleUrl) (twoNodes commitB commitC) 0 {} twoBuildNodes =
      .ok [.renameAndFetch (sampleDir commitA) (sampleDir commitB) commitB,
        .renameAndFetch (sampleDir commitA) (sampleDir commitC) commitC] := rfl

private theorem plans_oneCommit :
    planBuild (fun _ => some sampleUrl) (twoNodes commitB commitB) 0 {} twoBuildNodes =
      .ok [.renameAndFetch (sampleDir commitA) (sampleDir commitB) commitB,
        .reuse (sampleDir commitB)] := rfl

/-- Nodes that go on to different commits both rename the directory of the commit before, and a
dataflow that runs in it does not keep it from being renamed. -/
theorem planBuild_not_compatible :
    (∃ plans, planBuild (fun _ => some sampleUrl) (twoNodes commitB commitC) 0 {} twoBuildNodes =
      .ok plans ∧ ¬ Compatible (fun _ => False) plans) ∧
    ∃ plans, planBuild (fun _ => some sampleUrl) (twoNodes commitB commitB) 0 {} twoBuildNodes =
      .ok plans ∧ ¬ Compatible (· = sampleDir commitA) plans := by
  refine ⟨⟨_, plans_twoCommits, fun h => ?_⟩, _, plans_oneCommit, fun h => ?_⟩
  · obtain ⟨hspares, -⟩ := List.rel_of_pairwise_cons h.apart List.mem_cons_self
    exact hspares _ rfl List.mem_cons_self
  · exact h.unused _ List.mem_cons_self _ rfl rfl

end DoraSpec.Core.Git
