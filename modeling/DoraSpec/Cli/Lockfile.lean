import DoraSpec.Message.Descriptor

/-!
# Fingerprint of the git sources

Source `binaries/cli/src/command/build/lockfile.rs:57-84`: the text that is hashed for the lockfile. A
map is the list of its entries in key order.
-/

namespace DoraSpec.Cli.Lockfile
open Base.Text Message

/-- Kind and value of a revision, `lockfile.rs:73-78`. -/
def revision : Option GitRepoRev → String × String
  | some (.branch v) => ("branch", v)
  | some (.tag v) => ("tag", v)
  | some (.rev v) => ("rev", v)
  | none => ("head", "")

/-- The lines of the nodes, `lockfile.rs:65-83`. -/
def sourceLines : List (NodeId × NodeSource) → String
  | [] => ""
  | (_, .local) :: sources => sourceLines sources
  | (nodeId, .gitBranch repo rev) :: sources =>
    joinOnce '\n' nodeId.val <| joinOnce '\n' repo <|
      joinOnce '\n' (joinOnce ':' (revision rev).1 (revision rev).2) (sourceLines sources)

/-- The text before it is hashed, `fingerprint_descriptor_git_sources`. -/
def canonical (sources : List (NodeId × NodeSource)) : String :=
  joinOnce '\n' "dora-lockfile-v2" (sourceLines sources)

/-- A git source whose repository and revision have only the given characters. -/
def SpeltIn (alphabet : Char → Prop) : NodeId × NodeSource → Prop
  | (_, .local) => False
  | (nodeId, .gitBranch repo rev) =>
    nodeId.Valid ∧ (∀ c ∈ repo.toList, alphabet c) ∧ ∀ c ∈ (revision rev).2.toList, alphabet c

/-- A map of such sources. -/
structure Sources (alphabet : Char → Prop) (sources : List (NodeId × NodeSource)) : Prop where
  ordered : sources.Pairwise fun a b => a.1.val.toList < b.1.val.toList
  spelt : ∀ e ∈ sources, SpeltIn alphabet e

/-- Different maps have different texts. -/
def Distinguishes (alphabet : Char → Prop) : Prop :=
  ∀ a b, Sources alphabet a → Sources alphabet b → canonical a = canonical b → a = b

private theorem kind_notMem (rev : Option GitRepoRev) :
    ':' ∉ (revision rev).1.toList ∧ '\n' ∉ (revision rev).1.toList := by
  obtain _ | _ | _ | _ := rev <;> simp [revision]

private theorem kind_isNodeIdChar (rev : Option GitRepoRev) :
    (revision rev).1.toList ≠ [] ∧ ∀ c ∈ (revision rev).1.toList, isNodeIdChar c = true := by
  obtain _ | _ | _ | _ := rev <;> simp [revision] <;> decide

private theorem revision_inj {rev rev' : Option GitRepoRev} (h : revision rev = revision rev') :
    rev = rev' := by
  obtain _ | _ | _ | _ := rev <;> obtain _ | _ | _ | _ := rev' <;> simp_all [revision]

private theorem notMem_newline {id : NodeId} (h : id.Valid) : '\n' ∉ id.val.toList :=
  fun hmem => absurd (h.isNodeIdChar _ hmem) (by decide)

variable {alphabet : Char → Prop} {repo repo' tail tail' : String} {rev rev' : Option GitRepoRev}

/-- The lines of a repository, a revision and the nodes after it. -/
def nodeLines (repo : String) (rev : Option GitRepoRev) (tail : String) : String :=
  joinOnce '\n' repo <| joinOnce '\n' (joinOnce ':' (revision rev).1 (revision rev).2) tail

section Read
variable (hrepo : ∀ c ∈ repo.toList, alphabet c) (hrepo' : ∀ c ∈ repo'.toList, alphabet c)
  (hrev : ∀ c ∈ (revision rev).2.toList, alphabet c)
  (hrev' : ∀ c ∈ (revision rev').2.toList, alphabet c)
  (h : nodeLines repo rev tail = nodeLines repo' rev' tail')
include hrepo hrepo' hrev hrev' h

private theorem nodeLines_inj_of_line (hline : ¬ alphabet '\n') :
    repo = repo' ∧ rev = rev' ∧ tail = tail' := by
  have hlast {rev : Option GitRepoRev} (hrev : ∀ c ∈ (revision rev).2.toList, alphabet c) :
      '\n' ∉ (joinOnce ':' (revision rev).1 (revision rev).2).toList := by
    simp [toList_joinOnce, kind_notMem rev, mt (hrev _) hline]
  obtain ⟨hrepos, h⟩ := joinOnce_inj (mt (hrepo _) hline) (mt (hrepo' _) hline) h
  obtain ⟨hrevs, htails⟩ := joinOnce_inj (hlast hrev) (hlast hrev') h
  obtain ⟨hkind, hvalue⟩ := joinOnce_inj (kind_notMem rev).1 (kind_notMem rev').1 hrevs
  exact ⟨hrepos, revision_inj (Prod.ext hkind hvalue), htails⟩

private theorem nodeLines_inj_of_chars (hchars : ∀ c, alphabet c → ¬ isNodeIdChar c)
    (htail : ∀ c ∈ tail.toList.head?, isNodeIdChar c)
    (htail' : ∀ c ∈ tail'.toList.head?, isNodeIdChar c) :
    repo = repo' ∧ rev = rev' ∧ tail = tail' := by
  have hspelt {s : String} (hs : ∀ c ∈ s.toList, alphabet c) :
      ∀ c ∈ s.toList ++ ['\n'], (!isNodeIdChar c) = true := by
    simp only [List.mem_append, List.mem_singleton]
    rintro c (hc | rfl)
    · simp [hchars c (hs c hc)]
    · decide
  have hkind (rev : Option GitRepoRev) (back : List Char) :
      ∀ c ∈ ((revision rev).1.toList ++ back).head?, (!isNodeIdChar c) = false := by
    obtain ⟨hne, hall⟩ := kind_isNodeIdChar rev
    intro c hc
    rw [List.head?_append_of_ne_nil _ hne] at hc
    simp [hall c (List.mem_of_head? hc)]
  have hcolon (back : List Char) : ∀ c ∈ (':' :: back).head?, isNodeIdChar c = false := by
    rintro _ ⟨⟩
    decide
  have hvalue {rev : Option GitRepoRev} (hrev : ∀ c ∈ (revision rev).2.toList, alphabet c) :
      ∀ c ∈ ':' :: ((revision rev).2.toList ++ ['\n']), (!isNodeIdChar c) = true :=
    List.forall_mem_cons.mpr ⟨by decide, hspelt hrev⟩
  have hlist : (repo.toList ++ ['\n']) ++ ((revision rev).1.toList ++
        ((':' :: ((revision rev).2.toList ++ ['\n'])) ++ tail.toList)) =
      (repo'.toList ++ ['\n']) ++ ((revision rev').1.toList ++
        ((':' :: ((revision rev').2.toList ++ ['\n'])) ++ tail'.toList)) := by
    simpa [nodeLines, toList_joinOnce] using congrArg String.toList h
  obtain ⟨hrepos, hlist⟩ := append_inj_of_all (p := fun c => !isNodeIdChar c)
    (hspelt hrepo) (hspelt hrepo') (hkind rev _) (hkind rev' _) hlist
  obtain ⟨hkinds, hlist⟩ := append_inj_of_all (p := isNodeIdChar)
    (kind_isNodeIdChar rev).2 (kind_isNodeIdChar rev').2 (hcolon _) (hcolon _) hlist
  obtain ⟨hvalues, htails⟩ := append_inj_of_all (p := fun c => !isNodeIdChar c)
    (hvalue hrev) (hvalue hrev') (fun c hc => by simp [htail c hc])
    (fun c hc => by simp [htail' c hc]) hlist
  exact ⟨String.toList_inj.mp (List.append_cancel_right hrepos),
    revision_inj (Prod.ext (String.toList_inj.mp hkinds)
      (String.toList_inj.mp (List.append_cancel_right (List.cons.inj hvalues).2))),
    String.toList_inj.mp htails⟩

end Read

private theorem sourceLines_cons (id : NodeId) (repo : String) (rev : Option GitRepoRev)
    (sources : List (NodeId × NodeSource)) :
    sourceLines ((id, .gitBranch repo rev) :: sources) =
      joinOnce '\n' id.val (nodeLines repo rev (sourceLines sources)) := rfl

private theorem head?_sourceLines {sources : List (NodeId × NodeSource)}
    (h : ∀ e ∈ sources, SpeltIn alphabet e) :
    ∀ c ∈ (sourceLines sources).toList.head?, isNodeIdChar c := by
  obtain _ | ⟨⟨id, _ | ⟨repo, rev⟩⟩, sources⟩ := sources
  · nofun
  · exact (h _ List.mem_cons_self).elim
  · obtain ⟨hid, -⟩ := h _ List.mem_cons_self
    rw [sourceLines_cons, toList_joinOnce,
      List.head?_append_of_ne_nil _ (validateNodeId_eq_ok.mp hid).1]
    exact fun c hc => hid.isNodeIdChar c (List.mem_of_head? hc)

private theorem sourceLines_ne_empty {e : NodeId × NodeSource}
    {sources : List (NodeId × NodeSource)} (h : SpeltIn alphabet e) :
    sourceLines (e :: sources) ≠ "" := by
  obtain ⟨id, _ | ⟨repo, rev⟩⟩ := e
  · exact h.elim
  · intro heq
    simpa [sourceLines, toList_joinOnce] using congrArg String.toList heq

private theorem sourceLines_inj
    (hcond : ¬ alphabet '\n' ∨ ∀ c, alphabet c → ¬ isNodeIdChar c)
    {a b : List (NodeId × NodeSource)} (ha : ∀ e ∈ a, SpeltIn alphabet e)
    (hb : ∀ e ∈ b, SpeltIn alphabet e) (h : sourceLines a = sourceLines b) : a = b := by
  induction a generalizing b with
  | nil =>
    cases b with
    | nil => rfl
    | cons e b => exact absurd h.symm (sourceLines_ne_empty (hb e List.mem_cons_self))
  | cons e a ih =>
    obtain ⟨he, hrest⟩ := List.forall_mem_cons.mp ha
    obtain _ | ⟨e', b⟩ := b
    · exact absurd h (sourceLines_ne_empty he)
    · obtain ⟨he', hrest'⟩ := List.forall_mem_cons.mp hb
      obtain ⟨id, _ | ⟨repo, rev⟩⟩ := e
      · exact he.elim
      obtain ⟨id', _ | ⟨repo', rev'⟩⟩ := e'
      · exact he'.elim
      obtain ⟨hid, hrepo, hrev⟩ := he
      obtain ⟨hid', hrepo', hrev'⟩ := he'
      obtain ⟨hids, hlines⟩ := joinOnce_inj (notMem_newline hid) (notMem_newline hid') h
      obtain rfl : id = id' := congrArg NodeId.mk hids
      obtain ⟨rfl, rfl, htails⟩ := hcond.elim
        (nodeLines_inj_of_line hrepo hrepo' hrev hrev' hlines)
        fun hchars => nodeLines_inj_of_chars hrepo hrepo' hrev hrev' hlines hchars
          (head?_sourceLines hrest) (head?_sourceLines hrest')
      rw [ih hrest hrest' htails]

/-- A line feed can move the border between two nodes: the second node is `cc` or, if its name goes on
with the branch of the first one, `ccc`. -/
private theorem not_distinguishes {c : Char} (hline : alphabet '\n') (hc : alphabet c)
    (hid : isNodeIdChar c) : ¬ Distinguishes alphabet := by
  intro h
  let id (n : Nat) : NodeId := ⟨String.ofList (List.replicate n c)⟩
  have hvalid (n : Nat) : (id (n + 1)).Valid :=
    validateNodeId_eq_ok.mpr ⟨by simp [id], by simpa [id] using hid⟩
  have hlt (n : Nat) : (id 1).val.toList < (id (n + 2)).val.toList := by
    simp [id, List.replicate_succ]
  have hsame := h
    [(id 1, .gitBranch "" (some (.branch ""))),
      (id 2, .gitBranch (String.ofList [c, c, c, '\n']) none)]
    [(id 1, .gitBranch "" (some (.branch (String.ofList ['\n', c, c])))),
      (id 3, .gitBranch "" none)]
    ⟨by simpa using hlt _, by simp [SpeltIn, hvalid, revision, hline, hc]⟩
    ⟨by simpa using hlt _, by simp [SpeltIn, hvalid, revision, hline, hc]⟩
    (String.toList_inj.mp (by simp [canonical, sourceLines, toList_joinOnce, revision, id]))
  simp at hsame

/-- The texts of different maps differ exactly if the repositories and revisions have no line feeds, or
no characters of identifiers. -/
theorem canonical_distinguishes_iff (alphabet : Char → Prop) :
    Distinguishes alphabet ↔
      (¬ alphabet '\n' ∨ ∀ c, alphabet c → ¬ isNodeIdChar c) := by
  constructor
  · intro h
    by_contra! hcond
    obtain ⟨hline, c, hc, hid⟩ := hcond
    exact not_distinguishes hline hc hid h
  · intro hcond a b ha hb h
    exact sourceLines_inj hcond ha.spelt hb.spelt (joinOnce_inj (by decide) (by decide) h).2

/-- Another branch gives another text. -/
theorem movedBranch_distinguished :
    canonical [(⟨"a"⟩, .gitBranch "x" (some (.branch "main")))] ≠
      canonical [(⟨"a"⟩, .gitBranch "x" (some (.branch "next")))] := by
  have hspelt (branch : String) (h : '\n' ∉ branch.toList) :
      Sources (· ≠ '\n') [(⟨"a"⟩, .gitBranch "x" (some (.branch branch)))] :=
    ⟨List.pairwise_singleton .., by
      simpa [SpeltIn, revision] using ⟨by decide, fun c hc hnl => h (hnl ▸ hc)⟩⟩
  exact fun h => absurd ((canonical_distinguishes_iff (· ≠ '\n')).mpr (.inl (by simp)) _ _
    (hspelt "main" (by decide)) (hspelt "next" (by decide)) h) (by decide)

/-- A repository that continues with the lines of another node. -/
theorem twoLineRepo_not_distinguished : ¬ Distinguishes fun _ => True := by
  intro h
  have hsame : canonical [(⟨"a"⟩, .gitBranch "x\nhead:\nb\ny" none)] =
      canonical [(⟨"a"⟩, .gitBranch "x" none), (⟨"b"⟩, .gitBranch "y" none)] := by decide
  have heq := h _ _ ⟨List.pairwise_singleton .., by simp [SpeltIn]; decide⟩
    ⟨by simp; decide, by simp [SpeltIn]; decide⟩ hsame
  exact absurd heq (by decide)

end DoraSpec.Cli.Lockfile
