import AgentOps.Identity.Ids
import AgentOps.Lib.Fallible
import AgentOps.Lib.Table
import AgentOps.Lib.Text

namespace AgentOps.Changelog
open Lib Identity

/-! # The changelog, and its synchronization with GitHub -/

inductive ChangelogActivityKind where
  | repository
  | branch
  | commit
  | pull_request
  deriving DecidableEq

structure ActivityRow where
  kind : ChangelogActivityKind
  platform_id : String
  repo_name : String
  branch_name : Option String
  author : String
  occurred_at : Time
  deriving DecidableEq

/-- `UNIQUE (kind, platform_id)` -/
def ActivityRow.key (row : ActivityRow) : ChangelogActivityKind × String := (row.kind, row.platform_id)

abbrev ChangelogDb := Table ActivityRow.key

def ActivityRow.isCommit (row : ActivityRow) (repoName branchName : String) : Bool :=
  row.kind = .commit && row.repo_name = repoName && row.branch_name = some branchName

def getLatestCommitTimestamp (db : ChangelogDb) (repoName branchName : String) : Option Time :=
  ((db.rows.filter fun row => row.isCommit repoName branchName).map ActivityRow.occurred_at).max?

def listBranchNames (db : ChangelogDb) (repoName : String) : List String :=
  (db.rows.filter fun row => row.kind = .branch && row.repo_name = repoName).filterMap ActivityRow.branch_name

def deleteStaleBranches (db : ChangelogDb) (repoName : String) (liveBranchNames : List String) : ChangelogDb where
  rows := db.rows.filter fun row =>
    !(row.kind = .branch && row.repo_name = repoName && liveBranchNames.all fun name => row.branch_name.any (· ≠ name))
  distinct := (List.filter_sublist.map ActivityRow.key).nodup db.distinct

structure CommitListFilters where
  repo : Option String
  branch : Option String
  author : Option String
  since : Option Time
  until_ : Option Time
  limit : Nat

def CommitListFilters.admits (filters : CommitListFilters) (row : ActivityRow) : Bool :=
  row.kind = .commit && filters.repo.all (row.repo_name = ·) && filters.branch.all (row.branch_name = some ·) &&
    filters.author.all (fun author => containsText (lower row.author) (lower author)) &&
    filters.since.all (· ≤ row.occurred_at) && filters.until_.all (row.occurred_at ≤ ·)

def getCommits (db : ChangelogDb) (filters : CommitListFilters) : List ActivityRow :=
  ((db.rows.filter filters.admits).mergeSort fun row other => other.occurred_at ≤ row.occurred_at).take filters.limit

structure GithubRepo where
  id : String
  name : String
  owner : String
  created_at : Time

structure GithubCommit where
  sha : String
  author : String
  /-- `commit.author.date` -/
  authored_at : Time
  committed_at : Time
  deriving DecidableEq

structure GithubBranch where
  name : String
  history : List GithubCommit

structure GithubPullRequest where
  id : String
  head_ref : String
  author : String
  created_at : Time

/-- GitHub's answer to a commit listing, which is not part of the repository -/
structure GithubApi where
  listCommits : GithubBranch → Option Time → List GithubCommit
  /-- Whether commits of the very time of `since` are listed -/
  inclusive : Bool

structure GithubApi.Documented (api : GithubApi) : Prop where
  reachable : ∀ branch since, ∀ commit ∈ api.listCommits branch since, commit ∈ branch.history
  whole : ∀ branch, ∀ commit ∈ branch.history, commit ∈ api.listCommits branch none
  later : ∀ branch since, ∀ commit ∈ branch.history, since < commit.committed_at → commit ∈ api.listCommits branch (some since)
  inclusive : api.inclusive = true → ∀ branch, ∀ commit ∈ branch.history,
    commit ∈ api.listCommits branch (some commit.committed_at)

structure Repository where
  name : String
  branches : List GithubBranch
  pullRequests : List GithubPullRequest
  distinct : (branches.map GithubBranch.name).Nodup

abbrev Sync := Fallible ChangelogDb

def request {α : Type} (answer : α) : Sync α := Fallible.query fun _ => answer

def upsertActivity (row : ActivityRow) : Sync Unit := Fallible.write fun db => db.upsert row

def fetchCommits (api : GithubApi) (repo : Repository) (branchName : String) (since : Option Time) :
    Sync (List GithubCommit) :=
  match repo.branches.find? fun branch => branch.name = branchName with
  | none => Fallible.throw
  | some branch => request (api.listCommits branch since)

def syncRepositories (repos : List GithubRepo) : Sync Unit := do
  let repos ← request repos
  repos.forM fun repo => upsertActivity ⟨.repository, repo.id, repo.name, none, repo.owner, repo.created_at⟩

def syncBranches (repo : Repository) (now : Time) : Sync Unit := do
  let branches ← request repo.branches
  branches.forM fun branch =>
    upsertActivity ⟨.branch, repo.name ++ ":" ++ branch.name, repo.name, some branch.name, "branch", now⟩
  Fallible.write fun db => deleteStaleBranches db repo.name (branches.map GithubBranch.name)

abbrev RowOrder := (names : List String) → { order : List String // order.Perm names }

def syncBranchCommits (api : GithubApi) (repo : Repository) (branchName : String) : Sync Unit := do
  let since ← Fallible.query fun db => getLatestCommitTimestamp db repo.name branchName
  let commits ← fetchCommits api repo branchName since
  commits.forM fun commit =>
    upsertActivity ⟨.commit, commit.sha, repo.name, some branchName, commit.author, commit.authored_at⟩

def syncCommits (api : GithubApi) (repo : Repository) (order : RowOrder) : Sync Unit := do
  let branchNames ← Fallible.query fun db => listBranchNames db repo.name
  (order branchNames).val.forM (syncBranchCommits api repo)

def syncPullRequests (repo : Repository) : Sync Unit := do
  let pullRequests ← request repo.pullRequests
  pullRequests.forM fun pr =>
    upsertActivity ⟨.pull_request, pr.id, repo.name, some pr.head_ref, pr.author, pr.created_at⟩

def refreshMetrics : Sync Unit := do
  [(), (), (), ()].forM request

def syncRepositoryData (api : GithubApi) (repo : Repository) (now : Time) (order : RowOrder) : Sync Unit := do
  syncBranches repo now
  syncCommits api repo order
  syncPullRequests repo

structure RepoSync where
  repo : Repository
  now : Time
  order : RowOrder
  succeeding : Nat

def RepoSync.run (api : GithubApi) (entry : RepoSync) : Sync Unit := do
  syncRepositoryData api entry.repo entry.now entry.order
  refreshMetrics

structure ChangelogSync where
  repos : List GithubRepo
  succeeding : Nat
  entries : List RepoSync

def syncEntries (api : GithubApi) (db : ChangelogDb) : List RepoSync → ChangelogDb × List String
  | [] => (db, [])
  | entry :: entries =>
    match entry.run api db entry.succeeding with
    | (db', some _) => syncEntries api db' entries
    | (db', none) => ((syncEntries api db' entries).1, entry.repo.name :: (syncEntries api db' entries).2)

def fullSync (api : GithubApi) (db : ChangelogDb) (sync : ChangelogSync) : ChangelogDb × Option (List String) :=
  match syncRepositories sync.repos db sync.succeeding with
  | (db', none) => (db', none)
  | (db', some _) => ((syncEntries api db' sync.entries).1, some (syncEntries api db' sync.entries).2)

/-- The advisory lock lets one sync go at a time. -/
def changelogStep (api : GithubApi) (db : ChangelogDb) (sync : ChangelogSync) : Option ChangelogDb :=
  some (fullSync api db sync).1

end AgentOps.Changelog
