import AgentOps.Changelog.Sync
import AgentOps.Lib.Transition

namespace AgentOps.Changelog
open Lib Identity

/-! # What a sync stores -/

def Stored (db : ChangelogDb) (commit : GithubCommit) : Prop := ∃ row ∈ db, row.key = (.commit, commit.sha)

def Listed (db : ChangelogDb) (repoName branchName : String) (commit : GithubCommit) : Prop :=
  ∀ limit, db.rows.length ≤ limit →
    ∃ row ∈ getCommits db ⟨some repoName, some branchName, none, none, none, limit⟩, row.platform_id = commit.sha

/-- Every commit that can be reached from a branch is stored and listed. -/
def Covered (db : ChangelogDb) (repo : Repository) : Prop :=
  ∀ branch ∈ repo.branches, ∀ commit ∈ branch.history, Stored db commit ∧ Listed db repo.name branch.name commit

def StoredFor (db : ChangelogDb) (repoName branchName : String) (commit : GithubCommit) : Prop :=
  ∃ row ∈ db, row.key = (.commit, commit.sha) ∧ row.isCommit repoName branchName = true

def Recent (api : GithubApi) (db : ChangelogDb) (repoName branchName : String) (commit : GithubCommit) : Prop :=
  ∀ row ∈ db, row.isCommit repoName branchName = true →
    row.occurred_at < commit.committed_at ∨ api.inclusive = true ∧ row.occurred_at = commit.committed_at

def Ready (api : GithubApi) (repo : Repository) (branch : GithubBranch) (db : ChangelogDb) : Prop :=
  ∀ commit ∈ branch.history, StoredFor db repo.name branch.name commit ∨ Recent api db repo.name branch.name commit

def Reaches (repos : List Repository) (repoName branchName : String) (commit : GithubCommit) : Prop :=
  ∃ repo ∈ repos, repo.name = repoName ∧ ∃ branch ∈ repo.branches, branch.name = branchName ∧ commit ∈ branch.history

def Unshared (repos : List Repository) : Prop :=
  ∀ repoName branchName commit repoName' branchName' commit', Reaches repos repoName branchName commit →
    Reaches repos repoName' branchName' commit' → commit.sha = commit'.sha → repoName = repoName' ∧ branchName = branchName'

/-- No two branches share a commit, and no branch has got a commit that is older than one stored for it. -/
structure Steady (api : GithubApi) (db : ChangelogDb) (sync : ChangelogSync) : Prop where
  repos : (sync.entries.map fun entry => entry.repo.name).Nodup
  unshared : Unshared (sync.entries.map RepoSync.repo)
  ready : ∀ entry ∈ sync.entries, ∀ branch ∈ entry.repo.branches, Ready api entry.repo branch db

variable {api : GithubApi} {db : ChangelogDb} {row : ActivityRow} {commit : GithubCommit} {repoName branchName : String}
  {repo : Repository}
  {branch : GithubBranch}

theorem StoredFor.upsert (stored : StoredFor db repoName branchName commit)
    (new : row.key = (.commit, commit.sha) → row.isCommit repoName branchName = true) :
    StoredFor (db.upsert row) repoName branchName commit := by
  obtain ⟨old, member, same, under⟩ := stored
  by_cases replaced : old.key = row.key
  · have key := replaced.symm.trans same
    exact ⟨row, Table.mem_upsert.mpr (.inl rfl), key, new key⟩
  · exact ⟨old, Table.mem_upsert.mpr (.inr ⟨member, replaced⟩), same, under⟩

theorem StoredFor.upsertOther (stored : StoredFor db repoName branchName commit) (other : row.kind ≠ .commit) :
    StoredFor (db.upsert row) repoName branchName commit :=
  stored.upsert fun same => absurd (congrArg Prod.fst same) other

theorem mem_deleteStaleBranches {names : List String} (listed : row ∈ deleteStaleBranches db repoName names) : row ∈ db :=
  List.mem_of_mem_filter listed

theorem deleteStaleBranches_keeps {names : List String} (member : row ∈ db)
    (kept : row.kind = .branch → ∃ name ∈ names, row.branch_name = some name) :
    row ∈ deleteStaleBranches db repoName names := by
  refine List.mem_filter.mpr ⟨member, ?_⟩
  by_cases branch : row.kind = .branch
  · obtain ⟨name, live, same⟩ := kept branch
    have found : (names.all fun name => row.branch_name.any (· ≠ name)) = false :=
      List.all_eq_false.mpr ⟨name, live, by simp [same]⟩
    simp only [found, Bool.and_false, Bool.not_false]
  · simp [branch]

theorem StoredFor.deleteStale {names : List String} {other : String} (stored : StoredFor db repoName branchName commit) :
    StoredFor (deleteStaleBranches db other names) repoName branchName commit := by
  obtain ⟨old, member, same, under⟩ := stored
  refine ⟨old, deleteStaleBranches_keeps member fun branch => ?_, same, under⟩
  have kind := congrArg Prod.fst same
  rw [ActivityRow.key, branch] at kind
  cases kind

theorem StoredFor.stored (stored : StoredFor db repoName branchName commit) : Stored db commit := by
  obtain ⟨row, member, same, -⟩ := stored
  exact ⟨row, member, same⟩

theorem StoredFor.listed (stored : StoredFor db repoName branchName commit) : Listed db repoName branchName commit := by
  intro limit enough
  obtain ⟨row, member, same, under⟩ := stored
  refine ⟨row, ?_, congrArg Prod.snd same⟩
  unfold getCommits
  rw [List.take_of_length_le]
  · simp only [ActivityRow.isCommit, Bool.and_eq_true, decide_eq_true_eq] at under
    refine List.mem_mergeSort.mpr (List.mem_filter.mpr ⟨member, ?_⟩)
    simp [CommitListFilters.admits, under.1.1, under.1.2, under.2]
  · rw [List.length_mergeSort]
    exact (List.length_filter_le _ _).trans enough

theorem Recent.upsert (recent : Recent api db repoName branchName commit) (new : row.isCommit repoName branchName = false) :
    Recent api (db.upsert row) repoName branchName commit := by
  intro other listed under
  rcases Table.mem_upsert.mp listed with rfl | ⟨old, -⟩
  · rw [new] at under
    cases under
  · exact recent other old under

theorem isCommit_kind (other : row.kind ≠ .commit) : row.isCommit repoName branchName = false := by
  simp [ActivityRow.isCommit, other]

theorem Ready.upsertOther (ready : Ready api repo branch db) (other : row.kind ≠ .commit) :
    Ready api repo branch (db.upsert row) :=
  fun commit reached => (ready commit reached).imp (·.upsertOther other) (·.upsert (isCommit_kind other))

theorem Ready.deleteStale {names : List String} (ready : Ready api repo branch db) :
    Ready api repo branch (deleteStaleBranches db repoName names) :=
  fun commit reached => (ready commit reached).imp .deleteStale fun recent row listed => recent row (mem_deleteStaleBranches listed)

open Fallible

def commitRow (repoName branchName : String) (commit : GithubCommit) : ActivityRow :=
  ⟨.commit, commit.sha, repoName, some branchName, commit.author, commit.authored_at⟩

theorem commitRow_isCommit {other branch : String} :
    (commitRow repoName branchName commit).isCommit other branch = true ↔ repoName = other ∧ branchName = branch := by
  simp only [commitRow, ActivityRow.isCommit, decide_true, Bool.true_and, Bool.and_eq_true, Option.some.injEq, decide_eq_true_iff]
  exact Iff.and decide_eq_true_iff Iff.rfl

def Window (api : GithubApi) (repo : Repository) (branchName : String) (since : Option Time)
    (listed : List GithubCommit) : Prop :=
  ∃ branch ∈ repo.branches, branch.name = branchName ∧ listed = api.listCommits branch since

theorem fetchCommits_window {p : ChangelogDb → Prop} {since : Option Time} :
    Triple p (fetchCommits api repo branchName since) (fun listed db => p db ∧ Window api repo branchName since listed) p := by
  unfold fetchCommits
  split
  · exact .throw fun _ => id
  · rename_i branch search
    exact .query (fun _ holds => ⟨holds, branch, List.mem_of_find?_eq_some search, by simpa using List.find?_some search, rfl⟩)
      fun _ => id

section Keeps

variable {p : ChangelogDb → Prop} {now : Time}

theorem syncBranchCommits_keeps (documented : api.Documented)
    (commits : ∀ branch ∈ repo.branches, ∀ commit ∈ branch.history, ∀ db, p db →
    p (db.upsert (commitRow repo.name branch.name commit))) : Keeps p (syncBranchCommits api repo branchName) := by
  refine .bind .query fun since => Triple.bind fetchCommits_window fun listed => ?_
  rintro db left ⟨holds, branch, member, rfl, rfl⟩
  refine Keeps.forM (fun commit fetched => ?_) db left holds
  exact .write fun db before => commits branch member commit (documented.reachable branch since commit fetched) db before

theorem syncBranches_keeps (other : ∀ db row, row.kind ≠ .commit → p db → p (db.upsert row))
    (stale : ∀ db names, p db → p (deleteStaleBranches db repo.name names)) : Keeps p (syncBranches repo now) := by
  refine .bind .query fun branches => .bind (.forM fun branch _ => ?_) fun _ => .write fun db => stale db _
  exact .write fun db => other db _ nofun

theorem syncPullRequests_keeps (other : ∀ db row, row.kind ≠ .commit → p db → p (db.upsert row)) :
    Keeps p (syncPullRequests repo) :=
  .bind .query fun _ => .forM fun _ _ => .write fun db => other db _ nofun

theorem refreshMetrics_keeps : Keeps p refreshMetrics := .forM fun _ _ => .query

theorem RepoSync.keeps (documented : api.Documented) (entry : RepoSync)
    (other : ∀ db row, row.kind ≠ .commit → p db → p (db.upsert row))
    (stale : ∀ db names, p db → p (deleteStaleBranches db entry.repo.name names))
    (commits : ∀ branch ∈ entry.repo.branches, ∀ commit ∈ branch.history, ∀ db, p db →
      p (db.upsert (commitRow entry.repo.name branch.name commit))) : Keeps p (entry.run api) := by
  refine .bind (.bind (syncBranches_keeps other stale) fun _ => .bind ?_ fun _ => syncPullRequests_keeps other)
    fun _ => refreshMetrics_keeps
  exact .bind .query fun _ => .forM fun _ _ => syncBranchCommits_keeps documented commits

end Keeps

section

variable {repos : List Repository} {now : Time}

theorem reaches (present : repo ∈ repos) (member : branch ∈ repo.branches) (listed : commit ∈ branch.history) :
    Reaches repos repo.name branch.name commit := ⟨repo, present, rfl, branch, member, rfl, listed⟩

theorem StoredFor.upsertCommit {repoName' branchName' : String} {commit' : GithubCommit} (unshared : Unshared repos)
    (reached : Reaches repos repoName branchName commit) (reached' : Reaches repos repoName' branchName' commit')
    (stored : StoredFor db repoName branchName commit) :
    StoredFor (db.upsert (commitRow repoName' branchName' commit')) repoName branchName commit := by
  refine stored.upsert fun same => commitRow_isCommit.mpr ?_
  exact unshared _ _ _ _ _ _ reached' reached (congrArg Prod.snd same)

theorem RepoSync.stored {entry : RepoSync} (documented : api.Documented) (unshared : Unshared repos)
    (reached : Reaches repos repoName branchName commit)
    (present : entry.repo ∈ repos) : Keeps (StoredFor · repoName branchName commit) (entry.run api) :=
  entry.keeps documented (fun _ _ other stored => stored.upsertOther other) (fun _ _ => .deleteStale)
    fun _ member _ listed _ => .upsertCommit unshared reached (reaches present member listed)

theorem Ready.upsertCommit {other : Repository} {branch' : GithubBranch} (unshared : Unshared repos)
    (present : repo ∈ repos) (member : branch ∈ repo.branches) (listed : commit ∈ branch.history) (present' : other ∈ repos)
    (member' : branch' ∈ other.branches) (apart : ¬(repo.name = other.name ∧ branch.name = branch'.name))
    (ready : Ready api other branch' db) : Ready api other branch' (db.upsert (commitRow repo.name branch.name commit)) := by
  refine fun commit' listed' => (ready commit' listed').imp ?_ fun recent => recent.upsert ?_
  · exact .upsertCommit unshared (reaches present' member' listed') (reaches present member listed)
  · rwa [← Bool.not_eq_true, commitRow_isCommit]

theorem RepoSync.ready {entry : RepoSync} {other : Repository} (documented : api.Documented) (unshared : Unshared repos)
    (present : entry.repo ∈ repos)
    (present' : other ∈ repos) (member' : branch ∈ other.branches) (apart : entry.repo.name ≠ other.name) :
    Keeps (Ready api other branch) (entry.run api) :=
  entry.keeps documented (fun _ _ kind ready => ready.upsertOther kind) (fun _ _ => .deleteStale)
    fun _ member _ listed _ => .upsertCommit unshared present member listed present' member' fun same => apart same.1

def BranchStored (repo : Repository) (branchName : String) (db : ChangelogDb) : Prop :=
  ∀ branch ∈ repo.branches, branch.name = branchName → ∀ commit ∈ branch.history, StoredFor db repo.name branchName commit

theorem listed_recent {since : Option Time} (documented : api.Documented) (reached : commit ∈ branch.history)
    (latest : since = getLatestCommitTimestamp db repoName branchName) (recent : Recent api db repoName branchName commit) :
    commit ∈ api.listCommits branch since := by
  cases since with
  | none => exact documented.whole branch commit reached
  | some time =>
    have among := List.max?_mem latest.symm
    obtain ⟨row, listed, rfl⟩ := List.mem_map.mp among
    obtain ⟨member, under⟩ := List.mem_filter.mp listed
    obtain later | ⟨inclusive, same⟩ := recent row member under
    · exact documented.later branch _ commit reached later
    · rw [same]
      exact documented.inclusive inclusive branch commit reached

def Fetched (api : GithubApi) (repo : Repository) (branch : GithubBranch) (listed : List GithubCommit)
    (db : ChangelogDb) : Prop :=
  (∀ other ∈ repo.branches, other.name ≠ branch.name → Ready api repo other db) ∧
    ∀ commit ∈ branch.history, StoredFor db repo.name branch.name commit ∨ commit ∈ listed

theorem commits_stored (api : GithubApi) {listed : List GithubCommit} (unshared : Unshared repos) (present : repo ∈ repos)
    (member : branch ∈ repo.branches) (window : ∀ commit ∈ listed, commit ∈ branch.history) :
    Triple (Fetched api repo branch listed) (listed.forM fun commit => upsertActivity (commitRow repo.name branch.name commit))
      (fun _ db => Fetched api repo branch listed db ∧ ∀ commit ∈ listed, StoredFor db repo.name branch.name commit)
      fun _ => True := by
  have stays : ∀ db commit other, StoredFor db repo.name branch.name commit →
      StoredFor (db.upsert (commitRow repo.name branch.name other)) repo.name branch.name commit :=
    fun db commit other stored => stored.upsert fun _ => commitRow_isCommit.mpr ⟨rfl, rfl⟩
  refine .forM_each (fun commit fetched => .write ?_ fun _ _ => trivial) (fun _ _ => trivial)
    fun commit other => Keeps.write fun db => stays db commit other
  rintro db ⟨others, stored⟩
  refine ⟨⟨fun other among apart => ?_, fun other reached => (stored other reached).imp_left (stays db other commit)⟩, ?_⟩
  · exact (others other among apart).upsertCommit unshared present member (window commit fetched) present among
      fun same => apart same.2.symm
  · exact ⟨_, Table.mem_upsert.mpr (.inl rfl), rfl, commitRow_isCommit.mpr ⟨rfl, rfl⟩⟩

def AllReady (api : GithubApi) (repo : Repository) (db : ChangelogDb) : Prop := ∀ branch ∈ repo.branches, Ready api repo branch db

theorem syncBranchCommits_covers (documented : api.Documented) (branchName : String) (unshared : Unshared repos)
    (present : repo ∈ repos) :
    Triple (AllReady api repo) (syncBranchCommits api repo branchName)
      (fun _ db => AllReady api repo db ∧ BranchStored repo branchName db) fun _ => True := by
  have first : Triple (AllReady api repo) (Fallible.query fun db => getLatestCommitTimestamp db repo.name branchName)
      (fun since db => AllReady api repo db ∧ since = getLatestCommitTimestamp db repo.name branchName) fun _ => True :=
    .query (fun _ ready => ⟨ready, rfl⟩) fun _ _ => trivial
  refine .bind first fun since =>
    .bind (.weaken fetchCommits_window (fun _ => id) (fun _ _ => id) fun _ _ => trivial) fun listed => ?_
  rintro db left ⟨⟨ready, latest⟩, branch, member, rfl, rfl⟩
  have only : ∀ other ∈ repo.branches, other.name = branch.name → other = branch :=
    fun other among same => List.inj_on_of_nodup_map repo.distinct among member same
  have loop := commits_stored api unshared present member (documented.reachable branch since)
  refine Triple.weaken loop (fun _ => id) ?_ (fun _ => id) db left ⟨fun other among _ => ready other among, ?_⟩
  · rintro _ db ⟨⟨others, stored⟩, fetched⟩
    have all : ∀ commit ∈ branch.history, StoredFor db repo.name branch.name commit :=
      fun commit reached => (stored commit reached).elim id (fetched commit)
    refine ⟨fun other among => ?_, fun other among same => only other among same ▸ all⟩
    by_cases same : other.name = branch.name
    · exact only other among same ▸ fun commit reached => .inl (all commit reached)
    · exact others other among same
  · refine fun commit reached => (ready branch member commit reached).imp_right fun recent => ?_
    exact listed_recent documented reached latest recent

def BranchListed (repo : Repository) (branchName : String) (db : ChangelogDb) : Prop :=
  ∃ row ∈ db, row.key = (.branch, repo.name ++ ":" ++ branchName) ∧ row.repo_name = repo.name ∧ row.branch_name = some branchName

theorem BranchListed.name (listed : BranchListed repo branchName db) : branchName ∈ listBranchNames db repo.name := by
  obtain ⟨row, member, same, named, branch⟩ := listed
  have kind : row.kind = .branch := congrArg Prod.fst same
  refine List.mem_filterMap.mpr ⟨row, List.mem_filter.mpr ⟨member, ?_⟩, branch⟩
  simp [kind, named]

theorem BranchListed.upsertBranch {name : String} (listed : BranchListed repo branchName db) :
    BranchListed repo branchName (db.upsert ⟨.branch, repo.name ++ ":" ++ name, repo.name, some name, "branch", now⟩) := by
  obtain ⟨old, member, key, named, same⟩ := listed
  by_cases here : branchName = name
  · exact ⟨_, Table.mem_upsert.mpr (.inl rfl), by rw [here]; rfl, rfl, congrArg some here.symm⟩
  · refine ⟨old, Table.mem_upsert.mpr (.inr ⟨member, fun replaced => here ?_⟩), key, named, same⟩
    exact String.append_right_inj _ |>.mp (congrArg Prod.snd (key.symm.trans replaced))

theorem syncBranches_listed (now : Time) :
    Triple (AllReady api repo) (syncBranches repo now)
      (fun _ db => AllReady api repo db ∧ ∀ branch ∈ repo.branches, BranchListed repo branch.name db) fun _ => True := by
  have first : Triple (AllReady api repo) (request repo.branches)
      (fun branches db => AllReady api repo db ∧ branches = repo.branches) fun _ => True :=
    .query (fun _ ready => ⟨ready, rfl⟩) fun _ _ => trivial
  refine .bind first fun branches => ?_
  rintro db left ⟨ready, rfl⟩
  have loop : Triple (AllReady api repo) (repo.branches.forM fun branch =>
        upsertActivity ⟨.branch, repo.name ++ ":" ++ branch.name, repo.name, some branch.name, "branch", now⟩)
      (fun _ db => AllReady api repo db ∧ ∀ branch ∈ repo.branches, BranchListed repo branch.name db) fun _ => True := by
    refine .forM_each (fun branch _ => .write ?_ fun _ _ => trivial) (fun _ _ => trivial)
      fun branch other => Keeps.write fun db => BranchListed.upsertBranch
    exact fun db ready => ⟨fun branch among => (ready branch among).upsertOther nofun,
      _, Table.mem_upsert.mpr (.inl rfl), rfl, rfl, rfl⟩
  refine Triple.bind loop (fun _ => .write ?_ fun _ _ => trivial) db left ready
  rintro db ⟨ready, listed⟩
  refine ⟨fun branch among => (ready branch among).deleteStale, fun branch member => ?_⟩
  obtain ⟨row, present, key, named, same⟩ := listed branch member
  exact ⟨row, deleteStaleBranches_keeps present fun _ => ⟨_, List.mem_map_of_mem member, same⟩, key, named, same⟩

def RepositoryStored (repo : Repository) (db : ChangelogDb) : Prop := ∀ branch ∈ repo.branches, BranchStored repo branch.name db

theorem RepositoryStored.covered (stored : RepositoryStored repo db) : Covered db repo :=
  fun branch member commit reached =>
    have here := stored branch member branch member rfl commit reached
    ⟨here.stored, here.listed⟩

theorem syncCommits_covers (documented : api.Documented) (order : RowOrder) (unshared : Unshared repos) (present : repo ∈ repos) :
    Triple (fun db => AllReady api repo db ∧ ∀ branch ∈ repo.branches, BranchListed repo branch.name db) (syncCommits api repo order)
      (fun _ => RepositoryStored repo) fun _ => True := by
  have first : Triple (fun db => AllReady api repo db ∧ ∀ branch ∈ repo.branches, BranchListed repo branch.name db)
      (Fallible.query fun db => listBranchNames db repo.name)
      (fun names db => AllReady api repo db ∧ ∀ branch ∈ repo.branches, branch.name ∈ names) fun _ => True :=
    .query (fun _ before => ⟨before.1, fun branch member => (before.2 branch member).name⟩) fun _ _ => trivial
  refine .bind first fun names => ?_
  rintro db left ⟨ready, listed⟩
  have kept : ∀ name other, Keeps (BranchStored repo name) (syncBranchCommits api repo other) := by
    refine fun name other => syncBranchCommits_keeps documented
      fun branch member commit reached db stored branch' member' same commit' reached' => ?_
    subst same
    exact (stored branch' member' rfl commit' reached').upsertCommit unshared (reaches present member' reached')
      (reaches present member reached)
  have loop := Triple.forM_each (fun name (_ : name ∈ (order names).val) => syncBranchCommits_covers documented name unshared
    present) (fun _ _ => trivial) kept
  refine Triple.weaken loop (fun _ => id) ?_ (fun _ => id) db left ready
  exact fun _ db after branch member => after.2 branch.name ((order names).property.mem_iff.mpr (listed branch member))

theorem RepoSync.covers {entry : RepoSync} (documented : api.Documented) (unshared : Unshared repos)
    (present : entry.repo ∈ repos) :
    Triple (AllReady api entry.repo) (entry.run api) (fun _ => RepositoryStored entry.repo) fun _ => True := by
  have requests : Triple (RepositoryStored entry.repo) (syncPullRequests entry.repo) (fun _ => RepositoryStored entry.repo)
      fun _ => True :=
    .weaken (syncPullRequests_keeps fun _ _ other stored branch member branch' member' same commit reached =>
      (stored branch member branch' member' same commit reached).upsertOther other) (fun _ => id) (fun _ _ => id) fun _ _ => trivial
  have rest := Triple.bind (syncCommits_covers documented entry.order unshared present) fun _ => requests
  refine .bind (.bind (syncBranches_listed entry.now) fun _ => rest) fun _ => ?_
  exact refreshMetrics_keeps.weaken (fun _ => id) (fun _ _ => id) fun _ _ => trivial

theorem syncEntries_stored {entries : List RepoSync} (documented : api.Documented) (unshared : Unshared repos)
    (known : ∀ entry ∈ entries, entry.repo ∈ repos)
    (reached : Reaches repos repoName branchName commit) (stored : StoredFor db repoName branchName commit) :
    StoredFor (syncEntries api db entries).1 repoName branchName commit := by
  induction entries generalizing db with
  | nil => exact stored
  | cons entry entries ih =>
    have here := (RepoSync.stored documented unshared reached (known entry List.mem_cons_self)).state stored entry.succeeding
    have ih := fun db stored => @ih db (fun other among => known other (List.mem_cons_of_mem _ among)) stored
    rw [syncEntries]
    revert here
    cases entry.run api db entry.succeeding with
    | mk db' result =>
      cases result with
      | none => exact ih db'
      | some answer => exact ih db'

theorem syncEntries_covers {entries : List RepoSync} (documented : api.Documented) (unshared : Unshared repos)
    (known : ∀ entry ∈ entries, entry.repo ∈ repos) (apart : (entries.map fun entry => entry.repo.name).Nodup)
    (ready : ∀ entry ∈ entries, AllReady api entry.repo db) :
    ∀ entry ∈ entries, entry.repo.name ∉ (syncEntries api db entries).2 → RepositoryStored entry.repo (syncEntries api db entries).1 := by
  induction entries generalizing db with
  | nil => exact nofun
  | cons entry entries ih =>
    obtain ⟨others, apart⟩ := List.nodup_cons.mp apart
    have present := known entry List.mem_cons_self
    have later : ∀ other ∈ entries, other.repo ∈ repos := fun other among => known other (List.mem_cons_of_mem _ among)
    have covers := RepoSync.covers documented unshared present db entry.succeeding (ready entry List.mem_cons_self)
    have ready : ∀ other ∈ entries, AllReady api other.repo (entry.run api db entry.succeeding).1 := by
      intro other among branch member
      refine (RepoSync.ready documented unshared present (later other among) member fun same => others ?_).state
        (ready other (List.mem_cons_of_mem _ among) branch member) _
      exact List.mem_map.mpr ⟨other, among, same.symm⟩
    have rest := ih later apart ready
    rw [syncEntries]
    revert covers rest
    cases entry.run api db entry.succeeding with
    | mk db' result =>
      cases result with
      | none =>
        intro _ rest other among spared
        rcases List.mem_cons.mp among with rfl | among
        · exact absurd List.mem_cons_self spared
        · exact rest other among fun failed => spared (List.mem_cons_of_mem _ failed)
      | some answer =>
        intro covers rest other among spared
        rcases List.mem_cons.mp among with rfl | among
        · rintro branch member branch' member' same commit reached
          exact syncEntries_stored documented unshared later ⟨_, present, rfl, branch', member', same, reached⟩
            (covers branch member branch' member' same commit reached)
        · exact rest other among spared

theorem fullSync_covers {sync : ChangelogSync} {failed : List String} (documented : api.Documented) (steady : Steady api db sync)
    (reported : (fullSync api db sync).2 = some failed) :
    ∀ entry ∈ sync.entries, entry.repo.name ∉ failed → Covered (fullSync api db sync).1 entry.repo := by
  have kept : ∀ entry ∈ sync.entries, ∀ branch ∈ entry.repo.branches, Keeps (Ready api entry.repo branch) (syncRepositories sync.repos) :=
    fun _ _ _ _ => .bind .query fun _ => .forM fun _ _ => .write fun _ ready => ready.upsertOther nofun
  have ready : ∀ entry ∈ sync.entries, AllReady api entry.repo (syncRepositories sync.repos db sync.succeeding).1 :=
    fun entry among branch member => (kept entry among branch member).state (steady.ready entry among branch member) _
  unfold fullSync at reported ⊢
  revert reported ready
  cases syncRepositories sync.repos db sync.succeeding with
  | mk db' result =>
    cases result with
    | none => exact nofun
    | some answer =>
      rintro ⟨⟩ ready entry among spared
      exact (syncEntries_covers documented steady.unshared (fun _ => List.mem_map_of_mem) steady.repos ready entry among spared).covered

end

theorem sync_covers {db₀ db s : ChangelogDb} {events : List (ChangelogDb × ChangelogSync)} {sync : ChangelogSync}
    (documented : api.Documented) (run : Run (changelogStep api) db₀ (events ++ [(db, sync)]) s)
    (conforms : Conforms (Steady api) (events ++ [(db, sync)])) :
    ∀ failed, (fullSync api db sync).2 = some failed → ∀ entry ∈ sync.entries, entry.repo.name ∉ failed → Covered s entry.repo := by
  obtain ⟨-, taken⟩ := run.last
  obtain rfl := Option.some.inj taken
  exact fun failed reported => fullSync_covers documented (conforms (db, sync) (by simp)) reported

section Example

def gitLog : GithubApi where
  listCommits branch since := branch.history.filter fun commit => since.all (· ≤ commit.committed_at)
  inclusive := true

theorem gitLog_documented : gitLog.Documented where
  reachable _ _ _ := List.mem_of_mem_filter
  whole _ _ reached := List.mem_filter.mpr ⟨reached, rfl⟩
  later _ _ _ reached later := List.mem_filter.mpr ⟨reached, decide_eq_true later.le⟩
  inclusive _ _ commit reached := List.mem_filter.mpr ⟨reached, decide_eq_true (le_refl commit.committed_at)⟩

instance : Decidable (StoredFor db repoName branchName commit) :=
  inferInstanceAs (Decidable (∃ row ∈ db.rows, row.key = (.commit, commit.sha) ∧ row.isCommit repoName branchName = true))

instance : Decidable (Recent api db repoName branchName commit) :=
  inferInstanceAs (Decidable (∀ row ∈ db.rows, row.isCommit repoName branchName = true →
    row.occurred_at < commit.committed_at ∨ api.inclusive = true ∧ row.occurred_at = commit.committed_at))

instance : Decidable (Ready api repo branch db) :=
  inferInstanceAs (Decidable (∀ commit ∈ branch.history,
    StoredFor db repo.name branch.name commit ∨ Recent api db repo.name branch.name commit))

theorem Listed.storedFor (listed : Listed db repoName branchName commit) : StoredFor db repoName branchName commit := by
  obtain ⟨row, found, same⟩ := listed db.rows.length le_rfl
  unfold getCommits at found
  obtain ⟨member, admitted⟩ := List.mem_filter.mp (List.mem_mergeSort.mp (List.mem_of_mem_take found))
  simp only [CommitListFilters.admits, Option.all_some, Option.all_none, Bool.and_true, Bool.and_eq_true, decide_eq_true_eq] at admitted
  refine ⟨row, member, ?_, by simp [ActivityRow.isCommit, admitted]⟩
  rw [ActivityRow.key, admitted.1.1, same]

def commitAt (sha : String) (date : Time) : GithubCommit := ⟨sha, "octocat", date, date⟩

def mainOf (history : List GithubCommit) : Repository := ⟨"api", [⟨"main", history⟩], [], List.nodup_singleton _⟩

def syncOf (repo : Repository) (succeeding : Nat) : ChangelogSync :=
  ⟨[⟨"1", "api", "octo-org", 0⟩], 100, [⟨repo, 0, fun names => ⟨names, .refl names⟩, succeeding⟩]⟩

def Uncovers (repo : Repository) : Prop := ∃ events db s,
  Run (changelogStep gitLog) .empty (events ++ [(db, syncOf repo 100)]) s ∧
  (fullSync gitLog db (syncOf repo 100)).2 = some [] ∧ ¬Covered s repo

theorem uncovered (before : List ChangelogSync) (found : ((exec (changelogStep gitLog) .empty before).any fun result =>
    decide ((fullSync gitLog result.2 (syncOf repo 100)).2 = some [] ∧
      ∃ branch ∈ repo.branches, ∃ commit ∈ branch.history,
        ¬StoredFor (fullSync gitLog result.2 (syncOf repo 100)).1 repo.name branch.name commit)) = true) : Uncovers repo := by
  obtain ⟨events, db, run, reported, branch, member, commit, reached, missing⟩ := exists_run before (fun db =>
    (fullSync gitLog db (syncOf repo 100)).2 = some [] ∧ ∃ branch ∈ repo.branches, ∃ commit ∈ branch.history,
      ¬StoredFor (fullSync gitLog db (syncOf repo 100)).1 repo.name branch.name commit) found
  exact ⟨events, db, _, run.next rfl, reported, fun covered => missing (covered branch member commit reached).2.storedFor⟩

def merged : Repository := mainOf [commitAt "m" 30, commitAt "b" 20, commitAt "a" 15]

def interrupted : Repository := mainOf [commitAt "b" 20, commitAt "a" 15]

def shared : Repository := ⟨"api", [⟨"main", [commitAt "a" 15]⟩, ⟨"dev", [commitAt "a" 15]⟩], [], by decide⟩

theorem syncs_lose : Uncovers merged ∧ Uncovers interrupted ∧ Uncovers shared :=
  ⟨uncovered [syncOf (mainOf [commitAt "b" 20]) 100] (by decide +kernel), uncovered [syncOf interrupted 7] (by decide +kernel),
    uncovered [] (by decide +kernel)⟩

theorem unshared_main (history : List GithubCommit) : Unshared [mainOf history] := by
  rintro _ _ _ _ _ _ ⟨repo, present, rfl, branch, member, rfl, -⟩ ⟨repo', present', rfl, branch', member', rfl, -⟩ -
  obtain rfl := List.mem_singleton.mp present
  obtain rfl := List.mem_singleton.mp present'
  obtain rfl := List.mem_singleton.mp member
  obtain rfl := List.mem_singleton.mp member'
  exact ⟨rfl, rfl⟩

theorem steady_main (history : List GithubCommit) (succeeding : Nat)
    (ready : ∀ commit ∈ history, StoredFor db "api" "main" commit ∨ Recent gitLog db "api" "main" commit) :
    Steady gitLog db (syncOf (mainOf history) succeeding) := by
  refine ⟨List.nodup_singleton _, unshared_main history, fun entry among branch member => ?_⟩
  obtain rfl := List.mem_singleton.mp among
  obtain rfl := List.mem_singleton.mp member
  exact ready

/-- A commit is stored, and the branch gets a later one. -/
theorem sync_covers_later : ∃ events db s, Run (changelogStep gitLog) .empty (events ++ [(db, syncOf interrupted 100)]) s ∧
    (fullSync gitLog db (syncOf interrupted 100)).2 = some [] ∧ Covered s interrupted := by
  let first := syncOf (mainOf [commitAt "a" 15]) 100
  let stored := (fullSync gitLog .empty first).1
  have run : Run (changelogStep gitLog) .empty ([(.empty, first)] ++ [(stored, syncOf interrupted 100)]) _ :=
    (Run.next .start rfl).next rfl
  have conforms : Conforms (Steady gitLog) ([(.empty, first)] ++ [(stored, syncOf interrupted 100)]) := by
    simp only [conforms_append, conforms_singleton]
    exact ⟨steady_main _ 100 (by decide +kernel), steady_main _ 100 (by decide +kernel)⟩
  have reported : (fullSync gitLog stored (syncOf interrupted 100)).2 = some [] := by decide +kernel
  exact ⟨_, stored, _, run, reported, sync_covers gitLog_documented run conforms [] reported _ List.mem_cons_self List.not_mem_nil⟩

end Example

end AgentOps.Changelog
