import AgentOps.Identity.Errors
import AgentOps.Lib.Table
import AgentOps.Lib.Text
import AgentOps.PaidHttp.Responses

namespace AgentOps.Circle
open Lib PaidHttp

/-! # Profiles of the Circle CLI between two sessions -/

def MAX_PROFILE_FILE_BYTES : Nat := 1024 * 1024

def STATIC_PROFILE_PATHS : List String :=
  [".circle-cli/blockchains.json", ".circle-cli/config.json", ".circle-cli/profiles/agent/session.json"]

def loginRequests : String := ".circle/login-requests/"

/-- `/^\.circle\/login-requests\/[0-9a-f-]{36}\.json$/i` -/
def isLoginRequest (path : String) : Bool :=
  let text := path.toList.map Char.toLower
  text.take 23 = loginRequests.toList && ((text.drop 23).take 36).all (fun c => isDigit c || 'a' ≤ c && c ≤ 'f' || c = '-') &&
    text.drop 59 = ".json".toList

/-- A member of the object `files`, in base64 -/
structure ProfileFile where
  path : String
  encoded : List Char
  deriving DecidableEq

/-- `CircleProfileBundle`, with one text for each path -/
structure ProfileBundle where
  files : Table ProfileFile.path
  version : Nat

inductive ProfileEntry where
  | file (content : List UInt8)
  | directory
  | symbolicLink
  deriving DecidableEq

structure WorkspaceRow where
  path : String
  entry : ProfileEntry
  deriving DecidableEq

/-- What is under the root, in an order in which `readdir` may list it -/
abbrev Workspace := Table WorkspaceRow.path

def assertAllowedProfilePath (path : String) : Except String Unit :=
  if path ∉ STATIC_PROFILE_PATHS ∧ isLoginRequest path = false then .error "circle_profile_path_not_allowed" else .ok ()

def restoreFiles (root : Workspace) : List ProfileFile → Except String Workspace
  | [] => .ok root
  | file :: files => do
    assertAllowedProfilePath file.path
    let content := base64Read file.encoded
    if MAX_PROFILE_FILE_BYTES < content.length then .error "circle_profile_file_too_large"
    else restoreFiles (root.upsert ⟨file.path, .file content⟩) files

def restoreBundle : Option ProfileBundle → Except String Workspace
  | none => .ok .empty
  | some bundle =>
    if bundle.version ≠ 1 then .error "circle_profile_bundle_version_unsupported" else restoreFiles .empty bundle.files.rows

def captureFile (root : Workspace) (profilePath : String) (files : Table ProfileFile.path) :
    Except String (Table ProfileFile.path) := do
  assertAllowedProfilePath profilePath
  match root.find? profilePath with
  | some ⟨_, .file content⟩ =>
    if MAX_PROFILE_FILE_BYTES < content.length then .error "circle_profile_file_too_large"
    else .ok (files.upsert ⟨profilePath, base64Text content⟩)
  | _ => .ok files

def captureStatic (root : Workspace) (files : Table ProfileFile.path) : List String → Except String (Table ProfileFile.path)
  | [] => .ok files
  | path :: paths => do
    let files ← captureFile root path files
    captureStatic root files paths

/-- `readdir` of the directory of the login requests, its plain files -/
def requestEntries (root : Workspace) : List String :=
  (root.rows.filter fun row => startsWith row.path loginRequests && !(row.path.toList.drop 23).contains '/' &&
    (match row.entry with | .file _ => true | _ => false)).map WorkspaceRow.path

/-- The first failure ends the loop, and what was captured before it stays. -/
def captureRequests (root : Workspace) (files : Table ProfileFile.path) : List String → Table ProfileFile.path
  | [] => files
  | path :: paths =>
    if isLoginRequest path then
      match captureFile root path files with
      | .error _ => files
      | .ok files => captureRequests root files paths
    else captureRequests root files paths

def captureBundle (root : Workspace) : Except String ProfileBundle := do
  let files ← captureStatic root .empty STATIC_PROFILE_PATHS
  .ok ⟨captureRequests root files (requestEntries root), 1⟩

def fileOf? (root : Workspace) (path : String) : Option ProfileFile :=
  match root.find? path with
  | some ⟨_, .file content⟩ => some ⟨path, base64Text content⟩
  | _ => none

def Allowed (path : String) : Prop := path ∈ STATIC_PROFILE_PATHS ∨ isLoginRequest path = true

def Fits (root : Workspace) (path : String) : Prop :=
  ∀ content, root.find? path = some ⟨path, .file content⟩ → content.length ≤ MAX_PROFILE_FILE_BYTES

def Mirrors (root : Workspace) (files : Table ProfileFile.path) : Prop := ∀ file ∈ files, fileOf? root file.path = some file

variable {root : Workspace} {files files' : Table ProfileFile.path} {file : ProfileFile} {path : String} {paths : List String}
  {bundle : ProfileBundle} {content : List UInt8}

theorem assertAllowed_ok : assertAllowedProfilePath path = .ok () ↔ Allowed path := by
  unfold assertAllowedProfilePath Allowed
  split_ifs with refused
  · simp [refused]
  · simp only [true_iff]
    by_contra other
    rw [not_or] at other
    exact refused ⟨other.1, by simpa using other.2⟩

theorem fileOf?_eq_some : fileOf? root path = some file ↔
    ∃ content, root.find? path = some ⟨path, .file content⟩ ∧ file = ⟨path, base64Text content⟩ := by
  unfold fileOf?
  split
  · rename_i path' content found
    obtain rfl : path' = path := Table.key_of_find? found
    simp [found, eq_comm]
  · rename_i none
    simp only [reduceCtorEq, false_iff]
    rintro ⟨content, found, -⟩
    exact none path content found

theorem path_of_fileOf? (captured : fileOf? root path = some file) : file.path = path := by
  obtain ⟨content, -, rfl⟩ := fileOf?_eq_some.mp captured
  rfl

theorem captureFile_ok (mirrors : Mirrors root files) (captured : captureFile root path files = .ok files') :
    Allowed path ∧ Fits root path ∧ Mirrors root files' ∧
      ∀ file, file ∈ files' ↔ file ∈ files ∨ fileOf? root path = some file := by
  obtain ⟨⟨⟩, allowed, captured⟩ := Identity.bind_eq_ok.mp captured
  refine ⟨assertAllowed_ok.mp allowed, ?_⟩
  split at captured
  · rename_i path' content found
    obtain rfl : path' = path := Table.key_of_find? found
    have own : fileOf? root path' = some ⟨path', base64Text content⟩ := fileOf?_eq_some.mpr ⟨content, found, rfl⟩
    split_ifs at captured with large
    obtain rfl := Except.ok.inj captured
    refine ⟨fun content' found' => ?_, fun file member => ?_, fun file => ?_⟩
    · obtain rfl : content = content' := by simpa using found.symm.trans found'
      exact not_lt.mp large
    · rcases Table.mem_upsert.mp member with rfl | ⟨earlier, -⟩
      · exact own
      · exact mirrors file earlier
    · rw [Table.mem_upsert, own, Option.some.injEq]
      constructor
      · rintro (rfl | ⟨earlier, -⟩)
        · exact .inr rfl
        · exact .inl earlier
      · rintro (earlier | rfl)
        · by_cases same : file.path = path'
          · have mirrored := mirrors file earlier
            rw [same, own] at mirrored
            exact .inl (Option.some.inj mirrored).symm
          · exact .inr ⟨earlier, same⟩
        · exact .inl rfl
  · rename_i none
    obtain rfl := Except.ok.inj captured
    refine ⟨fun content found => absurd found (none path content), mirrors, fun file => ?_⟩
    rw [or_iff_left]
    intro own
    obtain ⟨content, found, -⟩ := fileOf?_eq_some.mp own
    exact none path content found

theorem captureFile_of_fits (files : Table ProfileFile.path) (allowed : Allowed path) (fits : Fits root path) :
    ∃ files', captureFile root path files = .ok files' := by
  unfold captureFile
  rw [assertAllowed_ok.mpr allowed]
  simp only [bind, Except.bind]
  split
  · rename_i path' content found
    obtain rfl : path' = path := Table.key_of_find? found
    exact ⟨_, if_neg (not_lt.mpr (fits content found))⟩
  · exact ⟨files, rfl⟩

theorem captureStatic_ok (mirrors : Mirrors root files) (captured : captureStatic root files paths = .ok files') :
    (∀ path ∈ paths, Fits root path) ∧ Mirrors root files' ∧
      ∀ file, file ∈ files' ↔ file ∈ files ∨ ∃ path ∈ paths, fileOf? root path = some file := by
  induction paths generalizing files with
  | nil =>
    obtain rfl := Except.ok.inj captured
    exact ⟨by simp, mirrors, by simp⟩
  | cons path paths ih =>
    obtain ⟨files₁, one, rest⟩ := Identity.bind_eq_ok.mp captured
    obtain ⟨-, fits, mirrors₁, members⟩ := captureFile_ok mirrors one
    obtain ⟨fitting, mirrors', all⟩ := ih mirrors₁ rest
    refine ⟨List.forall_mem_cons.mpr ⟨fits, fitting⟩, mirrors', fun file => ?_⟩
    rw [all, members, List.exists_mem_cons_iff, or_assoc]

theorem captureStatic_of_fits (files : Table ProfileFile.path) (fits : ∀ path ∈ paths, Allowed path ∧ Fits root path) :
    ∃ files', captureStatic root files paths = .ok files' := by
  induction paths generalizing files with
  | nil => exact ⟨files, rfl⟩
  | cons path paths ih =>
    obtain ⟨first, rest⟩ := List.forall_mem_cons.mp fits
    obtain ⟨files₁, one⟩ := captureFile_of_fits files first.1 first.2
    obtain ⟨files', all⟩ := ih files₁ rest
    exact ⟨files', Identity.bind_eq_ok.mpr ⟨files₁, one, all⟩⟩

theorem captureRequests_spec (paths : List String) (mirrors : Mirrors root files) :
    (∀ file ∈ files, file ∈ captureRequests root files paths) ∧
    (∀ file ∈ captureRequests root files paths, file ∈ files ∨
      file.path ∈ paths ∧ isLoginRequest file.path = true ∧ Fits root file.path ∧ fileOf? root file.path = some file) ∧
    ((∀ path ∈ paths, isLoginRequest path = true → Fits root path) → ∀ path ∈ paths, isLoginRequest path = true →
      ∀ file, fileOf? root path = some file → file ∈ captureRequests root files paths) := by
  induction paths generalizing files with
  | nil => exact ⟨fun _ member => member, fun _ member => .inl member, fun _ path member => by simp at member⟩
  | cons path paths ih =>
    unfold captureRequests
    split_ifs with request
    · cases captured : captureFile root path files with
      | error message =>
        refine ⟨fun _ member => member, fun _ member => .inl member, fun fits => ?_⟩
        obtain ⟨files', fitted⟩ := captureFile_of_fits files (.inr request) (fits path (by simp) request)
        rw [captured] at fitted
        cases fitted
      | ok files₁ =>
        obtain ⟨-, fitted, mirrors₁, members⟩ := captureFile_ok mirrors captured
        obtain ⟨grows, added, every⟩ := ih mirrors₁
        refine ⟨fun file member => grows file ((members file).mpr (.inl member)), fun file member => ?_,
          fun fits path' member request' file own => ?_⟩
        · rcases added file member with earlier | ⟨listed, rest⟩
          · rcases (members file).mp earlier with before | own
            · exact .inl before
            · rw [path_of_fileOf? own]
              exact .inr ⟨by simp, request, fitted, own⟩
          · exact .inr ⟨List.mem_cons_of_mem _ listed, rest⟩
        · rcases List.mem_cons.mp member with rfl | later
          · exact grows file ((members file).mpr (.inr own))
          · exact every (fun path listed => fits path (List.mem_cons_of_mem _ listed)) path' later request' file own
    · obtain ⟨grows, added, every⟩ := ih mirrors
      refine ⟨grows, fun file member => ?_, fun fits path' member request' file own => ?_⟩
      · rcases added file member with earlier | ⟨listed, rest⟩
        · exact .inl earlier
        · exact .inr ⟨List.mem_cons_of_mem _ listed, rest⟩
      · rcases List.mem_cons.mp member with rfl | later
        · exact absurd request' request
        · exact every (fun path listed => fits path (List.mem_cons_of_mem _ listed)) path' later request' file own

/-- The places of a workspace that a session keeps -/
def Kept (root : Workspace) (path : String) : Prop :=
  path ∈ STATIC_PROFILE_PATHS ∨ path ∈ requestEntries root ∧ isLoginRequest path = true

theorem captureBundle_ok (captured : captureBundle root = .ok bundle) : bundle.version = 1 ∧
    (∀ file ∈ bundle.files, Kept root file.path ∧ Fits root file.path ∧ fileOf? root file.path = some file) ∧
    ((∀ path ∈ requestEntries root, isLoginRequest path = true → Fits root path) →
      ∀ file, Kept root file.path → fileOf? root file.path = some file → file ∈ bundle.files) := by
  obtain ⟨files, static, captured⟩ := Identity.bind_eq_ok.mp captured
  obtain rfl := Except.ok.inj captured
  have mirrors : Mirrors root .empty := fun file member => absurd member (Table.not_mem_empty file)
  obtain ⟨fits, mirrors', members⟩ := captureStatic_ok mirrors static
  obtain ⟨grows, added, every⟩ := captureRequests_spec (requestEntries root) mirrors'
  refine ⟨rfl, fun file member => ?_, fun fitting file kept own => ?_⟩
  · rcases added file member with earlier | ⟨listed, request, fitted, own⟩
    · rcases (members file).mp earlier with none | ⟨path, listed, own⟩
      · exact absurd none (Table.not_mem_empty file)
      · rw [path_of_fileOf? own]
        exact ⟨.inl listed, fits path listed, own⟩
    · exact ⟨.inr ⟨listed, request⟩, fitted, own⟩
  · rcases kept with static | ⟨listed, request⟩
    · exact grows file ((members file).mpr (.inr ⟨file.path, static, own⟩))
    · exact every fitting file.path listed request file own

theorem restoreFiles_ok (root : Workspace) {members : List ProfileFile} (distinct : (members.map ProfileFile.path).Nodup)
    (sound : ∀ file ∈ members, Allowed file.path ∧ (base64Read file.encoded).length ≤ MAX_PROFILE_FILE_BYTES) :
    ∃ restored, restoreFiles root members = .ok restored ∧ ∀ row, row ∈ restored ↔
      (∃ file ∈ members, row = ⟨file.path, .file (base64Read file.encoded)⟩) ∨
        row ∈ root ∧ ∀ file ∈ members, file.path ≠ row.path := by
  induction members generalizing root with
  | nil => exact ⟨root, rfl, by simp⟩
  | cons file members ih =>
    obtain ⟨⟨allowed, small⟩, sounds⟩ := List.forall_mem_cons.mp sound
    obtain ⟨unused, apart⟩ := List.nodup_cons.mp distinct
    obtain ⟨restored, rest, rows⟩ := ih (root.upsert ⟨file.path, .file (base64Read file.encoded)⟩) apart sounds
    refine ⟨restored, ?_, fun row => ?_⟩
    · unfold restoreFiles
      rw [assertAllowed_ok.mpr allowed]
      exact (if_neg (not_lt.mpr small)).trans rest
    · rw [rows, Table.mem_upsert]
      simp only [List.mem_cons, exists_eq_or_imp, forall_eq_or_imp]
      constructor
      · rintro (later | ⟨rfl | ⟨earlier, other⟩, others⟩)
        · exact .inl (.inr later)
        · exact .inl (.inl rfl)
        · exact .inr ⟨earlier, Ne.symm other, others⟩
      · rintro ((rfl | later) | ⟨earlier, other, others⟩)
        · refine .inr ⟨.inl rfl, fun file' member same => unused ?_⟩
          exact List.mem_map.mpr ⟨file', member, same⟩
        · exact .inl later
        · exact .inr ⟨.inr ⟨earlier, Ne.symm other⟩, others⟩

theorem mem_requestEntries : path ∈ requestEntries root ↔ (startsWith path loginRequests = true ∧
    (path.toList.drop 23).contains '/' = false) ∧ ∃ content, root.find? path = some ⟨path, .file content⟩ := by
  simp only [requestEntries, List.mem_map, List.mem_filter, Bool.and_eq_true, Bool.not_eq_true', Table.find?_eq_some]
  constructor
  · rintro ⟨⟨path', entry⟩, ⟨member, child, plain⟩, rfl⟩
    cases entry with
    | file content => exact ⟨child, content, member, trivial⟩
    | directory | symbolicLink => cases plain
  · rintro ⟨child, content, member, -⟩
    exact ⟨_, ⟨member, child, rfl⟩, rfl⟩

theorem Kept.allowed (kept : Kept root path) : Allowed path := kept.imp_right And.right

theorem captured_file (captured : captureBundle root = .ok bundle) (member : file ∈ bundle.files) :
    Kept root file.path ∧ (base64Read file.encoded).length ≤ MAX_PROFILE_FILE_BYTES ∧
      root.find? file.path = some ⟨file.path, .file (base64Read file.encoded)⟩ ∧
      file.encoded = base64Text (base64Read file.encoded) := by
  obtain ⟨-, facts, -⟩ := captureBundle_ok captured
  obtain ⟨kept, fits, own⟩ := facts file member
  obtain ⟨content, found, same⟩ := fileOf?_eq_some.mp own
  have text : file.encoded = base64Text content := congrArg ProfileFile.encoded same
  have read : base64Read file.encoded = content := by rw [text, base64Read_base64Text]
  rw [read]
  exact ⟨kept, fits content found, found, text⟩

/-- A bundle that was captured restores, to files of the workspace it was captured from and at allowed places alone, all of
those that a session keeps where the login requests fit; and captured again it is the same bundle. -/
theorem captured_restores (captured : captureBundle root = .ok bundle) :
    ∃ restored, restoreBundle (some bundle) = .ok restored ∧ (∀ row ∈ restored, row ∈ root ∧ Allowed row.path) ∧
      ((∀ path ∈ requestEntries root, isLoginRequest path = true → Fits root path) →
        ∀ path content, Kept root path → root.find? path = some ⟨path, .file content⟩ →
          restored.find? path = some ⟨path, .file content⟩) ∧
      ∀ listed : Workspace, (∀ row, row ∈ listed ↔ row ∈ restored) → ∃ again, captureBundle listed = .ok again ∧
        again.version = bundle.version ∧ ∀ file, file ∈ again.files ↔ file ∈ bundle.files := by
  obtain ⟨version, -, complete⟩ := captureBundle_ok captured
  have sound : ∀ file ∈ bundle.files.rows, Allowed file.path ∧ (base64Read file.encoded).length ≤ MAX_PROFILE_FILE_BYTES := by
    intro file member
    obtain ⟨kept, small, -⟩ := captured_file captured member
    exact ⟨kept.allowed, small⟩
  obtain ⟨restored, restores, rows⟩ := restoreFiles_ok .empty bundle.files.distinct sound
  have restoredRow (row : WorkspaceRow) : row ∈ restored ↔
      ∃ file ∈ bundle.files, row = ⟨file.path, .file (base64Read file.encoded)⟩ := by
    rw [rows, or_iff_left fun empty => Table.not_mem_empty row empty.1]
    rfl
  refine ⟨restored, ?_, fun row member => ?_, fun fits path content kept found => ?_, fun listed same => ?_⟩
  · rw [restoreBundle, if_neg (not_not.mpr version), restores]
  · obtain ⟨file, bundled, rfl⟩ := (restoredRow row).mp member
    obtain ⟨kept, -, found, -⟩ := captured_file captured bundled
    exact ⟨Table.mem_of_find? found, kept.allowed⟩
  · have own : fileOf? root path = some ⟨path, base64Text content⟩ := fileOf?_eq_some.mpr ⟨content, found, rfl⟩
    have bundled := complete fits ⟨path, base64Text content⟩ kept own
    refine Table.find?_eq_some.mpr ⟨(restoredRow _).mpr ⟨_, bundled, ?_⟩, rfl⟩
    rw [base64Read_base64Text]
  · have again? (path : String) (file : ProfileFile) : fileOf? listed path = some file ↔ file ∈ bundle.files ∧ file.path = path := by
      rw [fileOf?_eq_some]
      constructor
      · rintro ⟨content, found, rfl⟩
        obtain ⟨file, bundled, row⟩ := (restoredRow _).mp ((same _).mp (Table.mem_of_find? found))
        obtain ⟨-, -, -, text⟩ := captured_file captured bundled
        obtain ⟨rfl, entry⟩ := WorkspaceRow.mk.inj row
        rw [ProfileEntry.file.inj entry, ← text]
        exact ⟨bundled, rfl⟩
      · rintro ⟨bundled, rfl⟩
        obtain ⟨-, -, -, text⟩ := captured_file captured bundled
        have stored := (same _).mpr ((restoredRow _).mpr ⟨file, bundled, rfl⟩)
        refine ⟨_, Table.find?_eq_some.mpr ⟨stored, rfl⟩, ?_⟩
        rw [← text]
    have fits (path : String) : Fits listed path := by
      intro content found
      obtain ⟨file, bundled, row⟩ := (restoredRow _).mp ((same _).mp (Table.mem_of_find? found))
      rw [ProfileEntry.file.inj (WorkspaceRow.mk.inj row).2]
      exact (captured_file captured bundled).2.1
    obtain ⟨files, static⟩ : ∃ files, captureStatic listed .empty STATIC_PROFILE_PATHS = .ok files :=
      captureStatic_of_fits .empty fun path static => ⟨.inl static, fits path⟩
    have recaptured : captureBundle listed = .ok ⟨captureRequests listed files (requestEntries listed), 1⟩ :=
      Identity.bind_eq_ok.mpr ⟨files, static, rfl⟩
    obtain ⟨version', facts, complete'⟩ := captureBundle_ok recaptured
    refine ⟨_, recaptured, version'.trans version.symm, fun file => ⟨fun member => ?_, fun bundled => ?_⟩⟩
    · exact ((again? file.path file).mp (facts file member).2.2).1
    · refine complete' (fun path _ _ => fits path) file ?_ ((again? file.path file).mpr ⟨bundled, rfl⟩)
      rcases (captured_file captured bundled).1 with static | ⟨request, matched⟩
      · exact .inl static
      · refine .inr ⟨mem_requestEntries.mpr ⟨(mem_requestEntries.mp request).1, ?_⟩, matched⟩
        exact ⟨_, Table.find?_eq_some.mpr ⟨(same _).mpr ((restoredRow _).mpr ⟨file, bundled, rfl⟩), rfl⟩⟩

def afterLogin : Workspace :=
  ⟨[⟨".circle-cli/profiles/agent/session.json", .file [123, 125]⟩, ⟨".circle-cli/payments/debug.json", .file [1]⟩,
    ⟨".circle/login-requests/68c34a64-bf7a-4ca5-a2ac-125cab514bc9.json", .file [48]⟩,
    ⟨".circle/login-requests/78c34a64-bf7a-4ca5-a2ac-125cab514bc9.JSON", .file [91, 93]⟩], by decide +kernel⟩

theorem captured_restores_login : ∃ bundle restored, captureBundle afterLogin = .ok bundle ∧ bundle.files.rows.length = 3 ∧
    restoreBundle (some bundle) = .ok restored ∧ ∀ row ∈ restored, row ∈ afterLogin := by
  have three : (captureBundle afterLogin).toOption.map (·.files.rows.length) = some 3 := by decide +kernel
  obtain ⟨bundle, succeeded, three⟩ := Option.map_eq_some_iff.mp three
  cases captured : captureBundle afterLogin with
  | error message => simp [captured, Except.toOption] at succeeded
  | ok captured' =>
    obtain rfl : captured' = bundle := by simpa [captured, Except.toOption] using succeeded
    obtain ⟨restored, restores, within, -⟩ := captured_restores captured
    exact ⟨captured', restored, rfl, three, restores, fun row member => (within row member).1⟩

end AgentOps.Circle
