/-
Detection as evidence that is taken in piece by piece.

What a check looks at never depends on what was detected before it. So each
check comes down to a list of pieces of evidence, read off the tree, that are
taken in one after another: `Check.run_eq` says so for all six. What one piece
does to the frameworks detected so far is said once (`lookup_take`,
`keys_take`), and what whole checks and whole detections do follows from it.
-/
import SourceAudit.Framework.Detection
import SourceAudit.Proofs.Entries
import SourceAudit.Proofs.FileTree

namespace SourceAudit.Framework

-- ============================================================ profiles

/-- No two profiles have the same name. -/
theorem nodup_names_profiles : (profiles.map Profile.name).Nodup := by decide

/-- Profiles of the same name are the same. -/
theorem eq_of_name_eq {p q : Profile} (hp : p ∈ profiles) (hq : q ∈ profiles)
    (h : p.name = q.name) : p = q :=
  List.inj_on_of_nodup_map nodup_names_profiles hp hq h

theorem profile?_eq_some_iff {name : String} {p : Profile} :
    profile? name = some p ↔ p ∈ profiles ∧ p.name = name := by
  constructor
  · intro h
    exact ⟨List.mem_of_find?_eq_some h, by simpa using List.find?_some h⟩
  · rintro ⟨hp, rfl⟩
    have hsome : (profile? p.name).isSome = true :=
      List.find?_isSome.2 ⟨p, hp, beq_self_eq_true p.name⟩
    obtain ⟨q, hq⟩ := Option.isSome_iff_exists.1 hsome
    have hname : q.name = p.name := by simpa using List.find?_some hq
    rw [hq, eq_of_name_eq (List.mem_of_find?_eq_some hq) hp hname]

-- =========================================================== one piece

/-- A piece of evidence for a framework. -/
structure Evidence where
  profile : Profile
  /-- The confidence with which it enters the framework. -/
  first : Float
  /-- How much more confidence it gives to a framework that has been entered;
  without a rise such a framework stays as it is. -/
  rise : Option Float
  files : List String

namespace Evidence

/-- The key of the framework it speaks for. -/
def key (e : Evidence) : String := e.profile.name

/-- The framework as the evidence enters it. -/
def entered (e : Evidence) : Detected where
  name := e.profile.name
  area := e.profile.area
  confidence := e.first
  files := e.files

/-- A framework that the evidence confirms. -/
def confirmed (e : Evidence) (d : Detected) : Detected :=
  match e.rise with
  | some rise => d.confirm rise e.files
  | none => d

/-- What stands under a key once the evidence is taken in. -/
def update (e : Evidence) (key : String) (d : Option Detected) :
    Option Detected :=
  if key = e.key then some (d.elim e.entered e.confirmed) else d

end Evidence

namespace Detections

/-- Takes a piece of evidence in. -/
def take (found : Detections) (e : Evidence) : Detections :=
  match e.rise with
  | some rise => found.sight e.profile e.first rise e.files
  | none => found.enter e.profile e.first e.files

/-- Takes pieces of evidence in, one after another. -/
def takeAll (found : Detections) (es : List Evidence) : Detections :=
  es.foldl take found

variable {found : Detections} {key : String}

theorem has_iff_mem : found.has key = true ↔ key ∈ found.map Prod.fst := by
  simp only [has, List.any_eq_true, beq_iff_eq, List.mem_map]

theorem lookup_eq_find? :
    found.lookup key = (Entries.find? Prod.fst key found).map Prod.snd := by
  induction found with
  | nil => rfl
  | cons x rest ih =>
      obtain ⟨name, d⟩ := x
      rw [Entries.find?, List.find?_cons, List.lookup_cons, BEq.comm]
      cases name == key with
      | true => rfl
      | false => exact ih

theorem has_iff_lookup : found.has key = true ↔
    (found.lookup key).isSome = true := by
  rw [has_iff_mem, lookup_eq_find?, Option.isSome_map, Entries.isSome_find?]

/-- Evidence confirms the framework in its place if it has been detected, and
enters it at the end if not. -/
theorem take_eq_upsert (e : Evidence) :
    found.take e
      = Entries.upsert Prod.fst e.key (e.key, e.entered)
        (fun x => (x.1, e.confirmed x.2)) found := by
  unfold take Entries.upsert
  simp only [← has_iff_mem]
  cases hrise : e.rise with
  | some rise =>
      by_cases h : found.has e.profile.name = true <;>
        simp [sight, enter, h, Evidence.key, Evidence.confirmed,
          Evidence.entered, hrise]
  | none =>
      have hsame (x : String × Detected) : (x.1, e.confirmed x.2) = x := by
        simp [Evidence.confirmed, hrise]
      by_cases h : found.has e.profile.name = true <;>
        simp [enter, h, Evidence.key, Evidence.entered, hsame]

/-- A piece of evidence changes what stands under its own key and nothing
else. -/
theorem lookup_take (e : Evidence) :
    (found.take e).lookup key = e.update key (found.lookup key) := by
  rw [lookup_eq_find?, lookup_eq_find?, take_eq_upsert, Entries.find?_upsert,
    Evidence.update]
  · split
    · cases Entries.find? Prod.fst key found <;> rfl
    · rfl
  · rfl
  · exact fun _ => rfl

/-- The key of a piece of evidence is added unless it is there. -/
theorem keys_take (e : Evidence) :
    (found.take e).map Prod.fst
      = if e.key ∈ found.map Prod.fst then found.map Prod.fst
        else found.map Prod.fst ++ [e.key] := by
  rw [take_eq_upsert]
  exact Entries.keys_upsert rfl fun _ => rfl

theorem has_take (e : Evidence) :
    (found.take e).has key = true ↔ found.has key = true ∨ e.key = key := by
  rw [has_iff_lookup, has_iff_lookup, lookup_take, Evidence.update]
  split
  · rename_i heq
    simp [heq]
  · rename_i hne
    simp [Ne.symm hne]

-- ========================================================= many pieces

theorem takeAll_append (es es' : List Evidence) :
    found.takeAll (es ++ es') = (found.takeAll es).takeAll es' :=
  List.foldl_append

theorem takeAll_flatMap {α : Type} (xs : List α) (f : α → List Evidence) :
    found.takeAll (xs.flatMap f)
      = xs.foldl (fun found x => found.takeAll (f x)) found :=
  List.foldl_flatMap

/-- What stands under a key is built by the pieces of evidence in turn. -/
theorem lookup_takeAll (es : List Evidence) :
    (found.takeAll es).lookup key = es.foldl (fun d e => e.update key d)
    (found.lookup key) := by
  induction es generalizing found with
  | nil => rfl
  | cons e es ih =>
      show ((found.take e).takeAll es).lookup key = _
      rw [ih, lookup_take, List.foldl_cons]

/-- A framework is there if it was before or some piece of evidence speaks for
it. -/
theorem has_takeAll (es : List Evidence) :
    (found.takeAll es).has key = true ↔ found.has key = true ∨ ∃ e ∈ es,
      e.key = key := by
  induction es generalizing found with
  | nil => simp [takeAll]
  | cons e es ih =>
      show ((found.take e).takeAll es).has key = true ↔ _
      rw [ih, has_take, List.exists_mem_cons_iff, or_assoc]

end Detections

-- ================================================= evidence of a check

/-- The evidence that listed packages give. -/
def packageEvidence (packages : List (String × String))
    (isListed : String → Bool) (path : String) : List Evidence :=
  packages.filterMap fun (package, framework) =>
    match profile? framework with
    | some p => if isListed package then some ⟨p, 0.9, none, [path]⟩ else none
    | none => none

/-- The evidence of a requirements file. -/
def requirementEvidence (tree : FileTree) (path : String) : List Evidence :=
  match tree.readTextLenient path with
  | .ok text =>
    packageEvidence requirementPackages (fun package =>
      Text.contains package (Text.lower text))
      (Path.normal path)
  | .error _ => []

/-- The evidence of a package file. -/
def packageFileEvidence (tree : FileTree) (path : String) : List Evidence :=
  match listedPackages? tree path with
  | some names => packageEvidence nodePackages names.contains (Path.normal path)
  | none => []

/-- The evidence of a setup file. -/
def setupEvidence (tree : FileTree) (path : String) : List Evidence :=
  match tree.readTextLenient path with
  | .ok text =>
    if Text.contains "install_requires" (Text.lower text) then
      (profiles.filter fun p =>
        Text.contains p.name (Text.lower text)).map fun p =>
        ⟨p, 0.8, none, [Path.normal path]⟩
    else []
  | .error _ => []

/-- The evidence of the patterns that occur in a text: one piece for each. -/
def textEvidence (path text : String) : List Evidence :=
  readProfiles.flatMap fun (p, patterns) =>
    (patterns.filter fun pattern => pattern.occursIn text).map fun _ =>
      ⟨p, 0.7, some 0.1, [path]⟩

/-- The evidence of a source file. -/
def sourceEvidence (tree : FileTree) (path : String) : List Evidence :=
  match tree.readTextLenient path with
  | .ok text => textEvidence (Path.normal path) text
  | .error _ => []

/-- The evidence of the files and folders at the top of a project. -/
def layoutEvidence (tree : FileTree) (target : String) : List Evidence :=
  if tree.isFolder target then
    profiles.flatMap fun p =>
      ((p.folders.filter fun folder =>
        tree.exists? (Path.join target folder)).map fun _ =>
        ⟨p, 0.6, some 0.1, []⟩) ++
      ((p.files.filter fun file => tree.exists? (Path.join target file)).map
        fun file =>
        ⟨p, 0.8, some 0.2, [Path.join target file]⟩)
  else []

/-- The evidence of the package files at the top of a project. -/
def packageFilesEvidence (tree : FileTree) (target : String) : List Evidence :=
  requirementEvidence tree (Path.join target "requirements.txt") ++
    (setupEvidence tree (Path.join target "setup.py") ++
      packageFileEvidence tree (Path.join target "package.json"))

-- ==================================================== what is evidence

variable {tree : FileTree} {path target : String} {e : Evidence}

theorem mem_packageEvidence {packages : List (String × String)}
    {isListed : String → Bool} :
    e ∈ packageEvidence packages isListed path
      ↔ ∃ p ∈ profiles, e = ⟨p, 0.9, none, [path]⟩ ∧
          ∃ package, (package, p.name) ∈ packages ∧
          isListed package = true := by
  unfold packageEvidence
  rw [List.mem_filterMap]
  constructor
  · rintro ⟨⟨package, framework⟩, hpackage, hgiven⟩
    cases hp : profile? framework with
    | none => simp [hp] at hgiven
    | some p =>
        obtain ⟨hknown, rfl⟩ := profile?_eq_some_iff.1 hp
        cases hlisted : isListed package with
        | false => simp [hp, hlisted] at hgiven
        | true =>
            refine ⟨p, hknown, ?_, package, hpackage, hlisted⟩
            simpa [hp, hlisted] using hgiven.symm
  · rintro ⟨p, hknown, rfl, package, hpackage, hlisted⟩
    refine ⟨(package, p.name), hpackage, ?_⟩
    simp [profile?_eq_some_iff.2 ⟨hknown, rfl⟩, hlisted]

theorem mem_requirementEvidence :
    e ∈ requirementEvidence tree path
      ↔ ∃ p ∈ profiles, e = ⟨p, 0.9, none, [Path.normal path]⟩ ∧
          ∃ text, tree.readTextLenient path = .ok text ∧
            ∃ package, (package, p.name) ∈ requirementPackages ∧
              Text.contains package (Text.lower text) = true := by
  unfold requirementEvidence
  cases tree.readTextLenient path with
  | error why => simp
  | ok text => simp [mem_packageEvidence]

theorem mem_packageFileEvidence :
    e ∈ packageFileEvidence tree path
      ↔ ∃ p ∈ profiles, e = ⟨p, 0.9, none, [Path.normal path]⟩ ∧
          ∃ names, listedPackages? tree path = some names ∧
            ∃ package, (package, p.name) ∈ nodePackages ∧ package ∈ names := by
  unfold packageFileEvidence
  cases listedPackages? tree path with
  | none => simp
  | some names => simp [mem_packageEvidence]

theorem mem_setupEvidence :
    e ∈ setupEvidence tree path
      ↔ ∃ p ∈ profiles, e = ⟨p, 0.8, none, [Path.normal path]⟩ ∧
          ∃ text, tree.readTextLenient path = .ok text ∧
            Text.contains "install_requires" (Text.lower text) = true ∧
            Text.contains p.name (Text.lower text) = true := by
  unfold setupEvidence
  cases tree.readTextLenient path with
  | error why => simp
  | ok text =>
      by_cases h : Text.contains "install_requires" (Text.lower text) = true
      · simp only [if_pos h, List.mem_map, List.mem_filter]
        constructor
        · rintro ⟨p, ⟨hp, hname⟩, rfl⟩
          exact ⟨p, hp, rfl, text, rfl, h, hname⟩
        · rintro ⟨p, hp, rfl, text', htext, -, hname⟩
          obtain rfl : text = text' := Except.ok.inj htext
          exact ⟨p, ⟨hp, hname⟩, rfl⟩
      · simp [h]

theorem mem_sourceEvidence :
    e ∈ sourceEvidence tree path
      ↔ ∃ p ∈ profiles, e = ⟨p, 0.7, some 0.1, [Path.normal path]⟩ ∧
          ∃ text, tree.readTextLenient path = .ok text ∧
            ∃ pattern ∈ p.patterns,
              (Pattern.ofIgnoringCase pattern).occursIn text = true := by
  unfold sourceEvidence textEvidence readProfiles
  cases tree.readTextLenient path with
  | error why => simp
  | ok text =>
      simp only [List.mem_flatMap, List.mem_map, List.mem_filter]
      constructor
      · rintro ⟨_, ⟨p, hp, rfl⟩, read, ⟨hread, hoccurs⟩, rfl⟩
        obtain ⟨pattern, hpattern, rfl⟩ := List.mem_map.1 hread
        exact ⟨p, hp, rfl, text, rfl, pattern, hpattern, hoccurs⟩
      · rintro ⟨p, hp, rfl, text', htext, pattern, hpattern, hoccurs⟩
        obtain rfl : text = text' := Except.ok.inj htext
        exact ⟨_, ⟨p, hp, rfl⟩, _, ⟨List.mem_map_of_mem hpattern, hoccurs⟩, rfl⟩

theorem mem_layoutEvidence :
    e ∈ layoutEvidence tree target
      ↔ tree.isFolder target = true ∧ ∃ p ∈ profiles,
          (e = ⟨p, 0.6, some 0.1, []⟩ ∧
            ∃ folder ∈ p.folders,
            tree.exists? (Path.join target folder) = true) ∨
          ∃ file ∈ p.files, e = ⟨p, 0.8, some 0.2, [Path.join target file]⟩ ∧
            tree.exists? (Path.join target file) = true := by
  unfold layoutEvidence
  by_cases h : tree.isFolder target = true
  · simp only [if_pos h, List.mem_flatMap, List.mem_append, List.mem_map,
      List.mem_filter]
    constructor
    · rintro ⟨p, hp,
        ⟨folder, ⟨hfolder, hthere⟩, rfl⟩ | ⟨file, ⟨hfile, hthere⟩, rfl⟩⟩
      · exact ⟨h, p, hp, .inl ⟨rfl, folder, hfolder, hthere⟩⟩
      · exact ⟨h, p, hp, .inr ⟨file, hfile, rfl, hthere⟩⟩
    · rintro ⟨-, p, hp,
        ⟨rfl, folder, hfolder, hthere⟩ | ⟨file, hfile, rfl, hthere⟩⟩
      · exact ⟨p, hp, .inl ⟨folder, ⟨hfolder, hthere⟩, rfl⟩⟩
      · exact ⟨p, hp, .inr ⟨file, ⟨hfile, hthere⟩, rfl⟩⟩
  · simp [h]

-- ================================================= checks take it in

theorem enterPackages_eq (packages : List (String × String))
    (isListed : String → Bool) (path : String) (found : Detections) :
    enterPackages packages isListed path found
      = found.takeAll (packageEvidence packages isListed path) := by
  unfold enterPackages packageEvidence Detections.takeAll
  rw [List.foldl_filterMap]
  congr 1
  funext found x
  obtain ⟨package, framework⟩ := x
  cases hp : profile? framework with
  | none => simp [hp]
  | some p => cases hlisted : isListed package <;>
      simp [Detections.take, hp, hlisted]

theorem checkRequirements_eq (tree : FileTree) (path : String)
    (found : Detections) :
    checkRequirements tree path found
      = found.takeAll (requirementEvidence tree path) := by
  unfold checkRequirements requirementEvidence
  cases tree.readTextLenient path with
  | ok text => exact enterPackages_eq ..
  | error why => rfl

theorem checkPackageFile_eq (tree : FileTree) (path : String)
    (found : Detections) :
    checkPackageFile tree path found
      = found.takeAll (packageFileEvidence tree path) := by
  unfold checkPackageFile packageFileEvidence
  cases listedPackages? tree path with
  | some names => exact enterPackages_eq ..
  | none => rfl

theorem checkSetup_eq (tree : FileTree) (path : String) (found : Detections) :
    checkSetup tree path found = found.takeAll (setupEvidence tree path) := by
  unfold checkSetup setupEvidence
  cases tree.readTextLenient path with
  | error why => rfl
  | ok text =>
      simp only
      split
      · rw [Detections.takeAll, List.foldl_map, List.foldl_filter]
        rfl
      · rfl

theorem checkText_eq (path text : String) (found : Detections) :
    checkText path text found = found.takeAll (textEvidence path text) := by
  unfold checkText textEvidence
  rw [Detections.takeAll_flatMap]
  congr 1
  funext found x
  rw [Detections.takeAll, List.foldl_map, List.foldl_filter]
  rfl

theorem checkFile_eq (tree : FileTree) (path : String) (found : Detections) :
    checkFile tree path found = found.takeAll (sourceEvidence tree path) := by
  unfold checkFile sourceEvidence
  cases tree.readTextLenient path with
  | ok text => exact checkText_eq ..
  | error why => rfl

theorem checkLayout_eq (tree : FileTree) (target : String)
    (found : Detections) :
    checkLayout tree target found
      = found.takeAll (layoutEvidence tree target) := by
  unfold checkLayout layoutEvidence
  split
  · rw [Detections.takeAll_flatMap]
    congr 1
    funext found p
    rw [Detections.takeAll_append, Detections.takeAll, Detections.takeAll,
      List.foldl_map, List.foldl_filter, List.foldl_map, List.foldl_filter]
    rfl
  · rfl

/-- Where there is no file, there is no evidence. -/
theorem requirementEvidence_of_missing (h : tree.exists? path = false) :
    requirementEvidence tree path = [] := by
  obtain ⟨why, hread⟩ := FileTree.readTextLenient_of_missing h
  unfold requirementEvidence
  simp only [hread]

theorem setupEvidence_of_missing (h : tree.exists? path = false) :
    setupEvidence tree path = [] := by
  obtain ⟨why, hread⟩ := FileTree.readTextLenient_of_missing h
  unfold setupEvidence
  simp only [hread]

theorem packageFileEvidence_of_missing (h : tree.exists? path = false) :
    packageFileEvidence tree path = [] := by
  obtain ⟨why, hread⟩ := FileTree.readText_of_missing h
  unfold packageFileEvidence listedPackages?
  simp only [hread]

/-- That a file is there need not be asked first. -/
theorem checkPackageFiles_eq (tree : FileTree) (target : String)
    (found : Detections) :
    checkPackageFiles tree target found
      = found.takeAll (packageFilesEvidence tree target) := by
  have hguard (name : String) (evidence : String → List Evidence)
      (hmissing : tree.exists? (Path.join target name) = false →
        evidence (Path.join target name) = []) (found : Detections) :
      (if tree.exists? (Path.join target name) then
          found.takeAll (evidence (Path.join target name)) else found)
        = found.takeAll (evidence (Path.join target name)) := by
    cases hthere : tree.exists? (Path.join target name) with
    | true => rfl
    | false => rw [hmissing hthere]; rfl
  unfold checkPackageFiles packageFilesEvidence
  simp only [checkRequirements_eq, checkSetup_eq, checkPackageFile_eq]
  rw [hguard "requirements.txt" (requirementEvidence tree)
    requirementEvidence_of_missing,
    hguard "setup.py" (setupEvidence tree) setupEvidence_of_missing,
    hguard "package.json" (packageFileEvidence tree)
      packageFileEvidence_of_missing, Detections.takeAll_append,
      Detections.takeAll_append]

/-- The ways of looking for frameworks at a path. -/
inductive Check where
  | packageFiles
  | requirements
  | packageFile
  | setup
  | file
  | layout

namespace Check

/-- Carries a check out. -/
def run : Check → FileTree → String → Detections → Detections
  | .packageFiles => checkPackageFiles
  | .requirements => checkRequirements
  | .packageFile => checkPackageFile
  | .setup => checkSetup
  | .file => checkFile
  | .layout => checkLayout

/-- The evidence a check finds. -/
def evidence : Check → FileTree → String → List Evidence
  | .packageFiles => packageFilesEvidence
  | .requirements => requirementEvidence
  | .packageFile => packageFileEvidence
  | .setup => setupEvidence
  | .file => sourceEvidence
  | .layout => layoutEvidence

/-- A check takes in the evidence it finds, whatever was detected before. -/
theorem run_eq (c : Check) (tree : FileTree) (path : String)
    (found : Detections) :
    c.run tree path found = found.takeAll (c.evidence tree path) := by
  cases c with
  | packageFiles => exact checkPackageFiles_eq tree path found
  | requirements => exact checkRequirements_eq tree path found
  | packageFile => exact checkPackageFile_eq tree path found
  | setup => exact checkSetup_eq tree path found
  | file => exact checkFile_eq tree path found
  | layout => exact checkLayout_eq tree path found

end Check

/-- Checks of several files take in the evidence of all of them. -/
theorem checkFiles_eq (tree : FileTree) (paths : List String)
    (found : Detections) :
    paths.foldl (fun found path => checkFile tree path found) found
      = found.takeAll (paths.flatMap (sourceEvidence tree)) := by
  rw [Detections.takeAll_flatMap]
  simp only [checkFile_eq]

/-- A detection takes in the evidence of the package files, of the sources and
of the layout. -/
theorem detect_eq (tree : FileTree) (target : String) :
    detect tree target
      = Detections.takeAll []
          (packageFilesEvidence tree target ++
            (((filesOf tree target).filter isScanned).flatMap
              (sourceEvidence tree) ++ layoutEvidence tree target)) := by
  simp only [detect, Detections.takeAll_append, checkPackageFiles_eq,
    checkFiles_eq, checkLayout_eq]

/-- A folder at the top of a project gives a framework away. -/
theorem mem_detect_of_folder {tree : FileTree} {target name folder : String}
    (htarget : tree.isFolder target = true)
    (hprofile : ∃ p ∈ profiles, p.name = name ∧ folder ∈ p.folders)
    (hthere : tree.exists? (Path.join target folder) = true) :
    name ∈ (detect tree target).map Prod.fst := by
  obtain ⟨p, hp, rfl, hfolder⟩ := hprofile
  have he : (⟨p, 0.6, some 0.1, []⟩ : Evidence) ∈ layoutEvidence tree target :=
    mem_layoutEvidence.2 ⟨htarget, p, hp, .inl ⟨rfl, folder, hfolder, hthere⟩⟩
  rw [← Detections.has_iff_mem, detect_eq, Detections.has_takeAll]
  exact .inr ⟨_, List.mem_append_right _ (List.mem_append_right _ he), rfl⟩

end SourceAudit.Framework
