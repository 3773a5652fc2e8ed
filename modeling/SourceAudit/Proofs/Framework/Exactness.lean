/-
Which frameworks a detection finds: exactly those that something in the project
gives away.

The five ways in which a framework can be given away are the constructors of
`GivenAway`, said of the tree and the table of frameworks alone. Each is what
one sort of evidence comes down to, and since evidence of any sort enters a
framework that is not there (`Detections.has_takeAll`), the order of the checks
plays no part in whether a framework is found.

What a package file lists is what the values of two of its fields add to a
mapping. `Value.AddsKeys` has the rule for any value;
`packageNames?_eq_some_iff` says that the reader of package files follows it.
-/
import SourceAudit.Proofs.Framework.Evidence
import SourceAudit.Value.Access

namespace SourceAudit

-- ============================================================ mappings

namespace Value

/-- A value that can be taken for a pair with a key: it has two items to go
through, and the first can be a key. -/
def IsPair (v key : Value) : Prop :=
  ∃ second, v.each = .ok [key, second] ∧ key.isKey = true

/-- The keys under which a value adds to a mapping: the fields of a record, or
else the keys of the pairs it is made of. -/
inductive AddsKeys : Value → List Value → Prop where
  | record (fields : List (String × Value)) :
      AddsKeys (.record fields) (fields.map fun f => .text f.1)
  | pairs {v : Value} {items keys : List Value} (hrecord : ∀ fields,
      v ≠ .record fields)
      (hitems : v.each = .ok items)
      (hpairs : List.Forall₂ IsPair items keys) : AddsKeys v keys

/-- The text of a key that is a text. -/
def keyText : Value → String
  | .text s => s
  | _ => ""

theorem keyText_eq_iff {v : Value} {s : String} (hs : s ≠ "") :
    v.keyText = s ↔ v = .text s := by
  cases v <;> simp [keyText, hs.symm]

end Value

namespace Framework

open Value (IsPair AddsKeys keyText)

/-- A list is a pair if it has two items and the first can be a key. -/
theorem pairKey?_list {items : List Value} {name : String} :
    pairKey? (.list items) = some name
      ↔ ∃ key, IsPair (.list items) key ∧ keyText key = name := by
  unfold IsPair Value.each
  match items with
  | [] => simp [pairKey?]
  | [_] => simp [pairKey?]
  | _ :: _ :: _ :: _ => simp [pairKey?]
  | [key, second] => cases key <;> simp [pairKey?, Value.isKey, keyText]

/-- A text is a pair if it has two characters. -/
theorem pairKey?_text {s name : String} :
    pairKey? (.text s) = some name ↔ ∃ key, IsPair (.text s) key ∧
      keyText key = name := by
  unfold IsPair Value.each
  cases hs : s.toList with
  | nil => simp [pairKey?, hs]
  | cons a rest =>
      match rest with
      | [] => simp [pairKey?, hs]
      | [b] => simp [pairKey?, hs, Value.isKey, keyText]
      | _ :: _ :: _ => simp [pairKey?, hs]

/-- A record is a pair if it has two fields. -/
theorem pairKey?_record {fields : List (String × Value)} {name : String} :
    pairKey? (.record fields) = some name
      ↔ ∃ key, IsPair (.record fields) key ∧ keyText key = name := by
  unfold IsPair Value.each
  match fields with
  | [] => simp [pairKey?]
  | [_] => simp [pairKey?]
  | _ :: _ :: _ :: _ => simp [pairKey?]
  | [(key, _), _] => simp [pairKey?, Value.isKey, keyText]

/-- The entries that are read as pairs are those that can be taken for pairs. -/
theorem pairKey?_eq_some_iff {v : Value} {name : String} :
    pairKey? v = some name ↔ ∃ key, IsPair v key ∧ keyText key = name := by
  cases v with
  | list items => exact pairKey?_list
  | text s => exact pairKey?_text
  | record fields => exact pairKey?_record
  | null => simp [pairKey?, IsPair, Value.each]
  | bool b => simp [pairKey?, IsPair, Value.each]
  | int n => simp [pairKey?, IsPair, Value.each]
  | real x => simp [pairKey?, IsPair, Value.each]
  | date iso => simp [pairKey?, IsPair, Value.each]

/-- Items are read as pairs one by one. -/
theorem mapM_pairKey?_eq_some_iff {items : List Value} {names : List String} :
    items.mapM pairKey? = some names
      ↔ ∃ keys, List.Forall₂ IsPair items keys ∧ keys.map keyText = names := by
  induction items generalizing names with
  | nil => simp [eq_comm]
  | cons v items ih =>
      simp only [List.mapM_cons, Option.bind_eq_bind,
        Option.bind_eq_some_iff, ih, pairKey?_eq_some_iff]
      constructor
      · rintro ⟨name, ⟨key, hpair, rfl⟩, _, ⟨keys, hpairs, rfl⟩, hnames⟩
        exact ⟨key :: keys, .cons hpair hpairs, Option.some.inj hnames⟩
      · rintro ⟨keys, hpairs, rfl⟩
        cases hpairs with
        | cons hpair hpairs =>
            exact ⟨_, ⟨_, hpair, rfl⟩, _, ⟨_, hpairs, rfl⟩, rfl⟩

theorem addsKeys_record_iff {fields : List (String × Value)}
    {keys : List Value} :
    AddsKeys (.record fields) keys ↔ keys = fields.map fun f => .text f.1 := by
  constructor
  · intro h
    cases h with
    | record => rfl
    | pairs hrecord _ _ => exact absurd rfl (hrecord fields)
  · rintro rfl
    exact .record fields

theorem addsKeys_list_iff {items keys : List Value} :
    AddsKeys (.list items) keys ↔ List.Forall₂ IsPair items keys := by
  constructor
  · intro h
    cases h with
    | pairs _ hitems hpairs =>
        obtain rfl := Except.ok.inj hitems
        exact hpairs
  · exact .pairs (by simp) rfl

/-- A text that is not empty is made of single characters, and none of them is a
pair. -/
theorem addsKeys_text_iff {s : String} {keys : List Value} :
    AddsKeys (.text s) keys ↔ s = "" ∧ keys = [] := by
  constructor
  · intro h
    cases h with
    | pairs _ hitems hpairs =>
        cases hs : s.toList with
        | nil =>
            rw [Value.each, hs] at hitems
            obtain rfl := Except.ok.inj hitems
            cases hpairs
            exact ⟨String.toList_eq_nil_iff.1 hs, rfl⟩
        | cons c rest =>
            rw [Value.each, hs] at hitems
            obtain rfl := Except.ok.inj hitems
            cases hpairs with
            | cons hpair _ =>
                obtain ⟨second, heach, -⟩ := hpair
                simp [Value.each] at heach
  · rintro ⟨rfl, rfl⟩
    exact .pairs (by simp) rfl .nil

/-- A value that cannot be gone through adds nothing. -/
theorem not_addsKeys_of_error {v : Value} {why : Fault}
    (h : v.each = .error why) (hrecord : ∀ fields, v ≠ .record fields)
    (keys : List Value) : ¬AddsKeys v keys := by
  intro hadds
  cases hadds with
  | record fields => exact hrecord fields rfl
  | pairs _ hitems _ => rw [h] at hitems; simp at hitems

/-- The packages that are read off a field are the keys its value adds; a field
that is missing counts as an empty record. -/
theorem packageNames?_eq_some_iff {field : Option Value} {names : List String} :
    packageNames? field = some names
      ↔ ∃ keys, AddsKeys (field.getD (.record [])) keys ∧
      keys.map keyText = names := by
  cases field with
  | none => simp [packageNames?, addsKeys_record_iff, eq_comm]
  | some v =>
      have hnothing {v : Value} {why : Fault} (h : v.each = .error why)
          (hrecord : ∀ fields, v ≠ .record fields) :
          (none : Option (List String)) = some names
            ↔ ∃ keys, AddsKeys v keys ∧ keys.map keyText = names := by
        simp [not_addsKeys_of_error h hrecord]
      cases v with
      | record fields =>
          simp [packageNames?, addsKeys_record_iff, Function.comp_def, keyText]
      | list items =>
          simp only [packageNames?, Option.getD_some, addsKeys_list_iff]
          exact mapM_pairKey?_eq_some_iff
      | text s =>
          by_cases hs : s = ""
          · subst hs
            simp [packageNames?, addsKeys_text_iff]
          · simp [packageNames?, addsKeys_text_iff, hs]
      | null => exact hnothing rfl (by simp)
      | bool b => exact hnothing rfl (by simp)
      | int n => exact hnothing rfl (by simp)
      | real x => exact hnothing rfl (by simp)
      | date iso => exact hnothing rfl (by simp)

/-- The packages of a package file are the keys that its two fields add, if both
can be taken in. -/
theorem listedPackages?_eq_some_iff {tree : FileTree} {path : String}
    {names : List String} :
    listedPackages? tree path = some names
      ↔ ∃ text fields needed developed, tree.readText path = .ok text ∧
          Value.ofJson text = .ok (.record fields) ∧
          AddsKeys
            ((Value.lookup "dependencies" fields).getD (.record [])) needed ∧
          AddsKeys ((Value.lookup "devDependencies" fields).getD (.record []))
            developed ∧
          (needed ++ developed).map keyText = names := by
  unfold listedPackages?
  cases tree.readText path with
  | error why => simp
  | ok text =>
      simp only [Except.ok.injEq, exists_and_left, exists_eq_left']
      split
      · rename_i fields hjson
        simp only [hjson, Except.ok.injEq, Value.record.injEq, exists_eq_left',
          Option.bind_eq_bind, Option.bind_eq_some_iff,
          packageNames?_eq_some_iff]
        constructor
        · rintro ⟨_, ⟨needed, hneeded, rfl⟩, _,
            ⟨developed, hdeveloped, rfl⟩, hnames⟩
          refine ⟨needed, hneeded, developed, hdeveloped, ?_⟩
          rw [List.map_append]
          exact Option.some.inj hnames
        · rintro ⟨needed, hneeded, developed, hdeveloped, rfl⟩
          refine ⟨_, ⟨needed, hneeded, rfl⟩, _,
            ⟨developed, hdeveloped, rfl⟩, ?_⟩
          rw [List.map_append]
          rfl
      · rename_i hno
        constructor
        · intro h
          simp at h
        · rintro ⟨fields, hjson, -⟩
          exact absurd hjson (hno fields)

-- ========================================================== given away

/-- A framework that shows in a file: patterns are looked for in files with its
ending, and one of the framework's occurs in its text. -/
def Profile.ShowsIn (p : Profile) (tree : FileTree) (path : String) : Prop :=
  Text.lower (Path.ending path) ∈ scannedEndings ∧
    ∃ text, tree.readTextLenient path = .ok text ∧
      ∃ pattern ∈ p.patterns,
        (Pattern.ofIgnoringCase pattern).occursIn text = true

/-- What gives a framework away in a folder. -/
inductive GivenAway (tree : FileTree) (folder : String) (p : Profile) :
    Prop where
  /-- Its package is named in the requirements file. -/
  | requirement {text package : String}
      (hread : tree.readTextLenient (Path.join folder "requirements.txt")
        = .ok text)
      (hpackage : (package, p.name) ∈ requirementPackages)
      (hnamed : Text.contains package (Text.lower text) = true)
  /-- It is named in a setup file that lists what is needed. -/
  | setup {text : String}
      (hread : tree.readTextLenient (Path.join folder "setup.py") = .ok text)
      (hlists : Text.contains "install_requires" (Text.lower text) = true)
      (hnamed : Text.contains p.name (Text.lower text) = true)
  /-- Its package is a key that one of two fields of the package file adds, both
  of which can be taken in. -/
  | packageFile {text package : String} {fields : List (String × Value)}
      {needed developed : List Value}
      (hread : tree.readText (Path.join folder "package.json") = .ok text)
      (hjson : Value.ofJson text = .ok (.record fields))
      (hneeded :
        AddsKeys
          ((Value.lookup "dependencies" fields).getD (.record [])) needed)
      (hdeveloped :
        AddsKeys ((Value.lookup "devDependencies" fields).getD (.record []))
          developed)
      (hpackage : (package, p.name) ∈ nodePackages)
      (hkey : .text package ∈ needed ++ developed)
  /-- It shows in a file at any depth. -/
  | source {path : String} (hfile : tree.HoldsFile folder path)
      (hshows : p.ShowsIn tree path)
  /-- One of its files or folders is there. -/
  | layout {name : String} (hname : name ∈ p.folders ++ p.files)
      (hthere : tree.exists? (Path.join folder name) = true)

variable {tree : FileTree} {target : String} {p : Profile}

theorem ne_empty_of_mem_nodePackages {package framework : String}
    (h : (package, framework) ∈ nodePackages) : package ≠ "" := by
  have hall : ∀ x ∈ nodePackages, x.1 ≠ "" := by decide
  exact hall _ h

-- =============================================================== found

/-- Package files only give away what belongs to a folder. -/
theorem givenAway_of_mem_packageFiles {e : Evidence}
    (h : e ∈ packageFilesEvidence tree target) :
    e.profile ∈ profiles ∧ tree.isFolder target = true ∧
      GivenAway tree target e.profile := by
  rcases List.mem_append.1 h with h | h
  · obtain ⟨p, hp, rfl, text, htext, package, hpackage, hnamed⟩ :=
      mem_requirementEvidence.1 h
    obtain ⟨bytes, hread, -⟩ := FileTree.readTextLenient_eq_ok_iff.1 htext
    exact ⟨hp, FileTree.isFolder_of_read_join rfl (by decide) hread,
      .requirement htext hpackage hnamed⟩
  rcases List.mem_append.1 h with h | h
  · obtain ⟨p, hp, rfl, text, htext, hlists, hnamed⟩ := mem_setupEvidence.1 h
    obtain ⟨bytes, hread, -⟩ := FileTree.readTextLenient_eq_ok_iff.1 htext
    exact ⟨hp, FileTree.isFolder_of_read_join rfl (by decide) hread,
      .setup htext hlists hnamed⟩
  · obtain ⟨p, hp, rfl, names, hnames, package, hpackage, hlisted⟩ :=
      mem_packageFileEvidence.1 h
    obtain ⟨text, fields, needed, developed, htext, hjson, hneeded,
        hdeveloped, rfl⟩ :=
      listedPackages?_eq_some_iff.1 hnames
    obtain ⟨bytes, hread⟩ := FileTree.read_of_readText htext
    obtain ⟨key, hkey, htextOf⟩ := List.mem_map.1 hlisted
    rw [Value.keyText_eq_iff (ne_empty_of_mem_nodePackages hpackage)] at htextOf
    exact ⟨hp, FileTree.isFolder_of_read_join rfl (by decide) hread,
      .packageFile htext hjson hneeded hdeveloped hpackage (htextOf ▸ hkey)⟩

/-- So does the layout. -/
theorem givenAway_of_mem_layout {e : Evidence}
    (h : e ∈ layoutEvidence tree target) :
    e.profile ∈ profiles ∧ tree.isFolder target = true ∧
      GivenAway tree target e.profile := by
  obtain ⟨hfolder, p, hp,
      ⟨rfl, name, hname, hthere⟩ | ⟨name, hname, rfl, hthere⟩⟩ :=
    mem_layoutEvidence.1 h
  · exact ⟨hp, hfolder, .layout (List.mem_append_left _ hname) hthere⟩
  · exact ⟨hp, hfolder, .layout (List.mem_append_right _ hname) hthere⟩

/-- A framework shows in a file if the file is scanned and gives evidence for
it. -/
theorem showsIn_iff {path : String} (hp : p ∈ profiles) :
    p.ShowsIn tree path
      ↔ isScanned path = true ∧ ∃ e ∈ sourceEvidence tree path,
        e.profile = p := by
  unfold Profile.ShowsIn isScanned
  rw [List.contains_iff_mem]
  refine and_congr_right fun _ => ?_
  constructor
  · rintro ⟨text, htext, pattern, hpattern, hoccurs⟩
    exact ⟨_, mem_sourceEvidence.2 ⟨p, hp, rfl, text, htext, pattern, hpattern,
      hoccurs⟩, rfl⟩
  · rintro ⟨e, he, rfl⟩
    obtain ⟨q, -, rfl, text, htext, pattern, hpattern, hoccurs⟩ :=
      mem_sourceEvidence.1 he
    exact ⟨text, htext, pattern, hpattern, hoccurs⟩

/-- A path and its plain form show the same. -/
theorem showsIn_normal {path : String} : p.ShowsIn tree (Path.normal path) ↔
    p.ShowsIn tree path := by
  simp only [Profile.ShowsIn, Path.ending_normal,
    FileTree.readTextLenient_normal]

/-- The sources of a target: the file that it is, or the files that it holds. -/
theorem mem_filesOf {path : String} :
    path ∈ filesOf tree target
      ↔ tree.isFile target = true ∧ path = Path.normal target ∨
        tree.isFile target = false ∧ tree.HoldsFile target path := by
  unfold filesOf
  cases h : tree.isFile target with
  | true => simp
  | false => simp [FileTree.mem_filesBelow]

/-- What gives a framework away is found among the evidence. -/
theorem exists_evidence_of_givenAway (hp : p ∈ profiles)
    (hfolder : tree.isFolder target = true) (h : GivenAway tree target p) :
    ∃ e ∈ packageFilesEvidence tree target ++
        (((filesOf tree target).filter isScanned).flatMap
          (sourceEvidence tree) ++ layoutEvidence tree target),
          e.profile = p := by
  simp only [packageFilesEvidence, List.mem_append]
  cases h with
  | @requirement text package htext hpackage hnamed =>
      exact ⟨_, .inl (.inl (mem_requirementEvidence.2
        ⟨p, hp, rfl, text, htext, package, hpackage, hnamed⟩)), rfl⟩
  | @setup text htext hlists hnamed =>
      exact ⟨_, .inl (.inr (.inl (mem_setupEvidence.2
        ⟨p, hp, rfl, text, htext, hlists, hnamed⟩))), rfl⟩
  | @packageFile text package fields needed developed htext hjson hneeded
      hdeveloped hpackage hkey =>
      have hnames := listedPackages?_eq_some_iff.2
        ⟨text, fields, needed, developed, htext, hjson, hneeded,
          hdeveloped, rfl⟩
      exact ⟨_, .inl (.inr (.inr (mem_packageFileEvidence.2
        ⟨p, hp, rfl, _, hnames, package, hpackage,
          List.mem_map.2 ⟨_, hkey, rfl⟩⟩))), rfl⟩
  | @source path hfile hshows =>
      obtain ⟨hscanned, e, he, heq⟩ := (showsIn_iff hp).1 hshows
      have hnoFile : tree.isFile target = false := by
        by_contra hisFile
        rw [Bool.not_eq_false] at hisFile
        exact Bool.false_ne_true
          ((FileTree.not_isFolder_of_isFile hisFile).symm.trans hfolder)
      have hpath : path ∈ (filesOf tree target).filter isScanned :=
        List.mem_filter.2 ⟨mem_filesOf.2 (.inr ⟨hnoFile, hfile⟩), hscanned⟩
      exact ⟨e, .inr (.inl (List.mem_flatMap.2 ⟨path, hpath, he⟩)), heq⟩
  | @layout name hname hthere =>
      rcases List.mem_append.1 hname with hname | hname
      · exact ⟨_, .inr (.inr (mem_layoutEvidence.2
          ⟨hfolder, p, hp, .inl ⟨rfl, name, hname, hthere⟩⟩)), rfl⟩
      · exact ⟨_, .inr (.inr (mem_layoutEvidence.2
          ⟨hfolder, p, hp, .inr ⟨name, hname, rfl, hthere⟩⟩)), rfl⟩

/-- A detection finds exactly the frameworks of the table that are given away:
in a folder by any of the five ways, in a single file by its text alone. -/
theorem mem_detect_iff (tree : FileTree) (target key : String) :
    key ∈ (detect tree target).map Prod.fst
      ↔ ∃ p ∈ profiles, p.name = key ∧
          (tree.isFile target = true ∧ p.ShowsIn tree target ∨
            tree.isFolder target = true ∧ GivenAway tree target p) := by
  rw [← Detections.has_iff_mem, detect_eq, Detections.has_takeAll]
  constructor
  · rintro (h | ⟨e, he, rfl⟩)
    · simp [Detections.has] at h
    rcases List.mem_append.1 he with he | he
    · obtain ⟨hp, hfolder, hgiven⟩ := givenAway_of_mem_packageFiles he
      exact ⟨e.profile, hp, rfl, .inr ⟨hfolder, hgiven⟩⟩
    rcases List.mem_append.1 he with he | he
    · obtain ⟨path, hpath, he⟩ := List.mem_flatMap.1 he
      obtain ⟨hfile, hscanned⟩ := List.mem_filter.1 hpath
      obtain ⟨p, hp, rfl, -⟩ := mem_sourceEvidence.1 he
      have hshows : p.ShowsIn tree path :=
        (showsIn_iff hp).2 ⟨hscanned, _, he, rfl⟩
      rcases mem_filesOf.1 hfile with ⟨hisFile, rfl⟩ | ⟨-, hholds⟩
      · exact ⟨p, hp, rfl, .inl ⟨hisFile, showsIn_normal.1 hshows⟩⟩
      · exact ⟨p, hp, rfl, .inr ⟨hholds.isFolder, .source hholds hshows⟩⟩
    · obtain ⟨hp, hfolder, hgiven⟩ := givenAway_of_mem_layout he
      exact ⟨e.profile, hp, rfl, .inr ⟨hfolder, hgiven⟩⟩
  · rintro ⟨p, hp, rfl, ⟨hisFile, hshows⟩ | ⟨hfolder, hgiven⟩⟩
    · obtain ⟨hscanned, e, he, rfl⟩ :=
        (showsIn_iff hp).1 (showsIn_normal.2 hshows)
      have hpath : Path.normal target
          ∈ (filesOf tree target).filter isScanned :=
        List.mem_filter.2 ⟨mem_filesOf.2 (.inl ⟨hisFile, rfl⟩), hscanned⟩
      exact .inr ⟨e, List.mem_append_right _ (List.mem_append_left _
        (List.mem_flatMap.2 ⟨_, hpath, he⟩)), rfl⟩
    · obtain ⟨e, he, rfl⟩ := exists_evidence_of_givenAway hp hfolder hgiven
      exact .inr ⟨e, he, rfl⟩

end Framework

end SourceAudit
